import SipCodec.Text.Case

/-! Digest algorithms and qualities of protection (RFC 7616). Known algorithms are MD5,
SHA-256 and SHA-512, each also in a `-sess` variant; a known name read in any ASCII case takes
its table spelling, others are kept as written. -/

namespace SipCodec

structure Algorithm where
  name : Bytes
  deriving DecidableEq, Inhabited

namespace Algorithm

def known : List Bytes :=
  ["MD5", "MD5-sess", "SHA-256", "SHA-256-sess", "SHA-512", "SHA-512-sess"].map lit

def md5 : Algorithm := ⟨lit "MD5"⟩

/-- An algorithm from its written name. -/
def ofText (s : Bytes) : Algorithm :=
  match known.find? (Bytes.eqFoldAscii · s) with
  | some k => ⟨k⟩
  | none => ⟨s⟩

def isKnown (a : Algorithm) : Bool := known.any (Bytes.eqFold a.name)

/-- Whether the name ends in `-sess`, in any case. -/
def isSess (a : Algorithm) : Bool := (lit "-sess").isSuffixOf (Bytes.toLower a.name)

/-- The algorithm without its `-sess` suffix. -/
def base (a : Algorithm) : Algorithm :=
  if a.isSess then ofText (a.name.take (a.name.length - 5)) else a

def equal (a b : Algorithm) : Bool := Bytes.eqFold a.name b.name

end Algorithm

/-- A quality of protection; `auth` and `auth-int` read in any ASCII case take their
lower-case spelling. -/
structure Qop where
  name : Bytes
  deriving DecidableEq, Inhabited

namespace Qop

def auth : Qop := ⟨lit "auth"⟩

def authInt : Qop := ⟨lit "auth-int"⟩

def ofText (s : Bytes) : Qop :=
  if Bytes.eqFoldAscii s (lit "auth") then auth
  else if Bytes.eqFoldAscii s (lit "auth-int") then authInt
  else ⟨s⟩

def equal (a b : Qop) : Bool := Bytes.eqFold a.name b.name

end Qop

end SipCodec
