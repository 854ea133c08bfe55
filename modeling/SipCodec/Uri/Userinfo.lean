import SipCodec.Grammar.Rules

/-! The user part of a SIP URI: a user name and an optional password, before the `@`. Both are
held unescaped and written with every octet outside their character class escaped. -/

namespace SipCodec

/-- A user and an optional password. -/
structure Userinfo where
  user : Bytes
  password : Option Bytes
  deriving DecidableEq, Inhabited

namespace Userinfo

def ofUser (user : Bytes) : Userinfo := ⟨user, none⟩

def withPassword (u : Userinfo) (password : Bytes) : Userinfo := { u with password := some password }

def render (u : Userinfo) : Bytes :=
  Percent.encode Percent.isUserChar u.user ++ (match u.password with
    | some p => 58 :: Percent.encode Percent.isPasswordChar p
    | none => [])

def isValid (u : Userinfo) : Bool := !u.user.isEmpty

/-- The texts of a user and password as they stand in the input; `password` is present when a
colon follows the user. -/
structure Token where
  user : Bytes
  password : Option Bytes
  deriving Inhabited

/-- The user and password named in a matched `userinfo`. -/
def Token.ofNode (n : Grammar.Node) : Token :=
  { user := ((n.find? "user").map Grammar.Node.text).getD []
    password := (n.find? ":password").map fun p => ((p.find? "password").map Grammar.Node.text).getD [] }

/-- Cuts a user part with its `@` at the front. -/
def tokenize (s : Bytes) : Outcome (Bytes × Token) :=
  match Grammar.matchRule Grammar.userinfo s with
  | .error _ => .error (.tokenizeText "userinfo expected")
  | .ok n => .ok (s.drop n.text.length, Token.ofNode n)

/-- Unescapes a part of a URI; a `%` that starts no escape is a parse failure. -/
def unescape (s : Bytes) : Outcome Bytes :=
  match Percent.decodeStrict s with
  | .ok v => .ok v
  | .error f => .error (Fault.wrapIn .parse f)

def ofToken (tok : Token) : Outcome Userinfo := do
  let user ← unescape tok.user
  match tok.password with
  | none => return ⟨user, none⟩
  | some p => return ⟨user, some (← unescape p)⟩

end Userinfo

end SipCodec
