import SipCodec.Text.Utf8

/-! The lexical rules of SIP (RFC 3261 §25.1) that every part of a message is read with:
tokens, quoted strings with their quoted pairs, and linear white space, which may fold a value
onto the next line (`CRLF` followed by a blank). -/

namespace SipCodec.Lexical

/-- `token` characters: letters, digits and ``- . ! % * _ + ` ' ~``. -/
def isTokenChar (c : UInt8) : Bool :=
  Octet.isAlnum c || c == 45 || c == 46 || c == 33 || c == 37 || c == 42 || c == 95 ||
    c == 43 || c == 96 || c == 39 || c == 126

/-- Length of the token at the front. -/
def tokenLen (s : Bytes) : Nat := (s.takeWhile isTokenChar).length

def isToken (s : Bytes) : Bool := !s.isEmpty && s.all isTokenChar

/-- Length of one character of a quoted string at the front: plain text, a quoted pair
(a backslash and an ASCII octet other than CR and LF), a folded line break, or a whole UTF-8
character; 0 when none starts there. -/
def qcharLen : Bytes → Nat
  | [] => 0
  | c :: rest =>
    if c == 32 || c == 9 || c == 0x21 || (0x23 ≤ c && c ≤ 0x5B) || (0x5D ≤ c && c ≤ 0x7E) then 1
    else if c == 92 then
      match rest with
      | d :: _ => if d ≤ 0x7F && d != 13 && d != 10 then 2 else 0
      | [] => 0
    else if c == 13 then
      match rest with
      | 10 :: w :: _ => if Octet.isWsp w then 3 else 0
      | _ => 0
    else if c ≥ 0x80 then
      match Utf8.leading (c :: rest) with
      | some (_, n) => n
      | none => 0
    else 0

/-- Length of the quoted string at the front, quotes included; 0 when there is none. -/
def quotedStringLen : Bytes → Nat
  | 34 :: rest =>
    let body := Bytes.runLength qcharLen rest
    match rest.drop body with
    | 34 :: _ => body + 2
    | _ => 0
  | _ => 0

def isQuoted (s : Bytes) : Bool := s.length > 1 && quotedStringLen s == s.length

/-- Length of the linear white space at the front: `[*WSP CRLF] 1*WSP`, taken as long as
possible. -/
def lwsLen (s : Bytes) : Nat :=
  match s with
  | c :: _ =>
    if Octet.isWsp c || c == 13 then
      let blanks := (s.takeWhile Octet.isWsp).length
      match s.drop blanks with
      | 13 :: 10 :: rest =>
        let more := (rest.takeWhile Octet.isWsp).length
        if more > 0 then blanks + 2 + more else blanks
      | _ => blanks
    else 0
  | [] => 0

/-- Drops all linear white space at the front, over any number of folds. -/
def skipLws (s : Bytes) : Bytes := s.drop (Bytes.runLength lwsLen s)

/-- Drops linear white space at the front and blanks and line breaks at the end. -/
def trimLws (s : Bytes) : Bytes :=
  Bytes.trimRightBy (fun c => c == 32 || c == 9 || c == 13 || c == 10) (skipLws s)

/-- The token at the front and the rest. -/
def cutToken (s : Bytes) : Option (Bytes × Bytes) :=
  let n := tokenLen s
  if n = 0 then none else some (s.take n, s.drop n)

/-- The quoted string at the front, quotes kept, and the rest. -/
def cutQuoted (s : Bytes) : Option (Bytes × Bytes) :=
  let n := quotedStringLen s
  if n = 0 then none else some (s.take n, s.drop n)

/-- Consumes the octet `c` at the front, with linear white space allowed on both sides. -/
def cutByte (s : Bytes) (c : UInt8) : Option Bytes :=
  match skipLws s with
  | b :: rest => if b == c then some (skipLws rest) else none
  | [] => none

/-- Index of the first `c` outside quoted strings (where backslash escapes) and outside
angle brackets (which nest). -/
def indexUnquoted (c : UInt8) (s : Bytes) : Option Nat :=
  go s 0 false false 0
where
  go : Bytes → Nat → Bool → Bool → Nat → Option Nat
    | [], _, _, _, _ => none
    | b :: rest, i, quoted, escaped, angle =>
      if quoted then
        if escaped then go rest (i + 1) true false angle
        else if b == 92 then go rest (i + 1) true true angle
        else if b == 34 then go rest (i + 1) false false angle
        else go rest (i + 1) true false angle
      else if b == c && angle == 0 then some i
      else if b == 34 then go rest (i + 1) true escaped angle
      else if b == 60 then go rest (i + 1) false escaped (angle + 1)
      else if b == 62 && angle > 0 then go rest (i + 1) false escaped (angle - 1)
      else go rest (i + 1) false escaped angle

/-- The text before and after the first top-level `c`, see `indexUnquoted`. -/
def cutUnquoted (c : UInt8) (s : Bytes) : Option (Bytes × Bytes) :=
  (indexUnquoted c s).map fun i => (s.take i, s.drop (i + 1))

/-- Writes a quoted string: quotes around, a backslash before every quote and backslash. -/
def quote (s : Bytes) : Bytes :=
  [34] ++ s.flatMap (fun c => if c == 34 || c == 92 then [92, c] else [c]) ++ [34]

/-- Resolves quoted pairs; a lone backslash at the end stays. -/
def unpair : Bytes → Bytes
  | [] => []
  | 92 :: c :: rest => c :: unpair rest
  | c :: rest => c :: unpair rest

/-- Removes the quotes around a quoted text and resolves its quoted pairs; text that does not
start and end with a quote is kept as it is. -/
def unquote (s : Bytes) : Bytes :=
  match s with
  | 34 :: rest@(_ :: _) =>
    if rest.getLast? == some 34 then unpair rest.dropLast else s
  | _ => s

end SipCodec.Lexical
