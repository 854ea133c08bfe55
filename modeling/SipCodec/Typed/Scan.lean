import SipCodec.Text.Lexical
import SipCodec.Text.Numeral
import SipCodec.Text.Case

/-! The reading steps that typed header values share: a value is cut from the text after
leading white space and only white space may follow it; lists are separated by commas with
white space around them, and some lists may be empty. -/

namespace SipCodec.Scan

/-- A cutting step: the rest of the text and what was cut, or a failure. -/
abbrev Cut (α : Type) := Bytes → Outcome (Bytes × α)

/-- Reads a whole value: white space before it is skipped, only white space may follow it. -/
def value {α β : Type} (s : Bytes) (cut : Cut α) (read : α → Outcome β) : Outcome β := do
  let (rest, tok) ← cut (Lexical.skipLws s)
  if !(Lexical.trimLws rest).isEmpty then throw Fault.trailing
  read tok

/-- Cuts one or more items separated by commas. -/
def list {α : Type} (item : Cut α) (s : Bytes) : Outcome (Bytes × List α) :=
  go (s.length + 1) (Lexical.skipLws s) []
where
  go : Nat → Bytes → List α → Outcome (Bytes × List α)
    | 0, rest, acc => .ok (rest, acc.reverse)
    | fuel + 1, rest, acc => do
      let (rest, tok) ← item rest
      match Lexical.cutByte rest 44 with
      | some more => go fuel more (tok :: acc)
      | none => return (rest, (tok :: acc).reverse)

/-- Whether nothing but white space stands before the end of the value. -/
def isEmptyValue (s : Bytes) : Bool :=
  match Lexical.skipLws s with
  | [] => true
  | c :: _ => c == 13 || c == 10

/-- Cuts a list that may be empty. -/
def optList {α : Type} (item : Cut α) (s : Bytes) : Outcome (Bytes × List α) :=
  if isEmptyValue s then .ok (s, []) else list item s

/-- Skips linear white space, telling whether there was any. -/
def cutLws (s : Bytes) : Option Bytes :=
  let rest := Lexical.skipLws s
  if rest.length < s.length then some rest else none

/-- Cuts a token. -/
def token : Cut Bytes := fun s =>
  match Lexical.cutToken s with
  | some (tok, rest) => .ok (rest, tok)
  | none => .error (.tokenizeText "token expected")

/-- Cuts a run of decimal digits. -/
def number : Cut Bytes := fun s =>
  let ds := s.takeWhile Octet.isDigit
  if ds.isEmpty then .error (.tokenizeText "digits expected") else .ok (s.drop ds.length, ds)

/-- Reads decimal digits as a 32-bit number. -/
def uint32 (ds : Bytes) : Outcome Nat := Numeral.decimal 32 ds

/-- Reads a whole value that is a 32-bit decimal. -/
def parseUint32 (s : Bytes) : Outcome Nat := value s number uint32

end SipCodec.Scan

namespace SipCodec.TokenList

/-- Tokens joined by a comma and a blank. -/
def render (l : List Bytes) : Bytes := Bytes.joinWith (lit ", ") l

def contains (l : List Bytes) (tok : Bytes) : Bool := l.any (Bytes.eqFold · tok)

def equal (a b : List Bytes) : Bool :=
  a.length == b.length && (a.zip b).all fun (x, y) => Bytes.eqFold x y

/-- Every element is a token, and there is at least one unless `allowEmpty`. -/
def isValid (allowEmpty : Bool) (l : List Bytes) : Bool :=
  if l.isEmpty then allowEmpty else l.all Lexical.isToken

def parse (s : Bytes) : Outcome (List Bytes) := Scan.value s (Scan.list Scan.token) pure

def parseOpt (s : Bytes) : Outcome (List Bytes) := Scan.value s (Scan.optList Scan.token) pure

end SipCodec.TokenList
