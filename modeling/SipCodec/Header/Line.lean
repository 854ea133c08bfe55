import SipCodec.Header.Field
import SipCodec.Grammar.Rules
import SipCodec.Text.Literal

/-! Header lines (RFC 3261 §7.3): a name, a colon, a value that may be folded over several
lines, and the line end (CRLF, or LF alone). A value is kept as written but unfolded: each
line break with the blanks around it becomes one space. The value must be UTF-8. A line that
does not match says why: no name, no colon after the name, or the line is not yet complete. -/

namespace SipCodec

namespace Header

/-- The texts of a header line: the name, and the value with its folds, blanks before it
skipped. -/
structure LineToken where
  name : Bytes
  value : Bytes
  deriving Inhabited

/-- Skips spaces and tabs. -/
def skipWsp (s : Bytes) : Bytes := s.dropWhile Octet.isWsp

/-- Why a text does not start with a header line. -/
def lineFault (s : Bytes) : Fault :=
  let incomplete : Fault := .detail .incomplete (lit "header line")
  match Lexical.cutToken s with
  | none => .tokenizeText "header name expected"
  | some (name, rest) =>
    match skipWsp rest with
    | c :: _ =>
      if c != 58 then .detail .tokenize (lit "\":\" expected after header name " ++ Literal.quote name)
      else incomplete
    | [] => incomplete

/-- Cuts a header line, with its line end, at the front. -/
def tokenizeLine (s : Bytes) : Outcome (Bytes × LineToken) :=
  if s.isEmpty then .error (.detail .incomplete (lit "header line expected"))
  else match Grammar.matchRule Grammar.messageHeader s with
    | .error _ => .error (lineFault s)
    | .ok n =>
      let name := ((n.find? "header-name").map Grammar.Node.text).getD []
      let value := ((n.find? "header-value").map fun v => skipWsp v.text).getD []
      .ok (s.drop n.text.length, ⟨name, value⟩)

/-- Joins the lines of a folded value with one space each, blanks around each break dropped;
blanks at the end of the value are dropped too. -/
def unfold (v : Bytes) : Bytes :=
  let trimLine := Bytes.trimRightBy fun c => c == 32 || c == 9 || c == 13
  let v := Bytes.trimRightBy (fun c => c == 32 || c == 9) v
  if !v.contains 10 then v
  else match Bytes.splitOnByte 10 v with
    | [] => []
    | first :: more => trimLine first ++ more.flatMap fun l => 32 :: skipWsp (trimLine l)

/-- The field of a cut line: its value must be UTF-8, and is unfolded. -/
def ofLine (tok : LineToken) : Outcome Header :=
  if !Utf8.isValid tok.value then
    .error (.detail .utf8 (lit "header " ++ Literal.quote tok.name ++ lit " value"))
  else .ok (make tok.name (unfold tok.value))

/-- Reads a whole header line; the line end may be left out. -/
def parse (s : Bytes) : Outcome Header := do
  let s := if s.getLast? == some 10 then s else s ++ lit "\r\n"
  let (rest, tok) ← tokenizeLine s
  if !rest.isEmpty then throw Fault.trailing
  ofLine tok

end Header

end SipCodec
