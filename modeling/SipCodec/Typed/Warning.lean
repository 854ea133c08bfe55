import SipCodec.Typed.Scan
import SipCodec.Text.Literal

/-! Values of the `Warning` header (RFC 3261 §20.43): a three-digit code, the agent that added
the warning, and a quoted text. -/

namespace SipCodec

/-- One warning: code, agent and text (unquoted). -/
structure WarningValue where
  code : Nat
  agent : Bytes
  text : Bytes
  deriving DecidableEq, Inhabited

namespace WarningValue

def render (w : WarningValue) : Bytes :=
  Bytes.ofNatPadded 3 w.code ++ [32] ++ w.agent ++ [32] ++ Lexical.quote w.text

/-- Codes run from 100 to 999, and an agent is named. -/
def isValid (w : WarningValue) : Bool := 100 ≤ w.code && w.code ≤ 999 && !w.agent.isEmpty

/-- The texts of a warning as they stand in the input. -/
structure Token where
  code : Bytes
  agent : Bytes
  text : Bytes

def endsAgent (c : UInt8) : Bool := Octet.isWsp c || c == 13 || c == 10 || c == 34

def tokenize : Scan.Cut Token := fun s => do
  let code := s.take 3
  if code.length < 3 || !Bytes.isDigits code then throw (.tokenizeText "warning code expected")
  let some rest := Scan.cutLws (s.drop 3) | throw (.tokenizeText "white space expected")
  let agent := rest.takeWhile (!endsAgent ·)
  if agent.isEmpty then throw (.tokenizeText "warning agent expected")
  let some rest := Scan.cutLws (rest.drop agent.length) | throw (.tokenizeText "white space expected")
  let some (text, rest) := Lexical.cutQuoted rest | throw (.tokenizeText "quoted warning text expected")
  return (rest, ⟨code, agent, text⟩)

def ofToken (t : Token) : Outcome WarningValue := do
  let code ← Numeral.decimal 16 t.code
  if !Utf8.isValid t.text then throw (.detail .utf8 (lit "warning text " ++ Literal.quote t.text))
  return ⟨code, t.agent, Lexical.unquote t.text⟩

def renderList (l : List WarningValue) : Bytes := Bytes.joinWith (lit ", ") (l.map render)

def parseList (s : Bytes) : Outcome (List WarningValue) :=
  Scan.value s (Scan.list tokenize) (·.mapM ofToken)

end WarningValue

end SipCodec
