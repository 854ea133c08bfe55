import SipCodec.Data.Json
import SipCodec.Error

/-! Inspection requests and answers. A request is a JSON object naming an operation and its
inputs; its answer is a JSON document that shows the values the codec computed. Octet inputs
may be given as text or, under the same name with `_hex` appended, as hexadecimal octets,
which win when both are present. A request that cannot be understood is refused with a
reason instead of an answer. -/

namespace SipCodec.Inspect

/-- An answer, or the reason the request was refused. -/
abbrev Answer := Except String Json

/-- Quotes a request's own word inside a refusal. -/
def quoted (s : String) : String := "\"" ++ s ++ "\""

/-- Octets written as hexadecimal digits of either case. -/
def fromHex : Bytes → Option Bytes
  | [] => some []
  | a :: b :: rest =>
    if Octet.isHex a && Octet.isHex b then
      (fromHex rest).map ((Octet.hexValue a * 16 + Octet.hexValue b).toUInt8 :: ·)
    else none
  | [_] => none

/-- The octet input `name` of a request: its `_hex` form first, then its text form. -/
def octets? (req : Json) (name : String) : Option Bytes :=
  match req.get? (name ++ "_hex") with
  | some (.str h) => fromHex h
  | _ => (req.get? name).bind Json.asBytes?

/-- The octet input `name`, empty when absent. -/
def octets (req : Json) (name : String) : Bytes := (octets? req name).getD []

/-- A word-valued input (an operation, a kind, a name). -/
def word? (req : Json) (name : String) : Option String :=
  match req.get? name with
  | some (.str s) => String.fromUTF8? (ByteArray.mk s.toArray)
  | _ => none

def word (req : Json) (name : String) : String := (word? req name).getD ""

def flag (req : Json) (name : String) : Bool :=
  match req.get? name with
  | some (.bool b) => b
  | _ => false

def integer? (req : Json) (name : String) : Option Int := (req.get? name).bind Json.asInt?

/-- A number member, or a default when it is absent. -/
def natOr (req : Json) (key : String) (default : Nat) : Nat :=
  match integer? req key with
  | some n => n.toNat
  | none => default

/-- A number member taken as an unsigned integer of `bits` bits, wrapping around as such a
conversion does, or a default when it is absent. -/
def wordOr (req : Json) (key : String) (bits default : Nat) : Nat :=
  match integer? req key with
  | some n => (n % (Nat.pow 2 bits : Int)).toNat
  | none => default

/-- A failure as an answer: its first kind (or `other`), all its kinds, and its text. -/
def faultJson (f : Fault) : Json :=
  let ks := f.kinds
  .obj [("error", .ofString ((ks.head?.map Kind.code).getD "other")),
    ("kinds", .arr (ks.map fun k => .ofString k.code)),
    ("message", .str f.message)]

/-- A failure of the grammar layer as an answer, marked as such. -/
def grammarFaultJson (f : Fault) : Json :=
  (faultJson f).push "grammar" (.bool true)

/-- An outcome as an answer: the failure, or what `f` shows of the value. -/
def outcomeJson {α : Type} (f : α → Json) : Outcome α → Json
  | .ok a => f a
  | .error e => faultJson e

/-- Octets as text, `null` when absent. -/
def optBytes : Option Bytes → Json
  | some b => .str b
  | none => .null

end SipCodec.Inspect
