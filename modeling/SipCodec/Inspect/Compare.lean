import SipCodec.Inspect.Message

/-! Answers about equality: two values read by the same reader, compared both ways. -/

namespace SipCodec.Inspect

/-- Compares two read values both ways, or names the side that does not read. -/
def compareJson {α : Type} (read : Bytes → Outcome α) (eq : α → α → Bool) (a b : Bytes) : Json :=
  match read a, read b with
  | .error e, _ => .obj [("a", faultJson e)]
  | _, .error e => .obj [("b", faultJson e)]
  | .ok x, .ok y => .obj [("equal", .bool (eq x y)), ("reverse", .bool (eq y x))]

/-- Answers an `equal` request. -/
def equalAnswer (req : Json) : Answer :=
  let a := octets req "a"
  let b := octets req "b"
  match word req "kind" with
  | "uri" => .ok (compareJson Uri.parse Uri.equal a b)
  | "param" => .ok (compareJson Param.parse Param.equal a b)
  | "header_line" => .ok (compareJson Header.parse Header.equal a b)
  | "message" => .ok (compareJson Message.parse Message.equal a b)
  | "header_name" => .ok (.obj [("equal", .bool (HeaderName.equal a b))])
  | "method" => .ok (.obj [("equal", .bool (Method.equal ⟨a⟩ ⟨b⟩))])
  | "typed" =>
    let name := word req "header"
    match TypedHeader.parse? name a with
    | none => .error ("unknown typed header " ++ quoted name)
    | some _ =>
      .ok (compareJson (fun s => (TypedHeader.parse? name s).getD (.error (.note []))) TypedHeader.equal a b)
  | k => .error ("unknown kind " ++ quoted k)

end SipCodec.Inspect
