import SipCodec.Inspect.Basic
import SipCodec.Text.Template

/-! Answers about failures built from a description: a kind with its detail or cause, a
templated note, a trailing-input failure, or joined failures. -/

namespace SipCodec.Inspect

/-- An argument of a failure description: text, an integer, or a failure (possibly none). -/
inductive FaultArg where
  | text (s : Bytes)
  | int (n : Int)
  | fault (f : Option Fault)

/-- The argument as a template argument: a failure by its text. -/
def FaultArg.templateArg : FaultArg → Template.Arg
  | .text s => .text s
  | .int n => .int n
  | .fault (some f) => .text f.message
  | .fault none => .absent

/-- A kind with arguments: alone; a failure already of that kind as it is; another failure as
its cause; a detail, templated when more arguments follow; anything else gives the kind
alone. -/
def wrapWith (k : Kind) : List FaultArg → Fault
  | [] => .sentinel k
  | .fault (some f) :: _ => Fault.wrapIn k f
  | .text s :: [] => .detail k s
  | .text s :: more =>
    .detail k (Template.fill s (more.map FaultArg.templateArg))
  | _ :: _ => .sentinel k

private def kindOf (fn : String) : Option Kind :=
  match fn with
  | "missing_header" => some .missingHeader
  | "invalid_param" => some .invalidParam
  | "parse" => some .parse
  | "tokenize" => some .tokenize
  | "utf8" => some .utf8
  | "unexpected" => some .unexpected
  | "invalid_argument" => some .invalidArgument
  | "sip_invalid_argument" => some .invalidArgument
  | _ => none

/-- Joined failures: none is no failure; one is itself (under the prefix when there is one,
where an absent one leaves a marker); more form a list that skips the absent ones. -/
def joined (pre : Bytes) (prefixed : Bool) : List (Option Fault) → Option Fault
  | [] => none
  | [f] =>
    if !prefixed then f
    else
      let label := Bytes.trimRightBy (· == 58) pre
      match f with
      | some f => some (.labeled label f)
      | none => some (.note (label ++ lit ": %!w(<nil>)"))
  | fs => some (.list pre (fs.filterMap id))

mutual
/-- Builds the failure a description stands for; `fuel` bounds its nesting. -/
def faultOf (fuel : Nat) (spec : Json) : Except String (Option Fault) :=
  match fuel with
  | 0 => .error "description too deep"
  | fuel + 1 =>
    match spec with
    | .null => .ok none
    | .str s => .ok (some (.foreign s))
    | .obj _ =>
      let fn := word spec "fn"
      match fn with
      | "wrap" =>
        match Kind.ofCode? (word spec "sentinel") with
        | none => .error "unknown sentinel"
        | some k => do
          let args ← argsOf fuel (((spec.get? "args").bind Json.asList?).getD [])
          return some (wrapWith k args)
      | "trailing" => .ok (some Fault.trailing)
      | "errorf" => do
        let args ← argsOf fuel (((spec.get? "args").bind Json.asList?).getD [])
        let fill := Template.fill (octets spec "format") (args.map FaultArg.templateArg)
        return some (.note fill)
      | "join" => do
        let members ← faultsOf fuel (((spec.get? "errs").bind Json.asList?).getD [])
        return joined [] false members
      | "join_prefix" => do
        let members ← faultsOf fuel (((spec.get? "errs").bind Json.asList?).getD [])
        return joined (octets spec "prefix") true members
      | "missing_header" => .ok (some (.detail .missingHeader (octets spec "name")))
      | _ =>
        match kindOf fn with
        | some k => do
          let args ← argsOf fuel (((spec.get? "args").bind Json.asList?).getD [])
          return some (wrapWith k args)
        | none => .error ("unknown errors fn " ++ quoted fn)
    | _ => .error "bad error description"

def argsOf (fuel : Nat) : List Json → Except String (List FaultArg)
  | [] => .ok []
  | a :: rest => do
    let head ← match a with
      | .str s => pure (FaultArg.text s)
      | .int n => pure (FaultArg.int n)
      | other => FaultArg.fault <$> faultOf fuel other
    let tail ← argsOf fuel rest
    return head :: tail

def faultsOf (fuel : Nat) : List Json → Except String (List (Option Fault))
  | [] => .ok []
  | a :: rest => do
    let head ← faultOf fuel a
    let tail ← faultsOf fuel rest
    return head :: tail
end

/-- Answers an `errors` request. -/
def errorsAnswer (req : Json) : Answer := do
  let f ← faultOf 64 ((req.get? "spec").getD .null)
  match f with
  | none => return .obj [("error", .null), ("reason", .ofString ""), ("incomplete", .bool false)]
  | some f =>
    return (faultJson f).push "reason" (.ofString f.reason) |>.push "incomplete" (.bool f.isIncomplete)

end SipCodec.Inspect
