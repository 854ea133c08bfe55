import SipCodec.Text.Bytes
import SipCodec.Error

/-! Matching with ABNF rules. A rule, applied at the front of a text, gives every way it can
match there, each as a tree of named nodes and the text left after it. Literals compare ASCII
case-insensitively; a run takes as many elements as it can and never backs off; an option
gives both the empty match and the matches of its rule; a concatenation gives every
combination of its parts; a first-choice alternative gives the matches of its first rule that
matches at all. A rule's answer is its longest match. -/

namespace SipCodec.Grammar

/-- A matched part of the input: the rule's name, the octets it covers, and its parts. -/
inductive Node where
  | mk (key : String) (text : Bytes) (children : List Node)
  deriving Inhabited

namespace Node

def key : Node → String
  | .mk k _ _ => k

def text : Node → Bytes
  | .mk _ t _ => t

def children : Node → List Node
  | .mk _ _ cs => cs

mutual
/-- The first node named `k`: the node itself, else the first found in its parts, depth
first. -/
def find? (k : String) : Node → Option Node
  | .mk key text cs => if key == k then some (.mk key text cs) else findIn? k cs

def findIn? (k : String) : List Node → Option Node
  | [] => none
  | n :: ns =>
    match find? k n with
    | some found => some found
    | none => findIn? k ns
end

end Node

/-- A rule: all matches at the front of a text, each with the text that follows it. -/
def Rule := Bytes → List (Node × Bytes)

/-- A fixed word, compared ignoring ASCII case. -/
def literal (key : String) (word : Bytes) : Rule := fun s =>
  if Bytes.eqFoldAscii (s.take word.length) word && s.length ≥ word.length then
    [(.mk key (s.take word.length) [], s.drop word.length)]
  else []

/-- A single octet. -/
def octet (c : UInt8) : Rule := literal (String.singleton (Char.ofNat c.toNat)) [c]

/-- As many elements as possible as one node, at least one; `step` measures the element at
the front (0 when none starts there). -/
def runOf (key : String) (step : Bytes → Nat) : Rule := fun s =>
  let n := Bytes.runLength step s
  if n = 0 then [] else [(.mk key (s.take n) [], s.drop n)]

/-- As many octets of a class as possible, at least one. -/
def run (key : String) (ok : UInt8 → Bool) : Rule :=
  runOf key fun s => match s with
    | c :: _ => if ok c then 1 else 0
    | [] => 0

/-- Like `run`, with escapes `%HH` taken as single elements. -/
def escapedRun (key : String) (ok : UInt8 → Bool) : Rule :=
  runOf key fun s => match s with
    | c :: rest =>
      if ok c then 1
      else match c, rest with
        | 37, a :: b :: _ => if Octet.isHex a && Octet.isHex b then 3 else 0
        | _, _ => 0
    | [] => 0

/-- Every combination of matches of the parts, in order. -/
def concat (key : String) (parts : List Rule) : Rule := fun s =>
  let paths := parts.foldl (fun (acc : List (List Node × Bytes)) (r : Rule) =>
      acc.flatMap fun (nodes, rest) => (r rest).map fun (n, rest') => (nodes ++ [n], rest'))
    [([], s)]
  paths.map fun (nodes, rest) => (.mk key (nodes.flatMap Node.text) nodes, rest)

/-- The empty match, then every match of the rule. -/
def optional (key : String) (r : Rule) : Rule := fun s =>
  (.mk key [] [], s) :: (r s).map fun (n, rest) => (.mk key n.text [n], rest)

/-- The matches of the first rule that matches at all. -/
def altFirst (key : String) (rules : List Rule) : Rule := fun s =>
  let found := rules.foldl (fun (acc : List (Node × Bytes)) (r : Rule) =>
      if acc.isEmpty then r s else acc) []
  found.map fun (n, rest) => (.mk key n.text [n], rest)

/-- The longest of several matches, the earliest among equally long ones. -/
def longest : List (Node × Bytes) → Option (Node × Bytes)
  | [] => none
  | m :: ms =>
    match longest ms with
    | none => some m
    | some best => if best.1.text.length > m.1.text.length then some best else some m

/-- Applies a rule to a whole input: its longest match, or why there is none. -/
def matchRule (r : Rule) (s : Bytes) : Outcome Node :=
  if s.isEmpty then .error (.grammar (lit "empty input"))
  else match longest (r s) with
    | none => .error (.grammar (lit "malformed input: not matched"))
    | some (n, _) =>
      if n.text.isEmpty then .error (.grammar (lit "malformed input")) else .ok n

/-- The node named `k` below a matched node, or the failure of looking for it. -/
def requireNode (n : Node) (k : String) : Outcome Node :=
  match n.find? k with
  | some found => .ok found
  | none =>
    .error (.grammar (lit "get node \"" ++ lit k ++ lit "\" from node \"" ++ lit n.key ++
      lit "\": node not found"))

end SipCodec.Grammar
