import SipCodec.Text.Bytes

/-! Writing through counting writers into a bounded sink. A renderer writes its text as a tree:
single writes of the underlying writer, and counting writers that run their steps in order,
add up the octets each step reports and skip every step after the first failure. A nested
renderer is one step of the counting writer that calls it. The sink keeps at most a given
number of octets: a write that does not fit keeps the octets that fit and fails, and a write of
nothing always succeeds. -/

namespace SipCodec

/-- A writer that takes at most `room` more octets, with the octets it has kept. -/
structure Sink where
  kept : Bytes
  room : Nat
  deriving DecidableEq, Inhabited

/-- What a write reports: the number of octets written, and whether it failed. -/
structure Wrote where
  count : Nat
  failed : Bool
  deriving DecidableEq, Inhabited

namespace Sink

/-- One write: the whole text when it fits, else the octets that fit and a failure. -/
def write (s : Sink) (b : Bytes) : Wrote × Sink :=
  if b.length ≤ s.room then (⟨b.length, false⟩, ⟨s.kept ++ b, s.room - b.length⟩)
  else (⟨s.room, true⟩, ⟨s.kept ++ b.take s.room, 0⟩)

end Sink

/-- How a renderer writes its text. -/
inductive Writes where
  /-- One write of the underlying writer (a print, or a write of octets or of a string). -/
  | put (b : Bytes)
  /-- The end of a counting writer's steps. -/
  | done
  /-- A step of a counting writer followed by its other steps, which it skips when the step
  fails. -/
  | step (first rest : Writes)
  deriving Inhabited

namespace Writes

/-- A counting writer that runs the steps in order. -/
def counted (steps : List Writes) : Writes := steps.foldr step done

/-- Steps with a write of `sep` between each two. -/
def separated (sep : Bytes) : List Writes → List Writes
  | [] => []
  | [w] => [w]
  | w :: rest => w :: put sep :: separated sep rest

/-- The whole text the tree writes. -/
def text : Writes → Bytes
  | put b => b
  | done => []
  | step first rest => first.text ++ rest.text

/-- Running the tree into a sink: what it reports, and the sink after it. A counting writer
reports the sum of its steps' counts and the failure of the step that failed. -/
def run : Writes → Sink → Wrote × Sink
  | put b, s => s.write b
  | done, s => (⟨0, false⟩, s)
  | step first rest, s =>
    let (r, s') := first.run s
    if r.failed then (r, s')
    else
      let (r', s'') := rest.run s'
      (⟨r.count + r'.count, r'.failed⟩, s'')

end Writes

end SipCodec
