import SipCodec.Text.Writer

/-! A tree of writes run into a bounded sink does what one write of its whole text does. -/

namespace SipCodec

namespace Sink

theorem write_eq (s : Sink) (b : Bytes) :
    s.write b = (⟨min s.room b.length, decide (s.room < b.length)⟩,
      ⟨s.kept ++ b.take s.room, s.room - b.length⟩) := by
  by_cases fits : b.length ≤ s.room
  · simp [write, fits, List.take_of_length_le fits, Nat.not_lt.2 fits]
  · have exceeds : s.room < b.length := Nat.lt_of_not_le fits
    simp [write, fits, exceeds, Nat.min_eq_left (Nat.le_of_lt exceeds),
      Nat.sub_eq_zero_of_le (Nat.le_of_lt exceeds)]

theorem write_append (s : Sink) (a b : Bytes) :
    (let (r, s') := s.write a
     if r.failed then (r, s')
     else
       let (r', s'') := s'.write b
       (⟨r.count + r'.count, r'.failed⟩, s'')) = s.write (a ++ b) := by
  by_cases fits : a.length ≤ s.room
  · by_cases both : a.length + b.length ≤ s.room
    · simp [write, fits, both, Nat.sub_sub, show b.length ≤ s.room - a.length by omega]
    · simp [write, fits, both, show ¬ b.length ≤ s.room - a.length by omega, List.take_append,
        List.take_of_length_le fits]
  · have exceeds : s.room < a.length := Nat.lt_of_not_le fits
    simp [write, fits, show ¬ a.length + b.length ≤ s.room by omega, List.take_append,
      Nat.sub_eq_zero_of_le (Nat.le_of_lt exceeds)]

end Sink

namespace Writes

@[simp] theorem text_put (b : Bytes) : (put b).text = b := rfl

@[simp] theorem text_counted (steps : List Writes) : (counted steps).text = steps.flatMap text := by
  induction steps with
  | nil => rfl
  | cons w steps ih => simp [counted, text, ← ih]

/-- Steps with a separator between each two write their texts joined by it. -/
@[simp] theorem flatMap_text_separated (sep : Bytes) (steps : List Writes) :
    (separated sep steps).flatMap text = Bytes.joinWith sep (steps.map text) := by
  fun_induction separated sep steps with
  | case1 => rfl
  | case2 w => simp [Bytes.joinWith]
  | case3 w rest nonempty ih =>
    obtain ⟨v, rest, rfl⟩ := List.exists_cons_of_ne_nil nonempty
    simp [Bytes.joinWith, ih]

/-- Running a tree into a sink is one write of its whole text. -/
theorem run_eq_write (w : Writes) (s : Sink) : w.run s = s.write w.text := by
  induction w generalizing s with
  | put b => rfl
  | done => simp [run, text, Sink.write]
  | step first rest ihFirst ihRest =>
    simp only [run, text, ihFirst, ihRest]
    exact Sink.write_append s first.text rest.text

end Writes

end SipCodec
