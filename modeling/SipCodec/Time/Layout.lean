import SipCodec.Time.Civil
import SipCodec.Error

/-! Reading time text by a layout: literal text alternates with fields (a weekday name, a
two-digit day, a month name, a four-digit year, an hour, two-digit minutes and seconds). A
blank in the layout matches any run of blanks, names match without regard to case, the hour
takes one or two digits, and a fraction after the seconds is read although the layout has
none. The weekday is read but not checked against the date; the day is checked against the
month once everything is read. A failure names the text, the layout and the element where
reading stopped. -/

namespace SipCodec

/-- A field of a time layout. -/
inductive TimeField where
  | weekday
  | day
  | month
  | year
  | hour
  | minute
  | second
  deriving DecidableEq

namespace TimeField

/-- How the field is spelled in a layout. -/
def spelling : TimeField → Bytes
  | .weekday => lit "Mon"
  | .day => lit "02"
  | .month => lit "Jan"
  | .year => lit "2006"
  | .hour => lit "15"
  | .minute => lit "04"
  | .second => lit "05"

end TimeField

/-- A layout: its spelling, and its steps, each literal text followed by a field (the last
one by none). -/
structure TimeLayout where
  spelling : Bytes
  steps : List (Bytes × Option TimeField)

namespace TimeLayout

/-- The date layout of HTTP and SIP headers (RFC 1123). -/
def http : TimeLayout :=
  ⟨lit "Mon, 02 Jan 2006 15:04:05 GMT",
    [([], some .weekday), (lit ", ", some .day), (lit " ", some .month), (lit " ", some .year),
      (lit " ", some .hour), (lit ":", some .minute), (lit ":", some .second), (lit " GMT", none)]⟩

/-- Quotes text for a message: octets outside printable ASCII as `\xNN`, quotes and
backslashes escaped. -/
def quote (s : Bytes) : Bytes :=
  [34] ++ s.flatMap (fun c =>
    if c ≥ 0x80 || c < 0x20 then
      [92, 120, Octet.hexDigitLower (c.toNat / 16), Octet.hexDigitLower (c.toNat % 16)]
    else if c == 34 || c == 92 then [92, c]
    else [c]) ++ [34]

/-- Matches literal layout text: a blank matches any run of blanks (but not another octet). -/
def skip : Bytes → Bytes → Option Bytes × Bytes
  | [], value => (some value, value)
  | 32 :: lead, value =>
    match value with
    | c :: _ =>
      if c != 32 then (none, value)
      else skip (lead.dropWhile (· == 32)) (value.dropWhile (· == 32))
    | [] => skip (lead.dropWhile (· == 32)) []
  | p :: lead, value =>
    match value with
    | c :: rest => if c == p then skip lead rest else (none, value)
    | [] => (none, value)
termination_by lead _ => lead.length
decreasing_by
  all_goals simp only [List.length_cons]
  all_goals
    have : (lead.dropWhile (· == 32)).length ≤ lead.length :=
      List.IsSuffix.length_le (List.dropWhile_suffix _)
    omega

/-- A name of the table at the front, without regard to ASCII case: its index and the rest. -/
def lookup (names : List Bytes) (value : Bytes) : Option (Nat × Bytes) :=
  (names.zipIdx.find? fun (n, _) => Bytes.eqFoldAscii (value.take n.length) n &&
    value.length ≥ n.length).map fun (n, i) => (i, value.drop n.length)

/-- One or two digits at the front; `fixed` asks for exactly two. -/
def number (fixed : Bool) : Bytes → Option (Nat × Bytes)
  | a :: b :: rest =>
    if !Octet.isDigit a then none
    else if Octet.isDigit b then some ((a - 48).toNat * 10 + (b - 48).toNat, rest)
    else if fixed then none
    else some ((a - 48).toNat, b :: rest)
  | [a] => if Octet.isDigit a && !fixed then some ((a - 48).toNat, []) else none
  | [] => none

/-- Nanoseconds of a fraction `.d…` or `,d…` at the front, at most nine digits counted. -/
def fraction (value : Bytes) : Nat × Bytes :=
  match value with
  | c :: d :: rest =>
    if (c == 46 || c == 44) && Octet.isDigit d then
      let digits := d :: rest.takeWhile Octet.isDigit
      let used := digits.take 9
      (used.foldl (fun acc x => acc * 10 + (x - 48).toNat) 0 * Nat.pow 10 (9 - used.length),
        value.drop (1 + digits.length))
    else (0, value)
  | _ => (0, value)

/-- How reading stopped. -/
inductive Stop where
  /-- The text at `rest` does not match the layout element `elem`. -/
  | cannotParse (rest elem : Bytes)
  /-- A message about the whole text, such as a field out of range. -/
  | message (text : Bytes)

def Stop.text (layout : TimeLayout) (value : Bytes) : Stop → Bytes
  | .cannotParse a e =>
    lit "parsing time " ++ quote value ++ lit " as " ++ quote layout.spelling ++
      lit ": cannot parse " ++ quote a ++ lit " as " ++ quote e
  | .message m => lit "parsing time " ++ quote value ++ m

/-- Reads one field from the front of the text into the moment. -/
def readField (t : CivilTime) (f : TimeField) (value : Bytes) : Except Stop (CivilTime × Bytes) :=
  let bad : Except Stop (CivilTime × Bytes) := .error (.cannotParse value f.spelling)
  match f with
  | .weekday =>
    match lookup CivilTime.shortDayNames value with
    | some (_, rest) => .ok (t, rest)
    | none => bad
  | .day =>
    match number true value with
    | some (d, rest) => .ok ({ t with day := d }, rest)
    | none => bad
  | .month =>
    match lookup CivilTime.shortMonthNames value with
    | some (m, rest) => .ok ({ t with month := m + 1 }, rest)
    | none => bad
  | .year =>
    let digits := value.take 4
    if digits.length == 4 && digits.all Octet.isDigit then
      .ok ({ t with year := digits.foldl (fun acc x => acc * 10 + (x - 48).toNat) 0 }, value.drop 4)
    else bad
  | .hour =>
    match number false value with
    | some (h, rest) =>
      if h ≥ 24 then .error (.message (lit ": hour out of range")) else .ok ({ t with hour := h }, rest)
    | none => bad
  | .minute =>
    match number true value with
    | some (m, rest) =>
      if m ≥ 60 then .error (.message (lit ": minute out of range"))
      else .ok ({ t with minute := m }, rest)
    | none => bad
  | .second =>
    match number true value with
    | some (s, rest) =>
      if s ≥ 60 then .error (.message (lit ": second out of range"))
      else
        let (ns, rest) := fraction rest
        .ok ({ t with second := s, nanos := ns }, rest)
    | none => bad

/-- Follows the steps of a layout over the text. -/
def run (t : CivilTime) : List (Bytes × Option TimeField) → Bytes → Except Stop CivilTime
  | [], value =>
    if value.isEmpty then .ok t
    else .error (.message (lit ": extra text: " ++ quote value))
  | (lead, field) :: steps, value =>
    match skip lead value with
    | (none, stuck) => .error (.cannotParse stuck lead)
    | (some value, _) =>
      match field with
      | none =>
        if value.isEmpty then .ok t else .error (.message (lit ": extra text: " ++ quote value))
      | some f =>
        match readField t f value with
        | .ok (t, rest) => run t steps rest
        | .error e => .error e

/-- Reads a whole text by the layout; a failure carries the reader's message. -/
def read (layout : TimeLayout) (value : Bytes) : Except Bytes CivilTime :=
  match run ⟨1, 1, 1, 0, 0, 0, 0⟩ layout.steps value with
  | .error e => .error (e.text layout value)
  | .ok t =>
    if t.day < 1 || t.day > CivilTime.daysIn t.month t.year then
      .error (lit "parsing time " ++ quote value ++ lit ": day out of range")
    else .ok t

end TimeLayout

end SipCodec
