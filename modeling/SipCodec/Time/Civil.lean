import SipCodec.Text.Bytes

/-! Civil time in UTC on the proleptic Gregorian calendar: a date, a time of day and
nanoseconds. Days are counted from 1970-01-01, which was a Thursday. -/

namespace SipCodec

/-- A moment in UTC, by its calendar fields. -/
structure CivilTime where
  year : Nat
  month : Nat
  day : Nat
  hour : Nat
  minute : Nat
  second : Nat
  nanos : Nat
  deriving DecidableEq, Inhabited

namespace CivilTime

def isLeapYear (y : Nat) : Bool := y % 4 == 0 && (y % 100 != 0 || y % 400 == 0)

/-- Days in a month (1 to 12) of a year. -/
def daysIn (month year : Nat) : Nat :=
  match month with
  | 2 => if isLeapYear year then 29 else 28
  | 4 | 6 | 9 | 11 => 30
  | _ => 31

/-- Days from 1970-01-01 to a date (negative before it). -/
def daysFromEpoch (year month day : Nat) : Int :=
  let y : Int := if month ≤ 2 then (year : Int) - 1 else year
  let era := y / 400
  let yoe := y - era * 400
  let m : Int := month
  let mp := if m > 2 then m - 3 else m + 9
  let doy := (153 * mp + 2) / 5 + (day : Int) - 1
  let doe := yoe * 365 + yoe / 4 - yoe / 100 + doy
  era * 146097 + doe - 719468

/-- Seconds since 1970-01-01T00:00:00Z, nanoseconds left out. -/
def unixSeconds (t : CivilTime) : Int :=
  daysFromEpoch t.year t.month t.day * 86400 + (t.hour * 3600 + t.minute * 60 + t.second : Nat)

/-- The day of the week, 0 for Sunday. -/
def weekday (t : CivilTime) : Nat := ((daysFromEpoch t.year t.month t.day + 4) % 7).toNat

/-- The moment with every field at its least: January 1 of year 1, midnight. -/
def isZero (t : CivilTime) : Bool := t == ⟨1, 1, 1, 0, 0, 0, 0⟩

/-- Moments are equal when they fall on the same nanosecond. -/
def equal (a b : CivilTime) : Bool := a.unixSeconds == b.unixSeconds && a.nanos == b.nanos

def shortDayNames : List Bytes := ["Sun", "Mon", "Tue", "Wed", "Thu", "Fri", "Sat"].map lit

def shortMonthNames : List Bytes :=
  ["Jan", "Feb", "Mar", "Apr", "May", "Jun", "Jul", "Aug", "Sep", "Oct", "Nov", "Dec"].map lit

/-- The date as in HTTP and SIP headers (RFC 1123): `Sat, 13 Nov 2010 23:29:00 GMT`. -/
def renderHttp (t : CivilTime) : Bytes :=
  (shortDayNames.getD t.weekday []) ++ lit ", " ++ Bytes.ofNatPadded 2 t.day ++ [32] ++
    (shortMonthNames.getD (t.month - 1) []) ++ [32] ++ Bytes.ofNatPadded 4 t.year ++ [32] ++
    Bytes.ofNatPadded 2 t.hour ++ [58] ++ Bytes.ofNatPadded 2 t.minute ++ [58] ++
    Bytes.ofNatPadded 2 t.second ++ lit " GMT"

/-- The digits of a fraction of a second after the point, trailing zeros dropped. -/
def fractionDigits (nanos : Nat) : Bytes :=
  ((Bytes.ofNatPadded 9 nanos).reverse.dropWhile (· == 48)).reverse

/-- The moment as RFC 3339 text in UTC: `2010-11-13T23:29:00Z`, with a fraction of a second
only when there is one (`23:29:00.5Z`). -/
def renderRfc3339 (t : CivilTime) : Bytes :=
  Bytes.ofNatPadded 4 t.year ++ [45] ++ Bytes.ofNatPadded 2 t.month ++ [45] ++
    Bytes.ofNatPadded 2 t.day ++ [84] ++ Bytes.ofNatPadded 2 t.hour ++ [58] ++
    Bytes.ofNatPadded 2 t.minute ++ [58] ++ Bytes.ofNatPadded 2 t.second ++
    (if t.nanos = 0 then [] else 46 :: fractionDigits t.nanos) ++ [90]

end CivilTime

end SipCodec
