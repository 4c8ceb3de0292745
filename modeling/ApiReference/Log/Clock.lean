import ApiReference.Fault

/-!
# Times of log records

A record carries the seconds since the start of 1970, which may have a fraction. They are rounded to
whole microseconds, half a microsecond to the even neighbour, and shown in the Gregorian calendar in
universal time. The seconds must fit a counter of 64 bits, their year must fit one of 32 bits, and
the calendar has the years 1 to 9999.

Times are computed with whole numbers only. The fraction of a second is a double and so is its
product with a million, which is rounded before the microseconds are; the day of the calendar is
found by dividing, in eras of four hundred years.

The three bounds are checked one after another, from the widest to the narrowest, and each has a
fault of its own.
-/

set_option autoImplicit false

namespace ApiReference
namespace Log

/-- A moment: whole seconds since the start of 1970, and microseconds after them. -/
structure Moment where
  seconds : Int
  micros : Nat
  deriving DecidableEq

/-- A day of the calendar. -/
structure Day where
  year : Int
  month : Nat
  day : Nat
  deriving DecidableEq

namespace Moment

/-- The moment of a whole part of the given sign and of microseconds toward the same side. -/
def ofParts (negative : Bool) (whole micros : Nat) : Moment :=
  let w : Int := Int.ofNat whole
  if negative then
    if micros = 0 then ⟨-w, 0⟩ else ⟨-w - 1, 1000000 - micros⟩
  else if micros < 1000000 then ⟨w, micros⟩
  else ⟨w + 1, micros - 1000000⟩

/-- The number of microseconds in a fraction of a second, which is a double below one. The product
is rounded to a double first. -/
def microsOf (num den : Nat) : Nat :=
  match Binary64.ofRatio false (num * 1000000) den with
  | .finite _ m e => roundRatio (m * twoPow e.toNat) (twoPow (-e).toNat)
  | .infinite _ => 0

/-- The moment that a number of seconds denotes. -/
def ofNumber : Json → Except Fault Moment
  | .float (.finite negative m e) =>
    let whole := m * twoPow e.toNat / twoPow (-e).toNat
    let rest := m * twoPow e.toNat % twoPow (-e).toNat
    .ok (ofParts negative whole (microsOf rest (twoPow (-e).toNat)))
  | .float (.infinite _) => .error .timeOutOfRange
  | .int n => .ok ⟨n, 0⟩
  | .bool b => .ok ⟨if b then 1 else 0, 0⟩
  | _ => .error .notATime

/-- The seconds that the counter can hold. -/
def onCounter (m : Moment) : Bool :=
  -9223372036854775808 ≤ m.seconds && m.seconds < 9223372036854775808

/-- The seconds whose year, counted from 1900, fits 32 bits. -/
def onClock (m : Moment) : Bool :=
  -67768040609740800 ≤ m.seconds && m.seconds < 67768036191676800

/-- The seconds of the years 1 to 9999. -/
def inCalendar (m : Moment) : Bool :=
  -62135596800 ≤ m.seconds && m.seconds < 253402300800

/-- The moment in the calendar that a number of seconds denotes. -/
def ofSeconds (v : Json) : Except Fault Moment := do
  let m ← ofNumber v
  if !m.onCounter then .error .timeOutOfRange
  else if !m.onClock then .error .timeBeyondClock
  else if !m.inCalendar then .error .yearOutOfRange
  else .ok m

/-- The second of the day. -/
def secondOfDay (m : Moment) : Nat :=
  (Int.fmod m.seconds 86400).toNat

/-- The day in the Gregorian calendar. Years are counted from March, so that the leap day is the
last of its year, in eras of 400 years, which all have the same number of days. -/
def day (m : Moment) : Day :=
  let z := Int.fdiv m.seconds 86400 + 719468
  let era := Int.fdiv z 146097
  let doe := (Int.fmod z 146097).toNat
  let yoe := (doe - doe / 1460 + doe / 36524 - doe / 146096) / 365
  let doy := doe - (365 * yoe + yoe / 4 - yoe / 100)
  let mp := (5 * doy + 2) / 153
  let month := if mp < 10 then mp + 3 else mp - 9
  let year := Int.ofNat yoe + era * 400
  { year := if month ≤ 2 then year + 1 else year
    month
    day := doy - (153 * mp + 2) / 5 + 1 }

end Moment

/-- A number with zeros in front of it, at least `width` digits. -/
def padded (width n : Nat) : String :=
  let digits := Nat.toDigits 10 n
  String.ofList (List.replicate (width - digits.length) '0' ++ digits)

namespace Moment

/-- Hours, minutes and seconds. -/
def clock (m : Moment) : String :=
  let s := m.secondOfDay
  padded 2 (s / 3600) ++ ":" ++ padded 2 (s / 60 % 60) ++ ":" ++ padded 2 (s % 60)

/-- Year, month and day. -/
def date (m : Moment) : String :=
  let d := m.day
  toString d.year ++ "-" ++ padded 2 d.month ++ "-" ++ padded 2 d.day

/-- The full time with nine digits after the seconds, in universal time. -/
def timestamp (m : Moment) : String :=
  m.date ++ "T" ++ m.clock ++ "." ++ padded 9 (m.micros * 1000) ++ "Z"

end Moment
end Log
end ApiReference
