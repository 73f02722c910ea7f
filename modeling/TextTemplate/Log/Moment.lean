import TextTemplate.Host
import TextTemplate.Report

/-!
Moments in time, counted in seconds from the beginning of 1970, as dates and times of day. They are
told to the microsecond.
-/

namespace TextTemplate.Log

/-- Whole seconds from the beginning of 1970, and the microseconds after them. -/
structure Instant where
  seconds : Int
  microseconds : Nat

structure Moment where
  year : Int
  month : Nat
  day : Nat
  hour : Nat
  minute : Nat
  second : Nat
  microsecond : Nat

namespace Instant

def perSecond : Nat := 1000000

/-- The instant so many microseconds from a second, which may be before it. -/
def around (seconds microseconds : Int) : Instant :=
  ⟨seconds + microseconds.fdiv perSecond, (microseconds.fmod perSecond).toNat⟩

/-- The microseconds in a part of a second, rounded after the part has been multiplied. -/
def microsecondsOf (part : Float) : Int :=
  match Dyadic.ofFloat? (part * 1000000.0) with
  | some d =>
    let magnitude : Int := roundQuotient d.fraction.1 d.fraction.2
    if d.negative then -magnitude else magnitude
  | none => 0

/-- The instant of a float, whose whole part and fraction are taken apart first. -/
def ofDyadic (d : Dyadic) : Instant :=
  let (num, den) := d.fraction
  let whole : Int := (num / den : Nat)
  let part := (nearestFloat? d.negative (num % den) den).getD 0.0
  around (if d.negative then -whole else whole) (microsecondsOf part)

/-- An instant whose seconds can be counted in 64 bits. -/
def counted (instant : Instant) : Except Problem Instant :=
  if -(sizeLimit : Int) ≤ instant.seconds && instant.seconds < (sizeLimit : Int) then .ok instant
  else .error .overflow

/-- The instant that a value of the host counts the seconds of. -/
def ofHost : Host → Except Problem Instant
  | .bool b => .ok ⟨if b then 1 else 0, 0⟩
  | .number (.int i) => counted ⟨i, 0⟩
  | .number (.float x) =>
    match Dyadic.ofFloat? x with
    | some d => counted (ofDyadic d)
    | none => .error .overflow
  | .number (.nan _) => .error (.badValue "Invalid value NaN (not a number)")
  | _ => .error .wrongType

end Instant

namespace Moment

/-- Days from the first of March of the year zero to the beginning of 1970. -/
def daysBeforeEpoch : Int := 719468

/-- Days in four centuries, after which dates repeat. -/
def daysInCycle : Nat := 146097

/-- The year within four centuries of a day within them. Years begin in March, so that a leap day
ends its year. -/
def yearOfCycle (day : Nat) : Nat := (day - day / 1460 + day / 36524 - day / 146096) / 365

/-- Year, month and day, given the days since the beginning of 1970. -/
def dateOfDays (days : Int) : Int × Nat × Nat :=
  let days := days + daysBeforeEpoch
  let cycle := days.fdiv daysInCycle
  let day := (days.fmod daysInCycle).toNat
  let year := yearOfCycle day
  let dayOfYear := day - (365 * year + year / 4 - year / 100)
  let monthFromMarch := (5 * dayOfYear + 2) / 153
  let dayOfMonth := dayOfYear - (153 * monthFromMarch + 2) / 5 + 1
  let month := if monthFromMarch < 10 then monthFromMarch + 3 else monthFromMarch - 9
  (cycle * 400 + year + (if month ≤ 2 then 1 else 0), month, dayOfMonth)

def ofInstant (instant : Instant) : Moment :=
  let ofDay := (instant.seconds.fmod 86400).toNat
  let (year, month, day) := dateOfDays (instant.seconds.fdiv 86400)
  ⟨year, month, day, ofDay / 3600, ofDay / 60 % 60, ofDay % 60, instant.microseconds⟩

/-- Years are counted from this one in 32 bits, and told in 32 bits. -/
def yearBase : Int := 1900

def yearLimit : Int := twoTo 31

/-- A year as it is told in 32 bits. -/
def toldYear (year : Int) : Int := year.bmod (twoTo 32)

/-- A moment with a date: years have one to four digits, and those that cannot even be counted are
a matter of the system. -/
def dated (moment : Moment) : Except Problem Moment :=
  let count := moment.year - yearBase
  if count < -yearLimit || yearLimit ≤ count then .error .beyondSystem
  else
    let year := toldYear moment.year
    if 1 ≤ year && year ≤ 9999 then .ok moment
    else .error (.badValue ("year " ++ toString year ++ " is out of range"))

/-- The moment that a value of the host counts the seconds of. -/
def ofHost (seconds : Host) : Except Problem Moment := do
  let instant ← Instant.ofHost seconds
  dated (ofInstant instant)

/-- A number with zeros in front of it, up to a width. -/
def padded (width n : Nat) : String :=
  let digits := toString n
  "".pushn '0' (width - digits.length) ++ digits

/-- The time of day, to the second. -/
def timeOfDay (m : Moment) : String :=
  padded 2 m.hour ++ ":" ++ padded 2 m.minute ++ ":" ++ padded 2 m.second

/-- Date and time to the nanosecond, which is a whole number of microseconds. -/
def timestamp (m : Moment) : String :=
  toString m.year ++ "-" ++ padded 2 m.month ++ "-" ++ padded 2 m.day ++ "T" ++ m.timeOfDay ++
    "." ++ padded 9 (m.microsecond * 1000) ++ "Z"

end Moment

end TextTemplate.Log
