import RpcSession.Logging.Conversion

/-!
# Times of log records

A record carries the seconds since the start of 1970, of which the written time is the day in the
Gregorian calendar and the time of the day, in universal time.
-/

namespace RpcSession.Logging

structure CalendarTime where
  year : Int
  month : Nat
  day : Nat
  hour : Nat
  minute : Nat
  second : Nat
  deriving DecidableEq, Repr

namespace CalendarTime

/-- The days of an era, four hundred years. -/
def daysPerEra : Int := 146097

/-- The days from the first of March of the year zero to the start of 1970. -/
def epochDay : Int := 719468

/-- The time some seconds after the start of 1970. Years are counted from the first of March, so
that a leap day is the last of its year. -/
def ofSeconds (seconds : Int) : CalendarTime :=
  let days := seconds.fdiv 86400 + epochDay
  let secondOfDay := (seconds.fmod 86400).toNat
  let era := days.fdiv daysPerEra
  let dayOfEra := (days.fmod daysPerEra).toNat
  let yearOfEra := (dayOfEra - dayOfEra / 1460 + dayOfEra / 36524 - dayOfEra / 146096) / 365
  let dayOfYear := dayOfEra - (365 * yearOfEra + yearOfEra / 4 - yearOfEra / 100)
  let monthFromMarch := (5 * dayOfYear + 2) / 153
  let month := if monthFromMarch < 10 then monthFromMarch + 3 else monthFromMarch - 9
  { year := yearOfEra + 400 * era + if month ≤ 2 then 1 else 0
    month
    day := dayOfYear - (153 * monthFromMarch + 2) / 5 + 1
    hour := secondOfDay / 3600
    minute := secondOfDay % 3600 / 60
    second := secondOfDay % 60 }

def padded (width : Nat) (number : Nat) : String :=
  let digits := Nat.toDigits 10 number
  String.ofList (List.replicate (width - digits.length) '0' ++ digits)

def text (time : CalendarTime) (year between : String) : String :=
  year ++ "-" ++ padded 2 time.month ++ "-" ++ padded 2 time.day ++ between ++
    padded 2 time.hour ++ ":" ++ padded 2 time.minute ++ ":" ++ padded 2 time.second

example : ofSeconds 951782400 = ⟨2000, 2, 29, 0, 0, 0⟩ := by decide +kernel

example : ofSeconds (-1) = ⟨1969, 12, 31, 23, 59, 59⟩ := by decide +kernel

end CalendarTime

/-! ## Seconds of records -/

/-- A number of seconds: its whole part, and a fraction that is a numerator over a power of two.
Both are negative for a time before 1970. -/
structure Seconds where
  negative : Bool
  whole : Nat
  fraction : Nat
  denominator : Nat

namespace Seconds

def ofValue : Value → Except Fault Seconds
  | .int number => .ok ⟨number < 0, number.natAbs, 0, 1⟩
  | .bool truth => .ok ⟨false, truth.toNat, 0, 1⟩
  | .float number =>
      match Decimal.Exact.ofFloat number with
      | .nan => .error .timeNotANumber
      | .infinite _ => .error .timeOutOfRange
      | .finite negative significand exponent =>
          let numerator := significand * Nat.pow 2 exponent.toNat
          let denominator := Nat.pow 2 (-exponent).toNat
          .ok ⟨negative, numerator / denominator, numerator % denominator, denominator⟩
  | value => .error (.timeNotAnInteger value.typeName)

/-- The fraction in smaller units, rounded to a double. -/
private def inUnits (seconds : Seconds) (unitsPerSecond : Nat) : Nat × Nat :=
  if seconds.fraction = 0 then (0, 1)
  else
    let (significand, place) :=
      Decimal.nearest (seconds.fraction * unitsPerSecond) seconds.denominator
    (significand * Nat.pow 2 place.toNat, Nat.pow 2 (-place).toNat)

/-- The time in microseconds; a half goes to the even neighbour. -/
def microseconds (seconds : Seconds) : Int :=
  let (numerator, denominator) := seconds.inUnits 1000000
  let magnitude : Int := seconds.whole * 1000000 + Decimal.roundQuotient numerator denominator
  if seconds.negative then -magnitude else magnitude

def milliseconds (seconds : Seconds) : Int :=
  let (numerator, denominator) := seconds.inUnits 1000
  let magnitude : Int := numerator / denominator
  if seconds.negative then -magnitude else magnitude

def floor (seconds : Seconds) : Int :=
  if seconds.negative then
    -(seconds.whole : Int) - if seconds.fraction = 0 then 0 else 1
  else seconds.whole

end Seconds

/-- The calendar counts years in a word of 32 bits. -/
def calendarTime (seconds : Int) : Except Fault CalendarTime :=
  if seconds < -Nat.pow 2 63 ∨ Nat.pow 2 63 ≤ seconds then .error .timeOutOfRange
  else
    let time := CalendarTime.ofSeconds seconds
    let counted := time.year - 1900
    if counted < -Nat.pow 2 31 ∨ Nat.pow 2 31 ≤ counted then .error .timeTooLarge
    else .ok { time with year := time.year.bmod (Nat.pow 2 32) }

def fullTime (created : Value) : Except Fault String := do
  let microseconds := (← Seconds.ofValue created).microseconds
  let time ← calendarTime (microseconds.fdiv 1000000)
  if time.year < 1 ∨ 9999 < time.year then throw (.yearOutOfRange time.year)
  let fraction := (microseconds.fmod 1000000).toNat
  let shownFraction :=
    if fraction = 0 then ""
    else "." ++ CalendarTime.padded 6 fraction
  return time.text (CalendarTime.padded 4 time.year.toNat) "T" ++ shownFraction ++ "+00:00"

/-- A time for people, with milliseconds, which come from the record beside the time. -/
def plainTime (created milliseconds : Value) : Except Fault String := do
  let seconds ← Seconds.ofValue created
  let time ← calendarTime seconds.floor
  let shownFraction : Conversion := { zeroFilled := true, width := 3, kind := 'd' }
  return time.text (toString time.year) " " ++ "," ++
    String.ofList (← shownFraction.write milliseconds)

end RpcSession.Logging
