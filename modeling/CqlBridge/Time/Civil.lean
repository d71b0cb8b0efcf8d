import CqlBridge.Number.FloatText

/-!
# `CqlBridge.Time.Civil` — days, clock times and instants as text

Days count from 1970-01-01 in the proleptic Gregorian calendar. The calendar range is the
years -262143 to 262142: `Civil.ofDays?` refuses a day outside it. Inside, a date is written
`YYYY-MM-DD`; a year outside 0000..9999 gets an explicit sign and at least four digits
(`-0001`, `+10000`).

Clock times are written `HH:MM:SS` followed by a fraction of 0, 3, 6 or 9 digits: none for a
whole second, else the fewest of 3, 6, 9 that show the nanoseconds exactly (`FractionRule.auto`).
Instants are written `date T time Z`, in the style of RFC 3339, with either that automatic
fraction or always three digits (`FractionRule.millis`).
-/

namespace CqlBridge.Time

/-- A date of the proleptic Gregorian calendar. -/
structure Civil where
  year : Int
  month : Nat
  day : Nat
  deriving Repr, DecidableEq

/-- The first day of the calendar range, -262143-01-01, counted from 1970-01-01. -/
def firstDay : Int := -96465292

/-- The last day of the calendar range, +262142-12-31, counted from 1970-01-01. -/
def lastDay : Int := 95026236

/-- The date of a day count from 1970-01-01, by eras of 400 years of 146097 days each. -/
def Civil.ofDaysUnchecked (days : Int) : Civil :=
  let z := days + 719468
  let era := z / 146097
  let doe := z - era * 146097
  let yoe := (doe - doe / 1460 + doe / 36524 - doe / 146096) / 365
  let doy := doe - (365 * yoe + yoe / 4 - yoe / 100)
  let mp := (5 * doy + 2) / 153
  let d := doy - (153 * mp + 2) / 5 + 1
  let m := if mp < 10 then mp + 3 else mp - 9
  let y := yoe + era * 400 + (if m ≤ 2 then 1 else 0)
  ⟨y, m.toNat, d.toNat⟩

/-- The date of a day count from 1970-01-01, inside the calendar range. -/
def Civil.ofDays? (days : Int) : Option Civil :=
  if firstDay ≤ days && days ≤ lastDay then some (Civil.ofDaysUnchecked days) else none

/-- A number with at least `width` digits, zeros in front. -/
def padded (width n : Nat) : String :=
  let s := toString n
  Number.zeros (width - s.length) ++ s

/-- A year: four digits inside 0000..9999, else a sign and at least four digits. -/
def yearText (y : Int) : String :=
  if 0 ≤ y && y ≤ 9999 then padded 4 y.toNat
  else (if y < 0 then "-" else "+") ++ padded 4 y.natAbs

/-- A date as `YYYY-MM-DD`. -/
def Civil.text (c : Civil) : String :=
  yearText c.year ++ "-" ++ padded 2 c.month ++ "-" ++ padded 2 c.day

/-- How many fraction digits the seconds of a clock time get. -/
inductive FractionRule where
  /-- None for a whole second, else the fewest of 3, 6 and 9 that are exact. -/
  | auto
  /-- Always three. -/
  | millis
  deriving Repr, DecidableEq

/-- The fraction of a second, given in nanoseconds below one second. -/
def fractionText (rule : FractionRule) (nanos : Nat) : String :=
  match rule with
  | .millis => "." ++ padded 3 (nanos / 1000000)
  | .auto =>
    if nanos == 0 then ""
    else if nanos % 1000000 == 0 then "." ++ padded 3 (nanos / 1000000)
    else if nanos % 1000 == 0 then "." ++ padded 6 (nanos / 1000)
    else "." ++ padded 9 nanos

/-- A clock time from seconds since midnight (below 86400) and nanoseconds below one second. -/
def clockText (rule : FractionRule) (secs nanos : Nat) : String :=
  padded 2 (secs / 3600) ++ ":" ++ padded 2 (secs / 60 % 60) ++ ":" ++ padded 2 (secs % 60) ++
    fractionText rule nanos

/-- The text of a time of day given in nanoseconds since midnight; none outside one day. -/
def timeOfDayText? (nanos : Int) : Option String :=
  if nanos < 0 || nanos ≥ 86400 * 1000000000 then none
  else some (clockText .auto (nanos / 1000000000).toNat (nanos % 1000000000).toNat)

/-- The date of a day count, as `YYYY-MM-DD`; none outside the calendar range. -/
def dateText? (days : Int) : Option String :=
  (Civil.ofDays? days).map Civil.text

/-- An instant given in whole seconds and nanoseconds since 1970-01-01T00:00:00Z, written
`date T time Z`; none outside the calendar range. -/
def instantText? (rule : FractionRule) (secs : Int) (nanos : Nat) : Option String :=
  (Civil.ofDays? (secs / 86400)).map fun c =>
    c.text ++ "T" ++ clockText rule (secs % 86400).toNat nanos ++ "Z"

/-- An instant given in milliseconds since the epoch, with a three-digit fraction. -/
def instantOfMillis? (ms : Int) : Option String :=
  instantText? .millis (ms / 1000) ((ms % 1000).toNat * 1000000)

/-- An instant given in microseconds since the epoch, with the automatic fraction. -/
def instantOfMicros? (us : Int) : Option String :=
  instantText? .auto (us / 1000000) ((us % 1000000).toNat * 1000)

example : instantOfMillis? 1700000000123 = some "2023-11-14T22:13:20.123Z" := by decide
example : dateText? (-719163) = some "0000-12-31" := by decide
example : dateText? 2932897 = some "+10000-01-01" := by decide

end CqlBridge.Time
