/-!
# Dates and Times

Stored settings may hold a calendar date, alone or with a time of day.

## Main Definitions

- `Moment`: a date, perhaps with a time.
- `Moment.create`: a date that is in the calendar.
- `Moment.ofMicroseconds`: the moment that a clock shows.
- `Moment.iso`: the standard notation.
- `Moment.isSame`: whether two moments are the same.
- `Moment.shown`: the notation of messages.
-/

namespace SketchScreen

/-- A time of day. -/
structure TimeOfDay where
  hour : Nat
  minute : Nat
  second : Nat
  micro : Nat
  /-- Minutes ahead of universal time, if known. -/
  offset : Option Int
deriving DecidableEq, Repr

/-- A calendar date, perhaps with a time of day. -/
structure Moment where
  year : Nat
  month : Nat
  day : Nat
  time : Option TimeOfDay
deriving DecidableEq, Repr

/-- Why a date or a time does not exist. -/
inductive MomentFault where
  | year
  | month
  | day
  | hour
  | minute
  | second
  /-- An offset of a day or more, in minutes. -/
  | offset (minutes : Int)
deriving DecidableEq, Repr

/-- A natural number padded with zeros to a width. -/
def padded (width n : Nat) : String :=
  let digits := Nat.toDigits 10 n
  String.ofList (List.replicate (width - digits.length) '0' ++ digits)

namespace TimeOfDay

/-- An offset from universal time, such as `+01:30`. -/
def offsetText (minutes : Int) : String :=
  let m := minutes.natAbs
  (if minutes < 0 then "-" else "+") ++ padded 2 (m / 60) ++ ":" ++ padded 2 (m % 60)

/-- A time such as `12:30:05.250000+01:30`. -/
def iso (t : TimeOfDay) : String :=
  padded 2 t.hour ++ ":" ++ padded 2 t.minute ++ ":" ++ padded 2 t.second
    ++ (if t.micro = 0 then "" else "." ++ padded 6 t.micro)
    ++ (t.offset.elim "" offsetText)

/-- An offset from universal time in the notation of messages. -/
def shownOffset (minutes : Int) : String :=
  let days := minutes.fdiv 1440
  let seconds := minutes.fmod 1440 * 60
  let parts := (if days = 0 then [] else [s!"days={days}"])
    ++ (if seconds = 0 then [] else [s!"seconds={seconds}"])
  "datetime.timedelta(" ++ ", ".intercalate (if parts.isEmpty then ["0"] else parts) ++ ")"

/-- The arguments that build a time in the notation of messages. -/
def shownParts (t : TimeOfDay) : List String :=
  let clock := [s!"{t.hour}", s!"{t.minute}"]
    ++ (if t.second = 0 ∧ t.micro = 0 then [] else [s!"{t.second}"])
    ++ (if t.micro = 0 then [] else [s!"{t.micro}"])
  match t.offset with
  | none => clock
  | some 0 => clock ++ ["tzinfo=datetime.timezone.utc"]
  | some minutes => clock ++ [s!"tzinfo=datetime.timezone({shownOffset minutes})"]

end TimeOfDay

/-- The wording of a fault. -/
def MomentFault.message : MomentFault → String
  | year => "year 0 is out of range"
  | month => "month must be in 1..12"
  | day => "day is out of range for month"
  | hour => "hour must be in 0..23"
  | minute => "minute must be in 0..59"
  | second => "second must be in 0..59"
  | offset minutes =>
    "offset must be a timedelta strictly between -timedelta(hours=24) and "
      ++ "timedelta(hours=24), not " ++ TimeOfDay.shownOffset minutes ++ "."

namespace Moment

/-- Whether a year has a day more. -/
def isLeapYear (year : Nat) : Bool :=
  year % 4 == 0 && (year % 100 != 0 || year % 400 == 0)

/-- The number of days of a month. -/
def daysInMonth (year month : Nat) : Nat :=
  if month = 2 then if isLeapYear year then 29 else 28
  else if month = 4 ∨ month = 6 ∨ month = 9 ∨ month = 11 then 30
  else 31

/-- A date, perhaps with a time, if it exists. -/
def create (year month day : Nat) (time : Option TimeOfDay) : Except MomentFault Moment := do
  if let some t := time then
    if let some minutes := t.offset then
      if 1440 ≤ minutes.natAbs then throw (.offset minutes)
  if year = 0 then throw .year
  if month = 0 ∨ 12 < month then throw .month
  if day = 0 ∨ daysInMonth year month < day then throw .day
  if let some t := time then
    if 24 ≤ t.hour then throw .hour
    if 60 ≤ t.minute then throw .minute
    if 60 ≤ t.second then throw .second
  return ⟨year, month, day, time⟩

/-- The date of a number of days after the first of March of the year 0.  Years are counted
from March, so that a day of a leap year is the last one of its year. -/
def ofDays (days : Nat) : Nat × Nat × Nat :=
  let era := days / 146097
  let inEra := days % 146097
  let year := (inEra - inEra / 1460 + inEra / 36524 - inEra / 146096) / 365
  let inYear := inEra - (365 * year + year / 4 - year / 100)
  let month := (5 * inYear + 2) / 153
  let day := inYear - (153 * month + 2) / 5 + 1
  if month < 10 then (era * 400 + year, month + 3, day)
  else (era * 400 + year + 1, month - 9, day)

/-- The moment, in universal time, of a number of microseconds after the start
of the year 1970. -/
def ofMicroseconds (n : Nat) : Moment :=
  let seconds := n / 1000000
  let (year, month, day) := ofDays (seconds / 86400 + 719468)
  let time := seconds % 86400
  ⟨year, month, day, some ⟨time / 3600, time / 60 % 60, time % 60, n % 1000000, some 0⟩⟩

/-- The date alone, such as `2024-01-02`. -/
def dateText (m : Moment) : String :=
  padded 4 m.year ++ "-" ++ padded 2 m.month ++ "-" ++ padded 2 m.day

/-- The date and, after a separator, the time. -/
def textWith (separator : String) (m : Moment) : String :=
  m.dateText ++ m.time.elim "" fun t => separator ++ t.iso

/-- The standard notation. -/
def iso (m : Moment) : String := m.textWith "T"

/-- The name of the kind of moment. -/
def typeName (m : Moment) : String :=
  if m.time.isNone then "date" else "datetime"

/-- The day of a date, counted from the first of March of the year 0. -/
def dayNumber (m : Moment) : Int :=
  let month := (m.month + 9) % 12
  let year : Int := (m.year : Int) - (if m.month ≤ 2 then 1 else 0)
  365 * year + year.fdiv 4 - year.fdiv 100 + year.fdiv 400
    + ((153 * month + 2) / 5 + m.day - 1 : Nat)

/-- The microseconds from the start of the year 0 to a moment in universal time. -/
def microsecondsAt (m : Moment) (t : TimeOfDay) (offset : Int) : Int :=
  (((m.dayNumber * 24 + t.hour) * 60 + t.minute - offset) * 60 + t.second) * 1000000 + t.micro

/-- Whether two moments are the same.  Moments whose offsets from universal time are known are
compared in universal time. -/
def isSame (m n : Moment) : Bool :=
  match m.time, n.time with
  | some t, some u =>
    match t.offset, u.offset with
    | some a, some b => m.microsecondsAt t a == n.microsecondsAt u b
    | _, _ => m == n
  | _, _ => m == n

/-- The notation of messages. -/
def shown (m : Moment) : String :=
  let parts := [s!"{m.year}", s!"{m.month}", s!"{m.day}"]
    ++ m.time.elim [] TimeOfDay.shownParts
  s!"datetime.{m.typeName}(" ++ ", ".intercalate parts ++ ")"

end Moment

end SketchScreen
