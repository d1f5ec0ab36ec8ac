import DomBindings.Text.Layout

/-!
# Dates and moments

Days of the proleptic Gregorian calendar in the years 1 to 9999, and moments on such a day with an
optional offset from universal time. Two moments with an offset are the same when they are at the
same universal time; a moment without one is never the same as a moment with one.
-/

namespace DomBindings

/-- A day of the calendar. -/
structure Date where
  /-- the year, from 1 to 9999 -/
  year : Nat
  /-- the month, from 1 to 12 -/
  month : Nat
  /-- the day of the month, from 1 -/
  day : Nat
deriving DecidableEq, Repr

/-- A moment of a day. -/
structure Moment where
  /-- the day -/
  date : Date
  /-- the hour, below 24 -/
  hour : Nat
  /-- the minute, below 60 -/
  minute : Nat
  /-- the second, below 60 -/
  second : Nat
  /-- the microsecond, below a million -/
  microsecond : Nat
  /-- the minutes that local time is ahead of universal time, if that is known -/
  offset : Option Int
deriving DecidableEq, Repr

/-- Why numbers make no date or moment. -/
inductive CalendarError where
  /-- the year is not between 1 and 9999 -/
  | yearOutOfRange (year : Nat)
  /-- the month is not between 1 and 12 -/
  | monthOutOfRange
  /-- the month has no such day -/
  | dayOutOfRange
  /-- the hour is not below 24 -/
  | hourOutOfRange
  /-- the minute is not below 60 -/
  | minuteOutOfRange
  /-- the second is not below 60 -/
  | secondOutOfRange
  /-- the offset, in minutes, is a day or more -/
  | offsetOutOfRange (minutes : Int)
deriving DecidableEq, Repr

namespace Calendar

/-- A year with a leap day. -/
def isLeap (year : Nat) : Bool :=
  year % 4 = 0 && (year % 100 ≠ 0 || year % 400 = 0)

/-- The number of days in a month. -/
def daysIn (year month : Nat) : Nat :=
  match month with
  | 2 => if isLeap year then 29 else 28
  | 4 | 6 | 9 | 11 => 30
  | _ => 31

/-- The number of days before the first day of a year, counted from the first day of year 1. -/
def daysBeforeYear (year : Nat) : Nat :=
  let y := year - 1
  y * 365 + y / 4 - y / 100 + y / 400

/-- The number of days from the first day of year 1. -/
def dayNumber (d : Date) : Nat :=
  daysBeforeYear d.year
    + (List.range (d.month - 1)).foldl (fun days m => days + daysIn d.year (m + 1)) 0
    + (d.day - 1)

/-- Minutes as whole days, rounded down, and the seconds that remain. -/
def daysAndSeconds (minutes : Int) : Int × Int :=
  (minutes.fdiv 1440, minutes.fmod 1440 * 60)

/-- How a message writes a span of minutes. -/
def spanText (minutes : Int) : Text :=
  let (days, seconds) := daysAndSeconds minutes
  let parts :=
    (if days = 0 then [] else ["days=".toList ++ Text.signedNumeral days])
      ++ (if seconds = 0 then [] else ["seconds=".toList ++ Text.signedNumeral seconds])
  "datetime.timedelta(".toList
    ++ (if parts.isEmpty then ['0'] else List.intercalate ", ".toList parts) ++ [')']

end Calendar

/-- The wording of an error. -/
def CalendarError.message : CalendarError → Text
  | .yearOutOfRange year => "year ".toList ++ Text.numeral year ++ " is out of range".toList
  | .monthOutOfRange => "month must be in 1..12".toList
  | .dayOutOfRange => "day is out of range for month".toList
  | .hourOutOfRange => "hour must be in 0..23".toList
  | .minuteOutOfRange => "minute must be in 0..59".toList
  | .secondOutOfRange => "second must be in 0..59".toList
  | .offsetOutOfRange minutes =>
    "offset must be a timedelta strictly between -timedelta(hours=24) and ".toList
      ++ "timedelta(hours=24), not ".toList ++ Calendar.spanText minutes ++ ['.']

/-- The date of three numbers, checked in the order year, month, day. -/
def Date.of (year month day : Nat) : Except CalendarError Date :=
  if year < 1 || 9999 < year then .error (.yearOutOfRange year)
  else if month < 1 || 12 < month then .error .monthOutOfRange
  else if day < 1 || Calendar.daysIn year month < day then .error .dayOutOfRange
  else .ok ⟨year, month, day⟩

/-- The moment of its numbers; the offset is checked first, then the date, then the time. -/
def Moment.of (year month day hour minute second microsecond : Nat) (offset : Option Int) :
    Except CalendarError Moment := do
  match offset with
  | some minutes =>
    if minutes.natAbs ≥ 1440 then throw (.offsetOutOfRange minutes)
  | none => pure ()
  let date ← Date.of year month day
  if 24 ≤ hour then throw .hourOutOfRange
  if 60 ≤ minute then throw .minuteOutOfRange
  if 60 ≤ second then throw .secondOutOfRange
  return ⟨date, hour, minute, second, microsecond, offset⟩

/-- The microseconds from the first instant of year 1, in universal time if the offset is known
and in local time otherwise. -/
def Moment.instant (m : Moment) : Int :=
  let minutes : Int :=
    ((Calendar.dayNumber m.date : Int) * 24 + m.hour) * 60 + m.minute - m.offset.getD 0
  (minutes * 60 + m.second) * 1000000 + m.microsecond

/-- A day as year, month and day with hyphens between. -/
def Date.text (d : Date) : Text :=
  Text.paddedNumeral 4 d.year ++ '-' :: Text.paddedNumeral 2 d.month
    ++ '-' :: Text.paddedNumeral 2 d.day

/-- An offset as signed hours and minutes. -/
def Calendar.offsetText (minutes : Int) : Text :=
  (if minutes < 0 then '-' else '+') :: Text.paddedNumeral 2 (minutes.natAbs / 60)
    ++ ':' :: Text.paddedNumeral 2 (minutes.natAbs % 60)

/-- A moment as date and time, with the microseconds where there are any. -/
def Moment.text (m : Moment) : Text :=
  m.date.text ++ ' ' :: Text.paddedNumeral 2 m.hour ++ ':' :: Text.paddedNumeral 2 m.minute
    ++ ':' :: Text.paddedNumeral 2 m.second
    ++ (if m.microsecond = 0 then [] else '.' :: Text.paddedNumeral 6 m.microsecond)
    ++ (match m.offset with
        | none => []
        | some minutes => Calendar.offsetText minutes)

/-- How a message writes a day. -/
def Date.literal (d : Date) : Text :=
  "datetime.date(".toList
    ++ List.intercalate ", ".toList ([d.year, d.month, d.day].map Text.numeral) ++ [')']

/-- How a message writes an offset. -/
def Calendar.offsetLiteral (minutes : Int) : Text :=
  if minutes = 0 then "datetime.timezone.utc".toList
  else "datetime.timezone(".toList ++ Calendar.spanText minutes ++ [')']

/-- How a message writes a moment: the seconds and the microseconds only where they count. -/
def Moment.literal (m : Moment) : Text :=
  let time :=
    if m.microsecond ≠ 0 then [m.second, m.microsecond]
    else if m.second ≠ 0 then [m.second]
    else []
  let numbers := [m.date.year, m.date.month, m.date.day, m.hour, m.minute] ++ time
  let zone :=
    match m.offset with
    | none => []
    | some minutes => ["tzinfo=".toList ++ Calendar.offsetLiteral minutes]
  "datetime.datetime(".toList
    ++ List.intercalate ", ".toList (numbers.map Text.numeral ++ zone) ++ [')']

end DomBindings
