/-!
# Dates and times of day

Calendar dates of the years 1 to 9999, times of day to the microsecond and offsets from universal
time, with their texts.  `Date.make` and `DateTime.make` say which part of a date is out of range.
-/

namespace ColumnTypes

/-- Why numbers do not make a date or a time. -/
inductive CalendarError where
  | year (n : Nat)
  | month
  | day
  | hour
  | minute
  | second
  | offset (seconds : Int)
  deriving DecidableEq, Repr

/-- A day of the calendar. -/
structure Date where
  year : Nat
  month : Nat
  day : Nat
  deriving DecidableEq, Repr

/-- A day with a time of day, and the offset from universal time in seconds where one is known. -/
structure DateTime where
  date : Date
  hour : Nat
  minute : Nat
  second : Nat
  microsecond : Nat
  offset : Option Int
  deriving DecidableEq, Repr

namespace Calendar

/-- Every fourth year, less the centuries that 400 does not divide. -/
def isLeapYear (year : Nat) : Bool :=
  year % 4 == 0 && (year % 100 != 0 || year % 400 == 0)

/-- Days of a month. -/
def daysIn (year month : Nat) : Nat :=
  if month = 2 then (if isLeapYear year then 29 else 28)
  else if month = 4 ∨ month = 6 ∨ month = 9 ∨ month = 11 then 30
  else 31

/-- Days from the first day of year 1 to the first day of a year. -/
def daysBeforeYear (year : Nat) : Nat :=
  let y := year - 1
  y * 365 + y / 4 - y / 100 + y / 400

/-- Days of a year before a month. -/
def daysBeforeMonth (year month : Nat) : Nat :=
  (List.range (month - 1)).foldl (fun n m => n + daysIn year (m + 1)) 0

/-- Two digits. -/
def twoDigits (n : Nat) : String :=
  (if n < 10 then "0" else "") ++ toString n

/-- Pads a numeral with zeros on the left. -/
def padded (width n : Nat) : String :=
  let s := toString n
  "".pushn '0' (width - s.length) ++ s

end Calendar

open Calendar

namespace Date

/-- A date from its numbers. -/
def make (year month day : Nat) : Except CalendarError Date :=
  if year < 1 ∨ 9999 < year then .error (.year year)
  else if month < 1 ∨ 12 < month then .error .month
  else if day < 1 ∨ daysIn year month < day then .error .day
  else .ok ⟨year, month, day⟩

/-- Year, month and day with hyphens. -/
def text (d : Date) : String :=
  padded 4 d.year ++ "-" ++ twoDigits d.month ++ "-" ++ twoDigits d.day

/-- Days since the first day of year 1. -/
def ordinal (d : Date) : Nat :=
  daysBeforeYear d.year + daysBeforeMonth d.year d.month + d.day

end Date

namespace DateTime

/-- A date and time from its numbers; the date is looked at first. -/
def make (year month day hour minute second microsecond : Nat) (offset : Option Int) :
    Except CalendarError DateTime :=
  match Date.make year month day with
  | .error e => .error e
  | .ok date =>
    if 23 < hour then .error .hour
    else if 59 < minute then .error .minute
    else if 59 < second then .error .second
    else .ok ⟨date, hour, minute, second, microsecond, offset⟩

/-- An offset as sign, hours and minutes, with seconds where there are any. -/
def offsetText (seconds : Int) : String :=
  let n := seconds.natAbs
  (if seconds < 0 then "-" else "+") ++ twoDigits (n / 3600) ++ ":" ++ twoDigits (n / 60 % 60) ++
    if n % 60 = 0 then "" else ":" ++ twoDigits (n % 60)

/-- Date and time with a blank between, microseconds where there are any, and the offset. -/
def text (d : DateTime) : String :=
  d.date.text ++ " " ++ twoDigits d.hour ++ ":" ++ twoDigits d.minute ++ ":" ++
    twoDigits d.second ++ (if d.microsecond = 0 then "" else "." ++ padded 6 d.microsecond) ++
    match d.offset with
    | none => ""
    | some seconds => offsetText seconds

/-- Microseconds since the first day of year 1, in universal time where the offset is known. -/
def instant (d : DateTime) : Int :=
  let seconds : Int := d.date.ordinal * 86400 + d.hour * 3600 + d.minute * 60 + d.second
  (seconds - d.offset.getD 0) * 1000000 + d.microsecond

/-- Two times are the same moment if both or neither have an offset and their instants agree. -/
def sameMoment (a b : DateTime) : Bool :=
  a.offset.isSome == b.offset.isSome && a.instant == b.instant

end DateTime

end ColumnTypes
