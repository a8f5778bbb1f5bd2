/-!
# Dates and moments

A document may hold a date, or a moment of a date with an offset from universal time. Both are
written in the extended ISO form. A date outside the Gregorian calendar of the years 1 to 9999 is
refused, and so is an offset of a day or more.
-/

namespace FluxFleet

/-- A number padded with zeros to a width. -/
def padded (width n : Nat) : String :=
  let digits := toString n
  String.ofList (List.replicate (width - digits.length) '0') ++ digits

/-- Why a date or a moment is refused. -/
inductive CalendarFault where
  | year (year : Nat)
  | month
  | day
  | hour
  | minute
  | second
  | offset (seconds : Int)
deriving DecidableEq, Repr

/-- A day of the calendar. -/
structure Date where
  year : Nat
  month : Nat
  day : Nat
deriving DecidableEq, Repr, Inhabited

namespace Date

/-- Whether a year has a leap day. -/
def isLeap (year : Nat) : Bool :=
  year % 4 == 0 && (year % 100 != 0 || year % 400 == 0)

/-- The number of days of a month. -/
def daysIn (year month : Nat) : Nat :=
  if month == 2 then (if isLeap year then 29 else 28)
  else if [4, 6, 9, 11].contains month then 30 else 31

/-- A date of the calendar, or the first of its numbers that is out of range. -/
def ofNumbers (year month day : Nat) : Except CalendarFault Date :=
  if year < 1 ∨ 9999 < year then throw (.year year)
  else if month < 1 ∨ 12 < month then throw .month
  else if day < 1 ∨ daysIn year month < day then throw .day
  else return ⟨year, month, day⟩

/-- The number of days before a date, counted from the first day of the year 1. -/
def dayNumber (d : Date) : Nat :=
  let before := d.year - 1
  365 * before + before / 4 - before / 100 + before / 400 +
    ((List.range d.month).drop 1).foldl (fun n m => n + daysIn d.year m) 0 + (d.day - 1)

/-- The ISO form `2024-01-31`. -/
def iso (d : Date) : String := s!"{padded 4 d.year}-{padded 2 d.month}-{padded 2 d.day}"

/-- The numbers of the date, separated by commas. -/
def numbers (d : Date) : String := s!"{d.year}, {d.month}, {d.day}"

end Date

/-- A moment of a day, with the seconds of its offset from universal time if it has one. -/
structure Moment where
  date : Date
  hour : Nat := 0
  minute : Nat := 0
  second : Nat := 0
  micro : Nat := 0
  offset : Option Int := none
deriving DecidableEq, Repr, Inhabited

namespace Moment

/-- A span of seconds as days and seconds of a day, each left out when it is zero. -/
def span (seconds : Int) : String :=
  let days := seconds / 86400
  let rest := seconds % 86400
  let parts := (if days = 0 then [] else [s!"days={days}"]) ++
    (if rest = 0 then [] else [s!"seconds={rest}"])
  if parts.isEmpty then "0" else ", ".intercalate parts

/-- A moment of the calendar, or the first of its numbers that is out of range. -/
def ofNumbers (year month day hour minute second micro : Nat) (offset : Option Int) :
    Except CalendarFault Moment := do
  if let some o := offset then
    if o ≤ -86400 ∨ 86400 ≤ o then throw (.offset o)
  let date ← Date.ofNumbers year month day
  if 23 < hour then throw .hour
  if 59 < minute then throw .minute
  if 59 < second then throw .second
  return ⟨date, hour, minute, second, micro, offset⟩

/-- The microseconds of a moment in universal time; a moment without offset counts as if it were
there. -/
def instant (t : Moment) : Int :=
  let seconds : Int := ((t.date.dayNumber * 24 + t.hour) * 60 + t.minute) * 60 + t.second
  (seconds - t.offset.getD 0) * 1000000 + t.micro

/-- Whether two moments are the same time; one with an offset never is one without. -/
def same (t u : Moment) : Bool := t.offset.isSome == u.offset.isSome && t.instant == u.instant

/-- An offset as `+02:00`. -/
def offsetText (seconds : Int) : String :=
  let n := seconds.natAbs
  (if seconds < 0 then "-" else "+") ++ padded 2 (n / 3600) ++ ":" ++ padded 2 (n / 60 % 60) ++
    (if n % 60 = 0 then "" else ":" ++ padded 2 (n % 60))

/-- The ISO form, with the text that stands between date and time. -/
def iso (between : String) (t : Moment) : String :=
  t.date.iso ++ between ++
    s!"{padded 2 t.hour}:{padded 2 t.minute}:{padded 2 t.second}" ++
    (if t.micro = 0 then "" else "." ++ padded 6 t.micro) ++
    (match t.offset with | some o => offsetText o | none => "")

/-- The numbers of the moment, separated by commas; seconds and fractions only where they count. -/
def numbers (t : Moment) : String :=
  s!"{t.date.numbers}, {t.hour}, {t.minute}" ++
    (if t.second = 0 ∧ t.micro = 0 then "" else s!", {t.second}") ++
    (if t.micro = 0 then "" else s!", {t.micro}")

end Moment

/-- The wording of a fault. -/
def CalendarFault.message : CalendarFault → String
  | .year y => s!"year {y} is out of range"
  | .month => "month must be in 1..12"
  | .day => "day is out of range for month"
  | .hour => "hour must be in 0..23"
  | .minute => "minute must be in 0..59"
  | .second => "second must be in 0..59"
  | .offset o =>
    "offset must be a timedelta strictly between -timedelta(hours=24) and timedelta(hours=24), " ++
      s!"not datetime.timedelta({Moment.span o})."

end FluxFleet
