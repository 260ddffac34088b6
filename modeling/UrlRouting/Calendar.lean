/-!
Dates, times of day and moments, as configuration files can hold them.
-/

namespace UrlRouting

/-- A day of the proleptic Gregorian calendar. -/
structure Date where
  year : Nat
  month : Nat
  day : Nat
  deriving DecidableEq, Repr

structure Clock where
  hour : Nat
  minute : Nat
  second : Nat
  microsecond : Nat
  deriving DecidableEq, Repr

/-- A day and a time of day, with the seconds that local time is ahead of universal time if they
are known. -/
structure Moment where
  date : Date
  clock : Clock
  offset : Option Int
  deriving DecidableEq, Repr

inductive CalendarFault where
  | year (year : Nat)
  | month
  | day
  | hour
  | minute
  | second
  | offset (seconds : Int)
  deriving DecidableEq, Repr

def isLeapYear (year : Nat) : Bool :=
  year % 4 == 0 && (year % 100 != 0 || year % 400 == 0)

def daysInMonth (year month : Nat) : Nat :=
  if month == 2 then (if isLeapYear year then 29 else 28)
  else if [4, 6, 9, 11].contains month then 30 else 31

def paddedNumber (width n : Nat) : String :=
  let digits := Nat.toDigits 10 n
  String.ofList (List.replicate (width - digits.length) '0' ++ digits)

namespace Date

def make (year month day : Nat) : Except CalendarFault Date :=
  if year < 1 || 9999 < year then .error (.year year)
  else if month < 1 || 12 < month then .error .month
  else if day < 1 || daysInMonth year month < day then .error .day
  else .ok ⟨year, month, day⟩

def text (date : Date) : String :=
  s!"{paddedNumber 4 date.year}-{paddedNumber 2 date.month}-{paddedNumber 2 date.day}"

def dayNumber (date : Date) : Nat :=
  let year := date.year - 1
  let before := (List.range (date.month - 1)).map fun month => daysInMonth date.year (month + 1)
  year * 365 + year / 4 - year / 100 + year / 400 + before.foldr (· + ·) 0 + date.day

end Date

namespace Clock

def make (hour minute second microsecond : Nat) : Except CalendarFault Clock :=
  if 23 < hour then .error .hour
  else if 59 < minute then .error .minute
  else if 59 < second then .error .second
  else .ok ⟨hour, minute, second, microsecond⟩

/-- Hours, minutes and seconds, with a fraction unless it is zero. -/
def text (clock : Clock) : String :=
  let whole :=
    s!"{paddedNumber 2 clock.hour}:{paddedNumber 2 clock.minute}:{paddedNumber 2 clock.second}"
  if clock.microsecond == 0 then whole else s!"{whole}.{paddedNumber 6 clock.microsecond}"

/-- The numbers that a listing shows: trailing zeros from the seconds on are left out. -/
def shownNumbers (clock : Clock) : List Nat :=
  if clock.microsecond != 0 then [clock.hour, clock.minute, clock.second, clock.microsecond]
  else if clock.second != 0 then [clock.hour, clock.minute, clock.second]
  else [clock.hour, clock.minute]

end Clock

def commaSeparated (numbers : List Nat) : String :=
  ", ".intercalate (numbers.map fun n => toString n)

def offsetText (seconds : Int) : String :=
  let size := seconds.natAbs
  let sign := if seconds < 0 then "-" else "+"
  let minutes := s!"{sign}{paddedNumber 2 (size / 3600)}:{paddedNumber 2 (size / 60 % 60)}"
  if size % 60 == 0 then minutes else s!"{minutes}:{paddedNumber 2 (size % 60)}"

/-- A span of seconds as a listing shows it: whole days, which may be negative, and the seconds
beyond them. -/
def shownSpan (seconds : Int) : String :=
  let days := seconds.fdiv 86400
  let rest := seconds.fmod 86400
  let parts :=
    (if days != 0 then [s!"days={days}"] else []) ++
      (if rest != 0 then [s!"seconds={rest}"] else [])
  let inside := if parts.isEmpty then "0" else ", ".intercalate parts
  s!"datetime.timedelta({inside})"

namespace Date

def shown (date : Date) : String :=
  s!"datetime.date({commaSeparated [date.year, date.month, date.day]})"

end Date

namespace Clock

def shown (clock : Clock) : String :=
  s!"datetime.time({commaSeparated clock.shownNumbers})"

end Clock

namespace Moment

def text (moment : Moment) : String :=
  s!"{moment.date.text} {moment.clock.text}" ++ (moment.offset.map offsetText).getD ""

def shown (moment : Moment) : String :=
  let numbers :=
    [moment.date.year, moment.date.month, moment.date.day] ++ moment.clock.shownNumbers
  let zone := match moment.offset with
    | none => ""
    | some seconds =>
        if seconds == 0 then ", tzinfo=datetime.timezone.utc"
        else s!", tzinfo=datetime.timezone({shownSpan seconds})"
  s!"datetime.datetime({commaSeparated numbers}{zone})"

def localMicroseconds (moment : Moment) : Int :=
  let clock := moment.clock
  let seconds := ((moment.date.dayNumber * 24 + clock.hour) * 60 + clock.minute) * 60 + clock.second
  (seconds * 1000000 + clock.microsecond : Nat)

/-- Moments with a known difference to universal time are the same if they are simultaneous. -/
def same (a b : Moment) : Bool :=
  match a.offset, b.offset with
  | none, none => a == b
  | some ahead, some behind =>
      a.localMicroseconds - ahead * 1000000 == b.localMicroseconds - behind * 1000000
  | _, _ => false

end Moment

def CalendarFault.message : CalendarFault → String
  | .year number => s!"year {number} is out of range"
  | .month => "month must be in 1..12"
  | .day => "day is out of range for month"
  | .hour => "hour must be in 0..23"
  | .minute => "minute must be in 0..59"
  | .second => "second must be in 0..59"
  | .offset seconds =>
      "offset must be a timedelta strictly between -timedelta(hours=24) and " ++
        "timedelta(hours=24), " ++
        s!"not {shownSpan seconds}."

end UrlRouting
