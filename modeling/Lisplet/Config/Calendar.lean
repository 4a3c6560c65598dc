import Lisplet.Text.Quoted

/-!
# Dates and times

The calendar values that a configuration can spell, and why some of what looks
like one is none.
-/

namespace Lisplet.Config

structure Date where
  year : Nat
  month : Nat
  day : Nat
  deriving DecidableEq

inductive Zone where
  | unknown
  | universal
  | ahead (minutes : Int)
  deriving DecidableEq

structure Moment where
  date : Date
  hour : Nat
  minute : Nat
  second : Nat
  microsecond : Nat
  zone : Zone
  deriving DecidableEq

inductive CalendarFault where
  | year (value : Nat)
  | month
  | day
  | hour
  | minute
  | second
  | offset (minutes : Int)
  deriving DecidableEq

/-- A span of time as messages show it: whole days, and the seconds beyond. -/
def spanText (minutes : Int) : String :=
  let seconds := minutes * 60
  let days := Int.fdiv seconds 86400
  let rest := Int.fmod seconds 86400
  let parts :=
    (if days = 0 then [] else ["days=" ++ toString days]) ++
      (if rest = 0 then [] else ["seconds=" ++ toString rest])
  "datetime.timedelta(" ++
    (if parts.isEmpty then "0" else Text.joined ", " parts) ++ ")"

def CalendarFault.message : CalendarFault → String
  | .year value => "year " ++ toString value ++ " is out of range"
  | .month => "month must be in 1..12"
  | .day => "day is out of range for month"
  | .hour => "hour must be in 0..23"
  | .minute => "minute must be in 0..59"
  | .second => "second must be in 0..59"
  | .offset minutes =>
      "offset must be a timedelta strictly between -timedelta(hours=24) and " ++
        "timedelta(hours=24), not " ++ spanText minutes ++ "."

def isLeapYear (year : Nat) : Bool :=
  year % 4 = 0 && (year % 100 != 0 || year % 400 = 0)

def daysIn (year month : Nat) : Nat :=
  if month = 2 then if isLeapYear year then 29 else 28
  else if [4, 6, 9, 11].contains month then 30
  else 31

namespace Date

def make (year month day : Nat) : Except CalendarFault Date :=
  if year = 0 then .error (.year year)
  else if month < 1 || 12 < month then .error .month
  else if day < 1 || daysIn year month < day then .error .day
  else .ok ⟨year, month, day⟩

def shown (date : Date) : String :=
  "datetime.date(" ++
    Text.joined ", " ([date.year, date.month, date.day].map toString) ++ ")"

end Date

namespace Zone

def minutesPerDay : Int := 24 * 60

def make (minutes : Int) : Except CalendarFault Zone :=
  if minutesPerDay ≤ minutes || minutes ≤ -minutesPerDay then
    .error (.offset minutes)
  else if minutes = 0 then .ok .universal
  else .ok (.ahead minutes)

def shown : Zone → List String
  | .unknown => []
  | .universal => ["tzinfo=datetime.timezone.utc"]
  | .ahead minutes => ["tzinfo=datetime.timezone(" ++ spanText minutes ++ ")"]

end Zone

namespace Moment

def make (date : Date) (hour minute second microsecond : Nat) (zone : Zone) :
    Except CalendarFault Moment :=
  if 23 < hour then .error .hour
  else if 59 < minute then .error .minute
  else if 59 < second then .error .second
  else .ok ⟨date, hour, minute, second, microsecond, zone⟩

/-- Seconds and their fraction are left out at the end if they are zero. -/
def clockShown (moment : Moment) : List Nat :=
  if moment.microsecond ≠ 0 then [moment.second, moment.microsecond]
  else if moment.second ≠ 0 then [moment.second]
  else []

def shown (moment : Moment) : String :=
  let numbers :=
    [moment.date.year, moment.date.month, moment.date.day, moment.hour,
      moment.minute] ++ moment.clockShown
  "datetime.datetime(" ++
    Text.joined ", " (numbers.map toString ++ moment.zone.shown) ++ ")"

end Moment

end Lisplet.Config
