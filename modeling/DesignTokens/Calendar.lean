/-!
# Dates and times

A date of the common calendar and a time of day, the latter with microseconds and an
optional offset from universal time, which has microseconds too. Both are written in the
international form: four digits of the year, two of the other parts, six of a fraction unless
it is zero. An offset of whole minutes is written without its seconds.
-/

namespace DesignTokens

/-- The last digits of a number, padded with zeros at the front. -/
def padded (width n : Nat) : String :=
  let digits := toString n
  String.ofList (List.replicate (width - digits.length) '0') ++ digits

/-- A day of the calendar. -/
structure Date where
  year : Nat
  month : Nat
  day : Nat
deriving Repr, DecidableEq, Inhabited

/-- A moment of a day. -/
structure Moment where
  date : Date
  hour : Nat := 0
  minute : Nat := 0
  second : Nat := 0
  microsecond : Nat := 0
  /-- Microseconds east of universal time, if they are known. -/
  offset : Option Int := none
deriving Repr, DecidableEq, Inhabited

/-- The microseconds of a second. -/
def secondSize : Nat := 1000000

/-- The microseconds of a minute. -/
def minuteSize : Nat := 60 * secondSize

/-- The written form of a date. -/
def Date.iso (date : Date) : String :=
  s!"{padded 4 date.year}-{padded 2 date.month}-{padded 2 date.day}"

/-- The written form of the microseconds behind a number of seconds. -/
def fractionIso (microseconds : Nat) : String :=
  if microseconds == 0 then "" else s!".{padded 6 microseconds}"

/-- The written form of an offset from universal time. -/
def offsetIso (microseconds : Int) : String :=
  let sign := if microseconds < 0 then "-" else "+"
  let minutes := microseconds.natAbs / minuteSize
  let below := microseconds.natAbs % minuteSize
  let seconds :=
    if below == 0 then ""
    else s!":{padded 2 (below / secondSize)}{fractionIso (below % secondSize)}"
  s!"{sign}{padded 2 (minutes / 60)}:{padded 2 (minutes % 60)}" ++ seconds

/-- The written form of a moment, with the given text between date and time. -/
def Moment.isoWith (moment : Moment) (separator : String) : String :=
  let time := s!"{padded 2 moment.hour}:{padded 2 moment.minute}:{padded 2 moment.second}"
  let offset := match moment.offset with
    | none => ""
    | some microseconds => offsetIso microseconds
  moment.date.iso ++ separator ++ time ++ fractionIso moment.microsecond ++ offset

/-- The written form of a moment. -/
def Moment.iso (moment : Moment) : String := moment.isoWith "T"

/-- A year with a twenty-ninth of February. -/
def isLeapYear (year : Nat) : Bool :=
  year % 4 == 0 && (year % 100 != 0 || year % 400 == 0)

/-- The number of days of a month. -/
def daysInMonth (year month : Nat) : Nat :=
  if month == 2 then (if isLeapYear year then 29 else 28)
  else if [4, 6, 9, 11].contains month then 30 else 31

/-- Why numbers are no date or time. -/
inductive CalendarError where
  | year (value : Nat)
  | month
  | day
  | hour
  | minute
  | second
  | offset (days minutes : Int)
deriving Repr, DecidableEq

/-- The wording of a calendar error. -/
def CalendarError.message : CalendarError → String
  | year value => s!"year {value} is out of range"
  | month => "month must be in 1..12"
  | day => "day is out of range for month"
  | hour => "hour must be in 0..23"
  | minute => "minute must be in 0..59"
  | second => "second must be in 0..59"
  | offset days minutes =>
      let seconds := if minutes == 0 then "" else s!", seconds={minutes * 60}"
      "offset must be a timedelta strictly between -timedelta(hours=24) and " ++
        s!"timedelta(hours=24), not datetime.timedelta(days={days}{seconds})."

/-- The date of three numbers. -/
def Date.ofParts (year month day : Nat) : Except CalendarError Date :=
  if year < 1 || 9999 < year then .error (.year year)
  else if month < 1 || 12 < month then .error .month
  else if day < 1 || daysInMonth year month < day then .error .day
  else .ok ⟨year, month, day⟩

/-- The number of days from the first of January of the year 1 to a date. -/
def Date.dayNumber (date : Date) : Nat :=
  let years := date.year - 1
  let months := (List.range (date.month - 1)).map fun m => daysInMonth date.year (m + 1)
  years * 365 + years / 4 - years / 100 + years / 400 + months.foldl (· + ·) 0 + (date.day - 1)

/-- The microseconds from the start of the year 1, in universal time, to a moment whose offset
is known. -/
def Moment.universal? (moment : Moment) : Option Int :=
  moment.offset.map fun offset =>
    let minutes := (moment.date.dayNumber * 24 + moment.hour) * 60 + moment.minute
    ((minutes * 60 + moment.second) * secondSize + moment.microsecond : Nat) - offset

/-- Two moments are the same instant; a moment whose offset is not known is only like one with
the same parts. -/
def Moment.isSameInstant (a b : Moment) : Bool :=
  match a.universal?, b.universal? with
  | some s, some t => s == t
  | none, none => a == b
  | _, _ => false

/-- The moment of a date and the numbers of the time. An offset is given in minutes and stays
below one day. -/
def Moment.ofParts (date : Except CalendarError Date)
    (hour minute second microsecond : Nat) (offset : Option Int) :
    Except CalendarError Moment := do
  if let some minutes := offset then
    if minutes ≤ -1440 || 1440 ≤ minutes then
      throw (.offset (minutes.fdiv 1440) (minutes.fmod 1440))
  let date ← date
  if 23 < hour then throw .hour
  if 59 < minute then throw .minute
  if 59 < second then throw .second
  return { date, hour, minute, second, microsecond, offset := offset.map (· * minuteSize) }

end DesignTokens
