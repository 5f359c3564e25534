/-!
# Dates and times of day

The proleptic calendar in which every fourth year is a leap year, hundreds apart that are no multiple
of four hundred, and times of day with microseconds and a distance from universal time.
-/

namespace FluentBuilder.Document

/-- A day. -/
structure Date where
  /-- The year. -/
  year : Nat
  /-- The month. -/
  month : Nat
  /-- The day of the month. -/
  day : Nat
  deriving DecidableEq, Repr

/-- A moment: a day and a time of day. -/
structure Moment where
  /-- The day. -/
  date : Date
  /-- The hour. -/
  hour : Nat
  /-- The minute. -/
  minute : Nat
  /-- The second. -/
  second : Nat
  /-- The microsecond. -/
  microsecond : Nat
  /-- The minutes ahead of universal time, if that is known. -/
  offset : Option Int
  deriving DecidableEq, Repr

/-- Why numbers make up no day or moment. -/
inductive CalendarFault where
  | year (year : Nat)
  | month
  | day
  | hour
  | minute
  | second
  | offset (minutes : Int)
  deriving DecidableEq, Repr

/-- The whole days and the seconds left of a distance, as far as they are not zero. -/
def spanParts (minutes : Int) : String :=
  let days := Int.fdiv minutes 1440
  let seconds := Int.fmod minutes 1440 * 60
  let parts :=
    (if days = 0 then [] else ["days=" ++ toString days]) ++
    (if seconds = 0 then [] else ["seconds=" ++ toString seconds])
  "datetime.timedelta(" ++ String.intercalate ", " parts ++ ")"

/-- The wording of a fault. -/
def CalendarFault.message : CalendarFault → String
  | .year n => "year " ++ toString n ++ " is out of range"
  | .month => "month must be in 1..12"
  | .day => "day is out of range for month"
  | .hour => "hour must be in 0..23"
  | .minute => "minute must be in 0..59"
  | .second => "second must be in 0..59"
  | .offset minutes =>
    "offset must be a timedelta strictly between -timedelta(hours=24) and timedelta(hours=24), not " ++
      spanParts minutes ++ "."

/-- Is it a leap year? -/
def isLeapYear (year : Nat) : Bool :=
  year % 4 = 0 && (year % 100 ≠ 0 || year % 400 = 0)

/-- The number of days of a month. -/
def daysInMonth (year month : Nat) : Nat :=
  if month = 2 then (if isLeapYear year then 29 else 28)
  else if [4, 6, 9, 11].contains month then 30 else 31

/-- The day that a year, a month and a day make up. -/
def Date.make (year month day : Nat) : Except CalendarFault Date :=
  if year < 1 || 9999 < year then .error (.year year)
  else if month < 1 || 12 < month then .error .month
  else if day < 1 || daysInMonth year month < day then .error .day
  else .ok ⟨year, month, day⟩

/-- The moment that a day and a time make up. -/
def Moment.make (year month day hour minute second microsecond : Nat) (offset : Option Int) :
    Except CalendarFault Moment := do
  match offset with
  | some minutes => if minutes.natAbs ≥ 1440 then throw (.offset minutes)
  | none => pure ()
  let date ← Date.make year month day
  if 23 < hour then .error .hour
  else if 59 < minute then .error .minute
  else if 59 < second then .error .second
  else .ok ⟨date, hour, minute, second, microsecond, offset⟩

/-! ### Order in time -/

/-- The number of days before a year. -/
def daysBeforeYear (year : Nat) : Nat :=
  let y := year - 1
  y * 365 + y / 4 - y / 100 + y / 400

/-- The number of the day, counted from the first day of the first year. -/
def Date.number (d : Date) : Nat :=
  daysBeforeYear d.year + d.day +
    ((List.range (d.month - 1)).map fun m => daysInMonth d.year (m + 1)).foldl (· + ·) 0

/-- The seconds from the first day on, in universal time if the distance from it is known. -/
def Moment.seconds (m : Moment) : Int :=
  ((((m.date.number * 24 + m.hour) * 60 + m.minute : Nat) : Int) - m.offset.getD 0) * 60 + m.second

/-- Are these the same moment? One with a distance from universal time is never one without. -/
def Moment.same (m n : Moment) : Bool :=
  m.offset.isSome == n.offset.isSome && m.seconds == n.seconds && m.microsecond == n.microsecond

/-! ### Texts -/

/-- A number in at least so many digits. -/
def padded (width n : Nat) : String :=
  let digits := Nat.toDigits 10 n
  String.ofList (List.replicate (width - digits.length) '0' ++ digits)

/-- The day as year, month and day. -/
def Date.render (d : Date) : String :=
  padded 4 d.year ++ "-" ++ padded 2 d.month ++ "-" ++ padded 2 d.day

/-- A distance from universal time as a sign, hours and minutes. -/
def renderOffset (minutes : Int) : String :=
  let n := minutes.natAbs
  (if minutes < 0 then "-" else "+") ++ padded 2 (n / 60) ++ ":" ++ padded 2 (n % 60)

/-- The moment as day, time and distance. -/
def Moment.render (m : Moment) : String :=
  m.date.render ++ " " ++ padded 2 m.hour ++ ":" ++ padded 2 m.minute ++ ":" ++ padded 2 m.second ++
    (if m.microsecond = 0 then "" else "." ++ padded 6 m.microsecond) ++
    (match m.offset with
      | some minutes => renderOffset minutes
      | none => "")

/-- Numbers with commas between them. -/
def commaNumbers (ns : List Nat) : String :=
  String.intercalate ", " (ns.map toString)

/-- The expression that makes the day. -/
def Date.expression (d : Date) : String :=
  "datetime.date(" ++ commaNumbers [d.year, d.month, d.day] ++ ")"

/-- The expression that makes the zone of a distance. -/
def offsetExpression (minutes : Int) : String :=
  if minutes = 0 then "datetime.timezone.utc" else "datetime.timezone(" ++ spanParts minutes ++ ")"

/-- The expression that makes the moment. Seconds and microseconds are left out at the end where they
are zero. -/
def Moment.expression (m : Moment) : String :=
  let fine :=
    if m.microsecond ≠ 0 then [m.second, m.microsecond]
    else if m.second ≠ 0 then [m.second]
    else []
  "datetime.datetime(" ++
    commaNumbers ([m.date.year, m.date.month, m.date.day, m.hour, m.minute] ++ fine) ++
    (match m.offset with
      | some minutes => ", tzinfo=" ++ offsetExpression minutes
      | none => "") ++ ")"

end FluentBuilder.Document
