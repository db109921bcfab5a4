import ShellPipeline.Number.Layout

/-!
# Dates and times

The dates, the times of day, and the moments that join the two, as documents hold them. A moment may
carry the distance of its clock from universal time, in minutes. Each is checked when it is made: a
date is a day of the Gregorian calendar in the years 1 to 9999, a time a minute of a day without
leap seconds.

Each kind has two texts: the plain one, and a detailed one that names the kind and its parts.
-/

namespace ShellPipeline.Document

/-- Why numbers do not make a date or a time. -/
inductive CalendarFault where
  /-- The year is outside the calendar. -/
  | year (year : Nat)
  /-- The month is none of the twelve. -/
  | month
  /-- The month has no such day. -/
  | day
  /-- The day has no such hour. -/
  | hour
  /-- The hour has no such minute. -/
  | minute
  /-- The minute has no such second. -/
  | second
  /-- The clock is a day or more away from universal time. -/
  | offset (minutes : Int)
deriving DecidableEq, Repr

/-- A day of the calendar. -/
structure CivilDate where
  /-- The year. -/
  year : Nat
  /-- The month, from one. -/
  month : Nat
  /-- The day of the month, from one. -/
  day : Nat
deriving DecidableEq, Repr, Inhabited

/-- A time of day. -/
structure ClockTime where
  /-- The hour. -/
  hour : Nat
  /-- The minute. -/
  minute : Nat
  /-- The second. -/
  second : Nat
  /-- The millionths of a second. -/
  micro : Nat
deriving DecidableEq, Repr, Inhabited

/-- A time of a day, with the distance of its clock from universal time where that is known. -/
structure Moment where
  /-- The day. -/
  date : CivilDate
  /-- The time of day. -/
  time : ClockTime
  /-- The distance from universal time, in minutes. -/
  offset : Option Int
deriving DecidableEq, Repr, Inhabited

open Number.Layout (padded)

/-! ### Texts -/

/-- A span of minutes in days and seconds, both named, where they are not zero. -/
def spanDetail (minutes : Int) : String :=
  let days := minutes / 1440
  let seconds := minutes % 1440 * 60
  let parts := (if days = 0 then [] else ["days=" ++ toString days]) ++
    (if seconds = 0 then [] else ["seconds=" ++ toString seconds])
  "datetime.timedelta(" ++ (if parts.isEmpty then "0" else ", ".intercalate parts) ++ ")"

/-- The wording of a fault. -/
def CalendarFault.message : CalendarFault → String
  | year n => "year " ++ toString n ++ " is out of range"
  | month => "month must be in 1..12"
  | day => "day is out of range for month"
  | hour => "hour must be in 0..23"
  | minute => "minute must be in 0..59"
  | second => "second must be in 0..59"
  | offset minutes =>
    "offset must be a timedelta strictly between -timedelta(hours=24) and " ++
      "timedelta(hours=24), not " ++
      spanDetail minutes ++ "."

/-- A year, a month and a day, with dashes. -/
def CivilDate.text (d : CivilDate) : String :=
  padded 4 d.year ++ "-" ++ padded 2 d.month ++ "-" ++ padded 2 d.day

/-- The parts of a date. -/
def CivilDate.parts (d : CivilDate) : List String := [d.year, d.month, d.day].map toString

/-- A date with its kind named. -/
def CivilDate.detail (d : CivilDate) : String :=
  "datetime.date(" ++ ", ".intercalate d.parts ++ ")"

/-- An hour, a minute and a second, with colons; millionths only where there are some. -/
def ClockTime.text (t : ClockTime) : String :=
  padded 2 t.hour ++ ":" ++ padded 2 t.minute ++ ":" ++ padded 2 t.second ++
    if t.micro = 0 then "" else "." ++ padded 6 t.micro

/-- The parts of a time, without the zeros at the end. -/
def ClockTime.parts (t : ClockTime) : List String :=
  [t.hour, t.minute].map toString ++
    if t.micro ≠ 0 then [t.second, t.micro].map toString
    else if t.second ≠ 0 then [toString t.second]
    else []

/-- A time with its kind named. -/
def ClockTime.detail (t : ClockTime) : String :=
  "datetime.time(" ++ ", ".intercalate t.parts ++ ")"

/-- A distance from universal time, with its sign, in hours and minutes. -/
def offsetText (minutes : Int) : String :=
  (if minutes < 0 then "-" else "+") ++ padded 2 (minutes.natAbs / 60) ++ ":" ++
    padded 2 (minutes.natAbs % 60)

/-- A date and a time with a space between them, and the distance from universal time. -/
def Moment.text (m : Moment) : String :=
  m.date.text ++ " " ++ m.time.text ++ (m.offset.map offsetText).getD ""

/-- A moment with its kind named. -/
def Moment.detail (m : Moment) : String :=
  let zone := match m.offset with
    | none => []
    | some 0 => ["tzinfo=datetime.timezone.utc"]
    | some minutes => ["tzinfo=datetime.timezone(" ++ spanDetail minutes ++ ")"]
  "datetime.datetime(" ++ ", ".intercalate (m.date.parts ++ m.time.parts ++ zone) ++ ")"

/-! ### Checks -/

/-- Whether a year has a leap day. -/
def isLeapYear (year : Nat) : Bool := year % 4 == 0 && (year % 100 != 0 || year % 400 == 0)

/-- The number of days of a month. -/
def daysInMonth (year month : Nat) : Nat :=
  if month = 2 then (if isLeapYear year then 29 else 28)
  else if month = 4 ∨ month = 6 ∨ month = 9 ∨ month = 11 then 30
  else 31

/-- A date, if the calendar has it. -/
def CivilDate.check (year month day : Nat) : Except CalendarFault CivilDate :=
  if year = 0 ∨ 9999 < year then .error (.year year)
  else if month = 0 ∨ 12 < month then .error .month
  else if day = 0 ∨ daysInMonth year month < day then .error .day
  else .ok ⟨year, month, day⟩

/-- A time of day, if a day has it. -/
def ClockTime.check (hour minute second micro : Nat) : Except CalendarFault ClockTime :=
  if 23 < hour then .error .hour
  else if 59 < minute then .error .minute
  else if 59 < second then .error .second
  else .ok ⟨hour, minute, second, micro⟩

/-- A distance from universal time, if it is less than a day. -/
def checkOffset (minutes : Int) : Except CalendarFault Int :=
  if 1440 ≤ minutes.natAbs then .error (.offset minutes) else .ok minutes

example : (CivilDate.check 1900 2 29).toOption = none := by decide

/-! ### Comparison -/

/-- The number of a day, counted from the beginning of the calendar. -/
def CivilDate.number (d : CivilDate) : Nat :=
  let years := d.year - 1
  let before := (List.range (d.month - 1)).foldl
    (fun days month => days + daysInMonth d.year (month + 1)) 0
  years * 365 + years / 4 - years / 100 + years / 400 + before + d.day

/-- The minute of universal time in which a moment lies, where that is known. -/
def Moment.minute? (m : Moment) : Option Int :=
  let minutes : Int := m.date.number * 1440 + m.time.hour * 60 + m.time.minute
  m.offset.map fun offset => minutes - offset

/-- **Whether two moments are one.** The clocks of two moments with known distances from universal
time need not agree; a moment whose distance is not known is never one whose distance is known. -/
def Moment.same (m n : Moment) : Bool :=
  match m.minute?, n.minute? with
  | some a, some b => a == b && m.time.second == n.time.second && m.time.micro == n.time.micro
  | none, none => m == n
  | _, _ => false

/-- Half past midnight an hour to the east is half past eleven of the day before. -/
example : Moment.same ⟨⟨2001, 1, 1⟩, ⟨0, 30, 0, 0⟩, some 60⟩
    ⟨⟨2000, 12, 31⟩, ⟨23, 30, 0, 0⟩, some 0⟩ := by decide

end ShellPipeline.Document
