import SqlAssist.Number.Shortest

/-!
# Dates and times

Dates and times of day as they stand in a configuration file, and the two ways they are shown:
`shown` by itself, `described` inside a list or a table.
-/
namespace SqlAssist

/-- A day of the calendar. -/
structure Date where
  year : Nat
  month : Nat
  day : Nat
  deriving DecidableEq, Repr

/-- A time of day. -/
structure TimeOfDay where
  hour : Nat
  minute : Nat
  second : Nat
  micro : Nat
  deriving DecidableEq, Repr

/-- A date, a time of day, or both, with the distance from universal time in minutes or without. -/
inductive Moment where
  | day (date : Date)
  | clock (time : TimeOfDay)
  | both (date : Date) (time : TimeOfDay) (offset : Option Int)
  deriving DecidableEq, Repr

/-- The number of days of a month. -/
def daysInMonth (year month : Nat) : Nat :=
  if month = 2 then
    if year % 4 = 0 ∧ (year % 100 ≠ 0 ∨ year % 400 = 0) then 29 else 28
  else if [4, 6, 9, 11].contains month then 30
  else 31

/-- Whether the calendar has the date; the years are 1 to 9999. -/
def Date.isValid (date : Date) : Bool :=
  1 ≤ date.year && date.year ≤ 9999 && 1 ≤ date.month && date.month ≤ 12 &&
    1 ≤ date.day && date.day ≤ daysInMonth date.year date.month

/-- A date as `1979-05-27`. -/
def Date.shown (date : Date) : String :=
  Decimal.padded 4 date.year ++ "-" ++ Decimal.padded 2 date.month ++ "-" ++
    Decimal.padded 2 date.day

/-- A time as `07:32:00`, with six more digits if it has a fraction of a second. -/
def TimeOfDay.shown (time : TimeOfDay) : String :=
  let whole := Decimal.padded 2 time.hour ++ ":" ++ Decimal.padded 2 time.minute ++ ":" ++
    Decimal.padded 2 time.second
  if time.micro = 0 then whole else whole ++ "." ++ Decimal.padded 6 time.micro

/-- A distance from universal time as `+05:30`. -/
def shownOffset (minutes : Int) : String :=
  (if minutes < 0 then "-" else "+") ++ Decimal.padded 2 (minutes.natAbs / 60) ++ ":" ++
    Decimal.padded 2 (minutes.natAbs % 60)

/-- A moment by itself. -/
def Moment.shown : Moment → String
  | .day date => date.shown
  | .clock time => time.shown
  | .both date time offset =>
    date.shown ++ " " ++ time.shown ++ (offset.map shownOffset).getD ""

/-- The parts of a time of day that a description lists: hour and minute always, the rest if it is
not zero. -/
def TimeOfDay.parts (time : TimeOfDay) : List String :=
  [toString time.hour, toString time.minute] ++
    (if time.second = 0 ∧ time.micro = 0 then [] else [toString time.second]) ++
    (if time.micro = 0 then [] else [toString time.micro])

/-- The parts of a date. -/
def Date.parts (date : Date) : List String :=
  [toString date.year, toString date.month, toString date.day]

/-- The description of a distance from universal time. -/
def describedOffset (minutes : Int) : String :=
  if minutes = 0 then "datetime.timezone.utc"
  else
    let seconds := minutes * 60
    let span := if seconds < 0 then
        "days=-1, seconds=" ++ toString (seconds + 86400)
      else "seconds=" ++ toString seconds
    "datetime.timezone(datetime.timedelta(" ++ span ++ "))"

/-- A moment inside a list or a table. -/
def Moment.described : Moment → String
  | .day date => "datetime.date(" ++ ", ".intercalate date.parts ++ ")"
  | .clock time => "datetime.time(" ++ ", ".intercalate time.parts ++ ")"
  | .both date time offset =>
    let zone := (offset.map fun minutes => ["tzinfo=" ++ describedOffset minutes]).getD []
    "datetime.datetime(" ++ ", ".intercalate (date.parts ++ time.parts ++ zone) ++ ")"

end SqlAssist
