/-!
# Dates and times

Calendar dates of the years 1 to 9999 and moments of such a day, with or without an offset from
universal time. `Date.of?` and `Moment.of?` accept exactly the dates and times there are; the text
forms are those of ISO 8601.
-/

namespace RouteSchema.Calendar

/-- A day. -/
structure Date where
  year : Nat
  month : Nat
  day : Nat
  deriving DecidableEq, Repr

/-- A time of a day. The offset from universal time is in seconds. -/
structure Moment where
  date : Date
  hour : Nat
  minute : Nat
  second : Nat
  microsecond : Nat
  offset : Option Int
  deriving DecidableEq, Repr

/-- Whether February has 29 days. -/
def isLeapYear (y : Nat) : Bool := (y % 4 == 0 && y % 100 != 0) || y % 400 == 0

/-- The number of days of a month. -/
def daysInMonth (y m : Nat) : Nat :=
  if m == 2 then (if isLeapYear y then 29 else 28)
  else if m == 4 || m == 6 || m == 9 || m == 11 then 30 else 31

/-- The date of a year, a month and a day, if there is one. -/
def Date.of? (y m d : Nat) : Option Date :=
  if 1 ≤ y ∧ y ≤ 9999 ∧ 1 ≤ m ∧ m ≤ 12 ∧ 1 ≤ d ∧ d ≤ daysInMonth y m then some ⟨y, m, d⟩ else none

/-- The number of seconds of a day. -/
def secondsPerDay : Nat := 86400

/-- The moment of a day, if there is one. The offset is less than a day. -/
def Moment.of? (date : Date) (h mi s us : Nat) (offset : Option Int) : Option Moment :=
  if h < 24 ∧ mi < 60 ∧ s < 60 ∧ us < 1000000 ∧
      offset.all (fun o => decide (o.natAbs < secondsPerDay)) then
    some ⟨date, h, mi, s, us, offset⟩
  else none

/-- Days of the years before `y`. -/
def daysBeforeYear (y : Nat) : Nat :=
  let p := y - 1
  p * 365 + p / 4 - p / 100 + p / 400

/-- The number of a day, counted from the first day of year 1. -/
def Date.ordinal (d : Date) : Nat :=
  daysBeforeYear d.year +
    ((List.range (d.month - 1)).map fun i => daysInMonth d.year (i + 1)).foldl (· + ·) 0 + d.day

/-- Microseconds since the start of year 1 by the clock of the moment's own offset. -/
def Moment.clock (m : Moment) : Int :=
  (((m.date.ordinal * secondsPerDay + m.hour * 3600 + m.minute * 60 + m.second) * 1000000 +
    m.microsecond : Nat) : Int)

/-- Whether two moments are equal: the same instant, or the same clock time if both have no
offset. -/
def Moment.same (a b : Moment) : Bool :=
  match a.offset, b.offset with
  | none, none => a.clock == b.clock
  | some o, some p => a.clock - o * 1000000 == b.clock - p * 1000000
  | _, _ => false

/-- A number with leading zeros to a width. -/
def padded (width n : Nat) : String :=
  let s := toString n
  String.ofList (List.replicate (width - s.length) '0') ++ s

/-- `YYYY-MM-DD`. -/
def Date.text (d : Date) : String :=
  padded 4 d.year ++ "-" ++ padded 2 d.month ++ "-" ++ padded 2 d.day

/-- `±HH:MM`, with seconds if there are any. -/
def offsetText (o : Int) : String :=
  let n := o.natAbs
  (if o < 0 then "-" else "+") ++ padded 2 (n / 3600) ++ ":" ++ padded 2 (n % 3600 / 60) ++
    (if n % 60 == 0 then "" else ":" ++ padded 2 (n % 60))

/-- Date and time with a separator between them; a fraction only if there is one. -/
def Moment.text (separator : String) (m : Moment) : String :=
  m.date.text ++ separator ++ padded 2 m.hour ++ ":" ++ padded 2 m.minute ++ ":" ++
    padded 2 m.second ++
    (if m.microsecond == 0 then "" else "." ++ padded 6 m.microsecond) ++
    (match m.offset with
      | some o => offsetText o
      | none => "")

end RouteSchema.Calendar
