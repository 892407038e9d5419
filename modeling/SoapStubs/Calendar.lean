/-!
# Dates and moments

Calendar dates and moments of the proleptic Gregorian calendar, as documents hold them.

* `Date` and `Moment` are the types; `Date.problem?` says what is wrong with a date;
* `Date.text` and `Moment.text` write them as in `2024-01-31` and `2024-01-31 09:30:00+01:00`;
* `Date.call` and `Moment.call` write them as the call that makes them;
* `Date.ordinal` and `Moment.instant?` place them in time, for equality and order.
-/

namespace SoapStubs

/-- A day of a year. -/
structure Date where
  year : Nat
  month : Nat
  /-- The day of the month, from 1. -/
  day : Nat
  deriving DecidableEq, Repr, Inhabited

/-- A moment of a day, with the distance from universal time if it is known. -/
structure Moment where
  date : Date
  hour : Nat
  minute : Nat
  second : Nat
  micro : Nat
  /-- The distance from universal time, in minutes. -/
  offset : Option Int
  deriving DecidableEq, Repr, Inhabited

/-- The decimal digits of `n`, at least `width` of them. -/
def padded (width n : Nat) : String :=
  let digits := Nat.toDigits 10 n
  String.ofList (List.replicate (width - digits.length) '0' ++ digits)

def leapYear (year : Nat) : Bool :=
  year % 4 == 0 && (year % 100 != 0 || year % 400 == 0)

/-- The number of days of a month. -/
def daysIn (year month : Nat) : Nat :=
  if month = 2 then (if leapYear year then 29 else 28)
  else if month = 4 ∨ month = 6 ∨ month = 9 ∨ month = 11 then 30
  else 31

namespace Date

/-- What is wrong with the date, if anything. -/
def problem? (d : Date) : Option String :=
  if d.year = 0 then some "year 0 is out of range"
  else if d.month = 0 ∨ 12 < d.month then some "month must be in 1..12"
  else if d.day = 0 ∨ daysIn d.year d.month < d.day then some "day is out of range for month"
  else none

/-- The number of days up to the date, from the first day of the year 1 on. -/
def ordinal (d : Date) : Nat :=
  let years := d.year - 1
  365 * years + years / 4 - years / 100 + years / 400 +
    ((List.range (d.month - 1)).map fun m => daysIn d.year (m + 1)).foldr (· + ·) 0 + d.day

/-- The date as year, month and day. -/
def text (d : Date) : String :=
  padded 4 d.year ++ "-" ++ padded 2 d.month ++ "-" ++ padded 2 d.day

/-- The date as the call that makes it. -/
def call (d : Date) : String :=
  "datetime.date(" ++ toString d.year ++ ", " ++ toString d.month ++ ", " ++ toString d.day ++ ")"

end Date

namespace Moment

/-- What is wrong with the moment, if anything. -/
def problem? (t : Moment) : Option String :=
  match t.date.problem? with
  | some p => some p
  | none =>
    if 24 ≤ t.hour then some "hour must be in 0..23"
    else if 60 ≤ t.minute then some "minute must be in 0..59"
    else if 60 ≤ t.second then some "second must be in 0..59"
    else none

/-- The microseconds up to the moment, by the clock of its place. -/
def clock (t : Moment) : Int :=
  (((t.date.ordinal * 24 + t.hour) * 60 + t.minute) * 60 + t.second) * 1000000 + t.micro

/-- The microseconds up to the moment in universal time, if that is known. -/
def instant? (t : Moment) : Option Int := t.offset.map fun m => t.clock - m * 60000000

/-- Are the moments the same?  A moment of an unknown place is never the same as one of a known
place. -/
def same (t u : Moment) : Bool :=
  match t.instant?, u.instant? with
  | some i, some j => i == j
  | none, none => t.clock == u.clock
  | _, _ => false

/-- The distance from universal time as hours and minutes. -/
def offsetText (minutes : Int) : String :=
  (if minutes < 0 then "-" else "+") ++ padded 2 (minutes.natAbs / 60) ++ ":" ++
    padded 2 (minutes.natAbs % 60)

/-- The moment as date, time and distance from universal time. -/
def text (t : Moment) : String :=
  t.date.text ++ " " ++ padded 2 t.hour ++ ":" ++ padded 2 t.minute ++ ":" ++ padded 2 t.second ++
    (if t.micro = 0 then "" else "." ++ padded 6 t.micro) ++
    (match t.offset with
      | none => ""
      | some minutes => offsetText minutes)

/-- A distance from universal time as the call that makes it. -/
def offsetCall (minutes : Int) : String :=
  if minutes = 0 then "datetime.timezone.utc"
  else
    let days := if minutes < 0 then "days=-1, " else ""
    let seconds := (minutes % 1440) * 60
    "datetime.timezone(datetime.timedelta(" ++ days ++ "seconds=" ++ toString seconds ++ "))"

/-- The moment as the call that makes it. -/
def call (t : Moment) : String :=
  let d := t.date
  let parts := [d.year, d.month, d.day, t.hour, t.minute] ++
    (if t.micro = 0 then (if t.second = 0 then [] else [t.second]) else [t.second, t.micro])
  "datetime.datetime(" ++ ", ".intercalate (parts.map toString) ++
    (match t.offset with
      | none => ""
      | some minutes => ", tzinfo=" ++ offsetCall minutes) ++ ")"

end Moment

end SoapStubs
