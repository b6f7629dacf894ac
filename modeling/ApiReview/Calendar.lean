/-!
Days of the calendar and moments: a day alone, or a day and a time, which may say how far it is
shifted from universal time. Moments with a shift are the same when they fall on the same instant.
-/

set_option autoImplicit false

namespace ApiReview

/-- A day by year, month and day of the month. -/
structure Day where
  year : Nat
  month : Nat
  day : Nat
  deriving DecidableEq, Repr

/-- A time of the day. -/
structure Clock where
  hour : Nat
  minute : Nat
  second : Nat
  microsecond : Nat
  deriving DecidableEq, Repr

/-- A day, or a time on a day with its shift from universal time in minutes. -/
inductive Moment
  | date (day : Day)
  | time (day : Day) (clock : Clock) (shift? : Option Int)
  deriving DecidableEq, Repr

/-- Decimal digits of a number, at least `width` of them. -/
def paddedDigits (width number : Nat) : String :=
  let digits := toString number
  String.ofList (List.replicate (width - digits.length) '0') ++ digits

def isLeapYear (year : Nat) : Bool := year % 4 == 0 && (year % 100 != 0 || year % 400 == 0)

def daysInMonth (year month : Nat) : Nat :=
  if month = 2 then if isLeapYear year then 29 else 28
  else if [4, 6, 9, 11].contains month then 30
  else 31

namespace Day

/-- Whether the calendar has the day. It starts with the year one. -/
def isValid (day : Day) : Bool :=
  1 ≤ day.year && 1 ≤ day.month && day.month ≤ 12
    && 1 ≤ day.day && day.day ≤ daysInMonth day.year day.month

/-- The number of days in front of the day since the start of the year zero. -/
def number (day : Day) : Nat :=
  let years := day.year * 365 + (day.year + 3) / 4 - (day.year + 99) / 100 + (day.year + 399) / 400
  let months := (List.range day.month).drop 1
  years + months.foldl (fun days month => days + daysInMonth day.year month) (day.day - 1)

def text (day : Day) : String :=
  paddedDigits 4 day.year ++ "-" ++ paddedDigits 2 day.month ++ "-" ++ paddedDigits 2 day.day

end Day

namespace Clock

/-- Whether a day has the time. -/
def isValid (clock : Clock) : Bool :=
  clock.hour < 24 && clock.minute < 60 && clock.second < 60 && clock.microsecond < 1000000

/-- The number of microseconds in front of the time on its day. -/
def microseconds (clock : Clock) : Nat :=
  ((clock.hour * 60 + clock.minute) * 60 + clock.second) * 1000000 + clock.microsecond

/-- The text of a time. A fraction is shown when there is one. -/
def text (clock : Clock) : String :=
  paddedDigits 2 clock.hour ++ ":" ++ paddedDigits 2 clock.minute ++ ":"
    ++ paddedDigits 2 clock.second
    ++ if clock.microsecond = 0 then "" else "." ++ paddedDigits 6 clock.microsecond

end Clock

def shiftText (shift : Int) : String :=
  (if shift < 0 then "-" else "+") ++ paddedDigits 2 (shift.natAbs / 60) ++ ":"
    ++ paddedDigits 2 (shift.natAbs % 60)

namespace Moment

/-- The number of minutes below which a shift stays. -/
def shiftLimit : Nat := 24 * 60

/-- Whether there is such a moment. -/
def isValid : Moment → Bool
  | .date day => day.isValid
  | .time day clock shift? =>
    day.isValid && clock.isValid && shift?.all fun shift => shift.natAbs < shiftLimit

/-- The number of microseconds in front of a time at a shift, on the scale of universal time. -/
def instant (day : Day) (clock : Clock) (shift : Int) : Int :=
  Int.ofNat (day.number * 86400000000 + clock.microseconds) - shift * 60000000

/-- Whether two moments are the same. A day is the same as no time, and a time with a shift as none
without. -/
def same : Moment → Moment → Bool
  | .date left, .date right => left == right
  | .time leftDay leftClock none, .time rightDay rightClock none =>
    leftDay == rightDay && leftClock == rightClock
  | .time leftDay leftClock (some left), .time rightDay rightClock (some right) =>
    instant leftDay leftClock left == instant rightDay rightClock right
  | _, _ => false

/-- The text of a moment, with a mark between the day and the time. -/
def textWith (mark : String) : Moment → String
  | .date day => day.text
  | .time day clock shift? => day.text ++ mark ++ clock.text ++ (shift?.map shiftText).getD ""

def text (moment : Moment) : String := moment.textWith " "

/-- The text of a moment for other programs, in which universal time has a letter. -/
def exchangeText : Moment → String
  | .time day clock (some 0) => (Moment.time day clock none).textWith "T" ++ "Z"
  | moment => moment.textWith "T"

end Moment

end ApiReview
