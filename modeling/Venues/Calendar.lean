/-! # The civil calendar

Days are counted from the first day of the year 1. A year is found from its day by a first guess
that is at most one year off; `daysBeforeYear` says on which day each year begins. The calendar
repeats after 400 years, which carries it to the years before the first.
-/

namespace Venues.Calendar

def isLeap (year : Nat) : Bool := year % 4 == 0 && (year % 100 != 0 || year % 400 == 0)

/-- The number of days before the first day of a year, counted from the year 1. -/
def daysBeforeYear (year : Nat) : Nat :=
  let y := year - 1
  365 * y + y / 4 - y / 100 + y / 400

/-- The days of a year before each of its months. -/
def monthStarts (leap : Bool) : List Nat :=
  if leap then [0, 31, 60, 91, 121, 152, 182, 213, 244, 274, 305, 335]
  else [0, 31, 59, 90, 120, 151, 181, 212, 243, 273, 304, 334]

def daysInYear (year : Nat) : Nat := if isLeap year then 366 else 365

/-- The first day after a month, counted within its year. -/
def monthEnd (year month : Nat) : Nat :=
  ((monthStarts (isLeap year))[month]?).getD (daysInYear year)

def monthStart (year month : Nat) : Nat := ((monthStarts (isLeap year))[month - 1]?).getD 0

def isDate (year month day : Nat) : Bool :=
  1 ≤ month && month ≤ 12 && 1 ≤ day && day ≤ monthEnd year month - monthStart year month

/-- The number of days after which the calendar repeats. -/
def cycle : Nat := 146097

/-- The number of a day, the first day of the year 1 being day 0. -/
def dayNumber (year month day : Nat) : Int :=
  (daysBeforeYear (year + 400) + monthStart year month + (day - 1) : Nat) - (cycle : Int)

def yearOfDay (n : Nat) : Nat :=
  let guess := n * 400 / cycle + 1
  if n < daysBeforeYear guess then guess - 1
  else if daysBeforeYear (guess + 1) ≤ n then guess + 1
  else guess

/-- The month of a day, given the days of its year before it. -/
def monthOfDay (year dayOfYear : Nat) : Nat :=
  (monthStarts (isLeap year)).countP (· ≤ dayOfYear)

def dateOfDay (n : Nat) : Nat × Nat × Nat :=
  let year := yearOfDay n
  let dayOfYear := n - daysBeforeYear year
  let month := monthOfDay year dayOfYear
  (year, month, dayOfYear - monthStart year month + 1)

/-- Year, month and day of a day's number, which may lie before the year 1. -/
def civilDate (n : Int) : Int × Nat × Nat :=
  let (year, month, day) := dateOfDay (n.fmod cycle).toNat
  (year + 400 * n.fdiv cycle, month, day)

/-- The number of days from the first day of the year 1 to the first day of the year 10000. -/
def totalDays : Nat := 3652059

end Venues.Calendar
