import RoomTransfer.Number.Rounding

/-! The proleptic Gregorian calendar for the years 1 to 9999: valid dates, their day numbers
and shifts by whole years. Every date carries the proof that it exists. -/
namespace RoomTransfer

/-- A year has a leap day when four divides it, unless a hundred does and four hundred does not. -/
def isLeapYear (year : Nat) : Bool :=
  year % 4 = 0 && (year % 100 ≠ 0 || year % 400 = 0)

def daysInMonth (year month : Nat) : Nat :=
  if month = 2 then if isLeapYear year then 29 else 28
  else if month = 4 ∨ month = 6 ∨ month = 9 ∨ month = 11 then 30
  else 31

def daysInYear (year : Nat) : Nat := if isLeapYear year then 366 else 365

inductive DateError where
  | year (given : Int)
  | month
  | day
  deriving DecidableEq, Repr

def DateError.message : DateError → String
  | .year y => s!"year {y} is out of range"
  | .month => "month must be in 1..12"
  | .day => "day is out of range for month"

structure Date where
  year : Nat
  month : Nat
  day : Nat
  year_mem : 1 ≤ year ∧ year ≤ 9999
  month_mem : 1 ≤ month ∧ month ≤ 12
  day_mem : 1 ≤ day ∧ day ≤ daysInMonth year month
  deriving DecidableEq

namespace Date

/-- The date with the given numbers, checked from the year down. -/
def of (year : Int) (month day : Nat) : Except DateError Date :=
  if hy : 1 ≤ year ∧ year ≤ 9999 then
    if hm : 1 ≤ month ∧ month ≤ 12 then
      if hd : 1 ≤ day ∧ day ≤ daysInMonth year.toNat month then
        .ok ⟨year.toNat,month,day,by omega,hm,hd⟩
      else .error .day
    else .error .month
  else .error (.year year)

def first : Date := ⟨1,1,1,by decide,by decide,by decide⟩

instance : Inhabited Date := ⟨first⟩

def daysBeforeYear (year : Nat) : Nat :=
  365 * (year - 1) + (year - 1) / 4 - (year - 1) / 100 + (year - 1) / 400

/-- Days of `year` before the first day of the month that `months` months precede. -/
def daysBeforeMonth (year : Nat) : Nat → Nat
  | 0 => 0
  | months + 1 => daysBeforeMonth year months + daysInMonth year (months + 1)

def dayNumber (d : Date) : Nat :=
  daysBeforeYear d.year + daysBeforeMonth d.year (d.month - 1) + (d.day - 1)

/-- The month and day of the day with number `n` in `year`, looked for from month `month` on. -/
def monthDay (year : Nat) : Nat → Nat → Nat → Nat × Nat
  | 0,month,n => (month,n + 1)
  | fuel + 1,month,n =>
    if n < daysInMonth year month then (month,n + 1)
    else monthDay year fuel (month + 1) (n - daysInMonth year month)

/-- The year that the day with number `n` lies in, looked for downwards from `year`. -/
def yearOf (n : Nat) : Nat → Nat → Nat
  | 0,year => year
  | fuel + 1,year => if daysBeforeYear year ≤ n then year else yearOf n fuel (year - 1)

def ofDayNumber? (n : Nat) : Option Date :=
  let year := yearOf n 3 (n / 365 + 1)
  let year := yearOf n 30 year
  let (month,day) := monthDay year 11 1 (n - daysBeforeYear year)
  (of year month day).toOption

/-- The same day `years` years on; the leap day lands on the day before where the year has none. -/
def addYears (d : Date) (years : Int) : Except DateError Date :=
  match of (d.year + years) d.month d.day with
  | .error .day => of (d.year + years) d.month 28
  | result => result

def chars (d : Date) : List Char :=
  Number.paddedDigits 4 d.year ++ '-' :: Number.paddedDigits 2 d.month ++
    '-' :: Number.paddedDigits 2 d.day

def constructed (d : Date) : String := s!"datetime.date({d.year}, {d.month}, {d.day})"

/-- Monday is 0. -/
def weekday (d : Date) : Nat := d.dayNumber % 7

/-- The number of the day within its year, from 1. -/
def dayOfYear (d : Date) : Nat := daysBeforeMonth d.year (d.month - 1) + d.day

end Date

end RoomTransfer
