import RoomTransfer.Timestamp

/-! What a calendar and a clock show at a moment, in any year. The calendar repeats itself after
four hundred years, so every date is one of the years from 1 on, moved by such periods. -/
namespace RoomTransfer.Timestamp

structure Face where
  date : Date
  /-- How many times four hundred years the date is moved. -/
  periods : Int := 0
  /-- Seconds since midnight. -/
  seconds : Nat
  /-- The name of the zone, where one is known. Such a zone is universal time. -/
  zone : Option String := none

namespace Face

/-- The days of four hundred years, a whole number of weeks. -/
def periodDays : Nat := 146097

def ofTimestamp (t : Timestamp) : Face := { date := t.date, seconds := t.micros / 1000000 }

/-- What the clock of universal time shows so many seconds after the start of 1970. -/
def ofEpoch (seconds : Int) : Face :=
  let day := 719162 + seconds / 86400
  { date := (Date.ofDayNumber? (day % periodDays).toNat).getD default
    periods := day / periodDays
    seconds := (seconds % 86400).toNat
    zone := some "UTC" }

def year (f : Face) : Int := f.date.year + 400 * f.periods

def hour (f : Face) : Nat := f.seconds / 3600
def minute (f : Face) : Nat := f.seconds / 60 % 60
def second (f : Face) : Nat := f.seconds % 60

def epoch (f : Face) : Int :=
  ((f.date.dayNumber : Int) + periodDays * f.periods - 719162) * 86400 + f.seconds

def hourOfHalf (f : Face) : Nat := (f.hour + 11) % 12 + 1

/-- The number of the week in the year where weeks start on a day `shift` days before Monday. -/
def weekFrom (shift : Nat) (f : Face) : Nat :=
  (f.date.dayOfYear - 1 + 7 - (f.date.weekday + shift) % 7) / 7

/-- The year and the week of the calendar that counts weeks: a week belongs to the year of its
Thursday. -/
def week (f : Face) : Int × Nat :=
  let thursday : Int := (f.date.dayOfYear : Int) + 3 - f.date.weekday
  if thursday < 1 then
    (f.year - 1,((thursday + daysInYear (f.date.year - 1)).toNat + 6) / 7)
  else if (daysInYear f.date.year : Int) < thursday then (f.year + 1,1)
  else (f.year,(thursday.toNat + 6) / 7)

end Face

/-- The moment so many seconds after the start of 1970, in universal time, if the calendar of
timestamps reaches it. -/
def ofEpoch? (seconds : Int) : Option Timestamp := do
  let f := Face.ofEpoch seconds
  let date ← (Date.of f.year f.date.month f.date.day).toOption
  ofParts date f.hour f.minute f.second 0 (some 0)

end RoomTransfer.Timestamp
