import RoomTransfer.Calendar
import RoomTransfer.Number.Binary64

/-! Points in time with microseconds. A timestamp with an offset is an instant; one without is
naive, and the two kinds are in no order. -/
namespace RoomTransfer

/-- A date, the microseconds since its midnight, and the seconds that the clock is ahead of
universal time, if that is known. -/
structure Timestamp where
  date : Date
  micros : Nat
  offset : Option Int
  micros_lt : micros < 86400000000 := by decide
  deriving DecidableEq

namespace Timestamp

instance : Inhabited Timestamp := ⟨⟨Date.first,0,none,by decide⟩⟩

def first : Timestamp := ⟨Date.first,0,some 0,by decide⟩

def ofParts (date : Date) (hour minute second micro : Nat) (offset : Option Int) :
    Option Timestamp :=
  if h : hour < 24 ∧ minute < 60 ∧ second < 60 ∧ micro < 1000000 then
    some ⟨date,((hour * 60 + minute) * 60 + second) * 1000000 + micro,offset,by omega⟩
  else none

def hour (t : Timestamp) : Nat := t.micros / 3600000000
def minute (t : Timestamp) : Nat := t.micros / 60000000 % 60
def second (t : Timestamp) : Nat := t.micros / 1000000 % 60
def micro (t : Timestamp) : Nat := t.micros % 1000000

def wall (t : Timestamp) : Int := (t.date.dayNumber : Int) * 86400000000 + t.micros

/-- Microseconds of universal time since the calendar began, reading a naive clock as universal. -/
def instant (t : Timestamp) : Int := t.wall - t.offset.getD 0 * 1000000

/-- Whether two timestamps are in an order: both or neither have an offset. -/
def comparable (s t : Timestamp) : Bool := s.offset.isSome == t.offset.isSome

def compare? (s t : Timestamp) : Option Ordering :=
  if s.comparable t then some (compare s.instant t.instant) else none

def until? (s t : Timestamp) : Option Int :=
  if s.comparable t then some (t.instant - s.instant) else none

/-- The same moment of the day `years` years on. -/
def addYears (t : Timestamp) (years : Int) : Except DateError Timestamp :=
  (t.date.addYears years).map fun date => { t with date }

def offsetChars (offset : Int) : List Char :=
  let n := offset.natAbs
  (if offset < 0 then '-' else '+') :: Number.paddedDigits 2 (n / 3600) ++
    ':' :: Number.paddedDigits 2 (n / 60 % 60) ++
    (if n % 60 = 0 then [] else ':' :: Number.paddedDigits 2 (n % 60))

/-- Date and time of day around `separator`; the fraction only where there is one. -/
def chars (separator : Char) (t : Timestamp) : List Char :=
  t.date.chars ++ separator :: Number.paddedDigits 2 t.hour ++
    ':' :: Number.paddedDigits 2 t.minute ++ ':' :: Number.paddedDigits 2 t.second ++
    (if t.micro = 0 then [] else '.' :: Number.paddedDigits 6 t.micro) ++
    (match t.offset with
      | none => []
      | some offset => offsetChars offset)

def iso (t : Timestamp) : String := String.ofList (t.chars 'T')

def shown (t : Timestamp) : String := String.ofList (t.chars ' ')

def constructedZone (offset : Int) : String :=
  if offset = 0 then "datetime.timezone.utc"
  else
    let days := Int.fdiv offset 86400
    let seconds := Int.fmod offset 86400
    let dayPart := if days = 0 then [] else [s!"days={days}"]
    let secondPart := if seconds = 0 then [] else [s!"seconds={seconds}"]
    let parts := ", ".intercalate (dayPart ++ secondPart)
    s!"datetime.timezone(datetime.timedelta({parts}))"

/-- The timestamp as it appears when shown as a constructed value: seconds and microseconds are
left out where they and all that follows are zero. -/
def constructed (t : Timestamp) : String :=
  let d := t.date
  let fields := [d.year,d.month,d.day,t.hour,t.minute] ++
    (if t.micro ≠ 0 then [t.second,t.micro] else if t.second ≠ 0 then [t.second] else [])
  let zone := match t.offset with
    | none => ""
    | some offset => ", tzinfo=" ++ constructedZone offset
  let numbers := ", ".intercalate (fields.map fun n => String.ofList (Number.digits n))
  s!"datetime.datetime({numbers}{zone})"

def takeDigits : Nat → Nat → List Char → Option (Nat × List Char)
  | 0,value,rest => some (value,rest)
  | _ + 1,_,[] => none
  | count + 1,value,c :: rest =>
    if c.isDigit then takeDigits count (value * 10 + (c.toNat - '0'.toNat)) rest else none

def expect (c : Char) : List Char → Option (List Char)
  | [] => none
  | d :: rest => if c = d then some rest else none

/-- Reads a fraction of a second in microseconds; digits beyond the sixth are dropped. -/
def takeFraction (cs : List Char) : Nat × List Char :=
  let ds := cs.takeWhile Char.isDigit
  let six := (ds ++ List.replicate 6 '0').take 6
  (six.foldl (fun n c => n * 10 + (c.toNat - '0'.toNat)) 0,cs.dropWhile Char.isDigit)

def readOffset : List Char → Option (Option Int)
  | [] => some none
  | ['Z'] => some (some 0)
  | sign :: rest => do
    let (h,rest) ← takeDigits 2 0 rest
    let rest ← expect ':' rest
    let (m,rest) ← takeDigits 2 0 rest
    let s ← match rest with
      | [] => some 0
      | ':' :: rest => match takeDigits 2 0 rest with
        | some (s,[]) => some s
        | _ => none
      | _ => none
    let n : Int := (h * 60 + m) * 60 + s
    if sign = '+' then some (some n) else if sign = '-' then some (some (-n)) else none

def ofIso? (s : String) : Option Timestamp := do
  let (year,rest) ← takeDigits 4 0 s.toList
  let (month,rest) ← expect '-' rest >>= takeDigits 2 0
  let (day,rest) ← expect '-' rest >>= takeDigits 2 0
  let date ← (Date.of year month day).toOption
  let rest ← expect 'T' rest <|> expect ' ' rest
  let (h,rest) ← takeDigits 2 0 rest
  let (m,rest) ← expect ':' rest >>= takeDigits 2 0
  let (s,rest) ← expect ':' rest >>= takeDigits 2 0
  let (micro,rest) := match rest with
    | '.' :: rest => takeFraction rest
    | rest => (0,rest)
  let offset ← readOffset rest
  ofParts date h m s micro offset

end Timestamp

def secondsOfMicros (micros : Int) : Number.Binary64 :=
  .ofRatio (micros < 0) micros.natAbs 1000000

end RoomTransfer
