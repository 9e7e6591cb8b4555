import RoomTransfer.Number.Binary64

/-! Shortest decimals: the fewest digits that read back to a double, found by trying the
two neighbours of the number on ever finer decimal grids. All quantities are naturals in the
unit `10 ^ -400 * 2 ^ -1076`, on which every bound and every candidate is whole. -/
namespace RoomTransfer.Number

structure Decimal where
  digits : Nat
  exponent : Int
  deriving DecidableEq, Inhabited

namespace Binary64

/-- `10 ^ 400`, larger than the inverse of any positive double. -/
def fine : Nat := Nat.pow 10 400

/-- Twice the distance to the lower end of the numbers that round to `x`, halved where the
neighbour below is nearer. -/
def gapBelow (x : Binary64) : Nat :=
  if x.fractionField = 0 ∧ 1 < x.exponentField then 1 else 2

/-- Whether `d * 10 ^ (e - 400)` rounds to the magnitude of `x`: both ends belong to it exactly
when the significand is even. -/
def readsBack (x : Binary64) (d e : Nat) : Bool :=
  let here := d * Nat.pow 10 e * Nat.pow 2 1076
  let low := (4 * x.units - x.gapBelow * Nat.pow 2 x.shift) * fine
  let high := (4 * x.units + 2 * Nat.pow 2 x.shift) * fine
  if x.significand % 2 = 0 then low ≤ here && here ≤ high else low < here && here < high

def strip : Nat → Decimal → Decimal
  | 0,d => d
  | fuel + 1,d =>
    if d.digits ≠ 0 ∧ d.digits % 10 = 0 then strip fuel ⟨d.digits / 10,d.exponent + 1⟩ else d

/-- The candidates of one grid: the neighbours of the magnitude that read back, nearer first,
an exact tie going to the even digit. -/
def candidate? (x : Binary64) (e : Nat) : Option Nat :=
  let grid := Nat.pow 10 e * scale
  let magnitude := x.units * fine
  let low := magnitude / grid
  let nearer := roundHalfEven magnitude grid
  let farther := if nearer = low then low + 1 else low
  if x.readsBack nearer e then some nearer
  else if x.readsBack farther e then some farther
  else none

def search (x : Binary64) : Nat → Nat → Option Decimal
  | 0,_ => none
  | fuel + 1,e =>
    match x.candidate? e with
    | some d => some ⟨d,(e : Int) - 400⟩
    | none => search x fuel (e - 1)

def leading (x : Binary64) : Nat := decimalLength (x.units * fine / scale)

/-- The fewest digits that read back to a finite magnitude, the nearest of them if several do.
Seventeen digits always suffice; the exact value stands behind the search all the same. -/
def shortest (x : Binary64) : Decimal :=
  if x.units = 0 then ⟨0,0⟩
  else strip 400 ((x.search 17 (x.leading - 1)).getD ⟨x.units * Nat.pow 5 1074,-1074⟩)

structure Layout where
  /-- The greatest position of the decimal point behind the first digit that is still written
  positionally. -/
  positionalBelow : Int
  /-- The least such position. -/
  positionalFrom : Int
  infinite : String
  notNumber : String

/-- Numbers are written positionally from `10 ^ -4` up to `10 ^ 16`, otherwise with a signed
exponent of at least two digits. -/
def plain : Layout := ⟨16,-3,"inf","nan"⟩

def structured : Layout := ⟨16,-3,"Infinity","NaN"⟩

def positional (ds : List Char) (point : Int) : List Char :=
  if point ≤ 0 then '0' :: '.' :: (List.replicate point.natAbs '0' ++ ds)
  else
    let n := point.toNat
    if ds.length ≤ n then ds ++ List.replicate (n - ds.length) '0' ++ ['.','0']
    else ds.take n ++ '.' :: ds.drop n

def exponential (ds : List Char) (exponent : Int) : List Char :=
  let mantissa := match ds with
    | [] => []
    | [d] => [d]
    | d :: rest => d :: '.' :: rest
  mantissa ++ 'e' :: (if exponent < 0 then '-' else '+') :: paddedDigits 2 exponent.natAbs

def magnitudeText (layout : Layout) (x : Binary64) : List Char :=
  let d := x.shortest
  let ds := digits d.digits
  let point := (ds.length : Int) + d.exponent
  if d.digits = 0 then ['0','.','0']
  else if layout.positionalFrom ≤ point ∧ point ≤ layout.positionalBelow then positional ds point
  else exponential ds (point - 1)

def text (layout : Layout) (x : Binary64) : List Char :=
  if x.isNaN then layout.notNumber.toList
  else
    let magnitude := if x.isInfinite then layout.infinite.toList else magnitudeText layout x
    if x.negative then '-' :: magnitude else magnitude

/-- The integer nearest to the shortest decimal of a finite number, a tie going away from zero. -/
def roundAway (x : Binary64) : Int :=
  let d := x.shortest
  let magnitude :=
    if 0 ≤ d.exponent then d.digits * Nat.pow 10 d.exponent.toNat
    else roundHalfUp d.digits (Nat.pow 10 d.exponent.natAbs)
  if x.negative then -(magnitude : Int) else magnitude

/-- The digits of a finite magnitude rounded to `places` decimals, a tie going to the even one. -/
def placesDigits (x : Binary64) (places : Nat) : Nat :=
  roundHalfEven (x.units * Nat.pow 10 places) scale

def fixed (places : Nat) (x : Binary64) : List Char :=
  if x.isFinite then
    let n := x.placesDigits places
    let body := digits (n / Nat.pow 10 places) ++ '.' :: paddedDigits places (n % Nat.pow 10 places)
    if x.negative then '-' :: body else body
  else text plain x

def roundPlaces (places : Nat) (x : Binary64) : Binary64 :=
  if x.isFinite then ofRatio x.negative (x.placesDigits places) (Nat.pow 10 places) else x

end Binary64

end RoomTransfer.Number
