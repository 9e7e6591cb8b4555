import RoomTransfer.Number.Shortest

/-! Numerals of magnitudes: with a fixed count of decimals, with an exponent, or in the shorter of
these two forms. -/
namespace RoomTransfer.Number

namespace Binary64

def firstPosition (x : Binary64) : Int := (x.leading : Int) - 401

/-- A finite magnitude rounded to `n` digits, a tie going to the even one, and the position of the
first of them. -/
def significant (n : Nat) (x : Binary64) : List Char × Int :=
  if x.units = 0 then (List.replicate n '0',0)
  else
    let first := x.firstPosition
    let step := (n : Int) - 1 - first
    let rounded :=
      if 0 ≤ step then roundHalfEven (x.units * Nat.pow 10 step.toNat) scale
      else roundHalfEven x.units (scale * Nat.pow 10 step.natAbs)
    if rounded = Nat.pow 10 n then (digits (Nat.pow 10 (n - 1)),first + 1) else (digits rounded,first)

end Binary64

namespace Numeral

/-- Decimals behind a point; without any the point is left out, unless it `stays`. -/
def behindPoint (stays : Bool) (ds : List Char) : List Char :=
  if ds.isEmpty && !stays then [] else '.' :: ds

def fixed (places : Nat) (stays : Bool) (x : Binary64) : List Char :=
  let n := x.placesDigits places
  digits (n / Nat.pow 10 places) ++
    behindPoint stays (if places = 0 then [] else paddedDigits places (n % Nat.pow 10 places))

def withExponent (stays : Bool) (ds : List Char) (exponent : Int) : List Char :=
  ds.take 1 ++ behindPoint stays (ds.drop 1) ++
    'e' :: (if exponent < 0 then '-' else '+') :: paddedDigits 2 exponent.natAbs

def scientific (places : Nat) (stays : Bool) (x : Binary64) : List Char :=
  let (ds,exponent) := x.significant (places + 1)
  withExponent stays ds exponent

def trimmed (ds : List Char) : List Char :=
  ds.take 1 ++ ((ds.drop 1).reverse.dropWhile (· = '0')).reverse

/-- With `precision` digits, in the form with an exponent where the number is small or has more
digits before its point. Zeros at the end go, unless they `stay`; `fraction` asks for at least one
decimal in the other form. -/
def general (precision : Nat) (stay fraction : Bool) (x : Binary64) : List Char :=
  let precision := max precision 1
  let (ds,exponent) := x.significant precision
  let ds := if stay then ds else trimmed ds
  let limit : Int := if fraction then (precision : Int) - 1 else precision
  if exponent < -4 || limit ≤ exponent then withExponent stay ds exponent
  else if exponent < 0 then
    '0' :: '.' :: (List.replicate (exponent.natAbs - 1) '0' ++ ds)
  else
    let n := exponent.toNat + 1
    let decimals := ds.drop n
    ds.take n ++ List.replicate (n - ds.length) '0' ++
      behindPoint stay (if fraction && decimals.isEmpty && !stay then ['0'] else decimals)

/-- The shortest form that reads back; a point that `stays` is there even before an exponent. -/
def shortest (stays : Bool) (x : Binary64) : List Char :=
  let cs := x.magnitudeText Binary64.plain
  if stays && !cs.contains '.' then
    cs.takeWhile Char.isDigit ++ '.' :: cs.dropWhile Char.isDigit
  else cs

def ofNat (base least n : Nat) : List Char :=
  let ds := Nat.toDigits base n
  List.replicate (least - ds.length) '0' ++ ds

def raised (cs : List Char) : List Char := cs.map Char.toUpper

/-- How many of `width` places `n` grouped digits take. -/
def groupedLength (size n : Nat) : Nat := n + (n - 1) / size

def grouped (mark : Char) (size : Nat) (ds : List Char) : List Char :=
  let rec go : List Char → List Char
    | [] => []
    | d :: rest => if rest.length ≠ 0 ∧ rest.length % size = 0 then d :: mark :: go rest else d :: go rest
  go ds

end Numeral

end RoomTransfer.Number
