import RoomTransfer.Failure
import RoomTransfer.Number.Numeral

/-! Shapes: how a value is laid out in a field of a template. -/
namespace RoomTransfer.Log

structure Shape where
  fill : Char := ' '
  /-- Whether a zero that is left of a negative number by rounding loses its sign. -/
  dropSign : Bool := false
  /-- One of `<`, `>`, `^` and `=`; the last fills behind the sign of a number. -/
  align : Option Char := none
  /-- What stands before a number that is not negative. -/
  sign : Option Char := none
  /-- Whether the base of a number is shown, and its point kept. -/
  full : Bool := false
  width : Nat := 0
  /-- What stands between groups of digits. -/
  group : Option Char := none
  precision : Option Nat := none
  letter : Option Char := none

namespace Shape

/-- No memory holds a wider field. -/
def widest : Nat := 0x1000000000

def layText (shape : Shape) (cs : List Char) : List Char :=
  let cs := match shape.precision with
    | some n => cs.take n
    | none => cs
  let missing := shape.width - cs.length
  let filled := List.replicate missing shape.fill
  match shape.align.getD '<' with
  | '>' => filled ++ cs
  | '^' => List.replicate (missing / 2) shape.fill ++ cs ++
      List.replicate (missing - missing / 2) shape.fill
  | _ => cs ++ filled

def signOf (shape : Shape) (negative : Bool) : List Char :=
  if negative then ['-'] else match shape.sign with
    | some '-' | none => []
    | some c => [c]

/-- How many digits, at least `n`, fill `width` places together with their groups' marks. -/
def fillingDigits (size width n : Nat) : Nat :=
  let fills (m : Nat) : Bool := n ≤ m && width ≤ Number.Numeral.groupedLength size m
  ((List.range (width + 1)).find? fills).getD n

def groupDigits (shape : Shape) (size width : Nat) (ds : List Char) : List Char :=
  match shape.group with
  | none => ds
  | some mark =>
    let zeros :=
      if !ds.isEmpty && shape.fill = '0' && shape.align = some '=' then
        fillingDigits size width ds.length - ds.length
      else 0
    Number.Numeral.grouped mark size (List.replicate zeros '0' ++ ds)

/-- Digits in groups of `size` and what follows them, behind a sign and the mark of their base,
filled up to the width, by default before the sign. -/
def layNumber (shape : Shape) (sign mark : List Char) (size : Nat) (ds rest : List Char) :
    List Char :=
  let before := sign ++ mark
  let body := shape.groupDigits size (shape.width - (before.length + rest.length)) ds ++ rest
  let missing := shape.width - (before.length + body.length)
  let filled := List.replicate missing shape.fill
  match shape.align.getD '>' with
  | '<' => before ++ body ++ filled
  | '^' => List.replicate (missing / 2) shape.fill ++ before ++ body ++
      List.replicate (missing - missing / 2) shape.fill
  | '=' => before ++ filled ++ body
  | _ => filled ++ before ++ body

def layInteger (shape : Shape) (base size : Nat) (mark : List Char) (i : Int) : List Char :=
  let ds := Number.Numeral.ofNat base (shape.precision.getD 0) i.natAbs
  let raise := shape.letter = some 'X'
  shape.layNumber (shape.signOf (i < 0)) (if shape.full then mark else []) size
    (if raise then Number.Numeral.raised ds else ds) []

/-- The numeral of a magnitude by a letter: `f` for fixed, `e` for scientific and `g` for the
shorter form. -/
def numeral (shape : Shape) (letter : Char) (x : Number.Binary64) : List Char :=
  let places := shape.precision.getD 6
  match letter with
  | 'f' => Number.Numeral.fixed places shape.full x
  | 'e' => Number.Numeral.scientific places shape.full x
  | _ => Number.Numeral.general places shape.full false x

def layDouble (shape : Shape) (write : Number.Binary64 → List Char) (tail : List Char)
    (x : Number.Binary64) : List Char :=
  let cs :=
    if x.isNaN then "nan".toList
    else if x.isInfinite then "inf".toList
    else write x
  let raise := shape.letter.any Char.isUpper
  let cs := if raise then Number.Numeral.raised cs else cs
  let vanished := x.isFinite && (cs.takeWhile fun c => c ≠ 'e' && c ≠ 'E').all fun c => c = '0' || c = '.'
  shape.layNumber (shape.signOf (x.negative && !x.isNaN && !(shape.dropSign && vanished))) [] 3
    (cs.takeWhile Char.isDigit) (cs.dropWhile Char.isDigit ++ tail)

end Shape

end RoomTransfer.Log
