import RoomTransfer.Number.Rounding

/-! Decimal digits of all scripts and the blanks that may stand around a number. -/
namespace RoomTransfer.Text

/-- The zeros of the decimal digit runs; each run counts ten code points up from its zero. -/
def zeroDigits : List Nat := [
  0x30,0x660,0x6F0,0x7C0,0x966,0x9E6,0xA66,0xAE6,0xB66,0xBE6,0xC66,0xCE6,0xD66,
  0xDE6,0xE50,0xED0,0xF20,0x1040,0x1090,0x17E0,0x1810,0x1946,0x19D0,0x1A80,0x1A90,
  0x1B50,0x1BB0,0x1C40,0x1C50,0xA620,0xA8D0,0xA900,0xA9D0,0xA9F0,0xAA50,0xABF0,
  0xFF10,0x104A0,0x10D30,0x11066,0x110F0,0x11136,0x111D0,0x112F0,0x11450,0x114D0,
  0x11650,0x116C0,0x11730,0x118E0,0x11950,0x11C50,0x11D50,0x11DA0,0x16A60,0x16AC0,
  0x16B50,0x1D7CE,0x1D7D8,0x1D7E2,0x1D7EC,0x1D7F6,0x1E140,0x1E2F0,0x1E950,0x1FBF0]

def digitValue? (c : Char) : Option Nat :=
  (zeroDigits.find? fun first => first ≤ c.toNat && c.toNat < first + 10).map (c.toNat - ·)

def isNumberBlank (c : Char) : Bool :=
  let n := c.toNat
  n = 0x20 || (0x09 ≤ n && n ≤ 0x0D) || n = 0x85 || n = 0xA0 || n = 0x1680 ||
    (0x2000 ≤ n && n ≤ 0x200A) || n = 0x2028 || n = 0x2029 || n = 0x202F || n = 0x205F || n = 0x3000

def trimBlanks (cs : List Char) : List Char :=
  ((cs.dropWhile isNumberBlank).reverse.dropWhile isNumberBlank).reverse

/-- Reads digits in which single underscores may stand between two digits. -/
def readDigits (value : Nat) : List Char → Option Nat
  | [] => some value
  | '_' :: c :: rest => match digitValue? c with
    | some d => readDigits (value * 10 + d) rest
    | none => none
  | c :: rest => match digitValue? c with
    | some d => readDigits (value * 10 + d) rest
    | none => none

def integer? (s : String) : Option Int :=
  let unsigned : List Char → Option Nat
    | [] => none
    | '_' :: _ => none
    | cs =>
      if Number.mostDigits < cs.countP (fun c => (digitValue? c).isSome) then none
      else readDigits 0 cs
  match trimBlanks s.toList with
  | '-' :: cs => (unsigned cs).map fun n => -(n : Int)
  | '+' :: cs => (unsigned cs).map fun n => (n : Int)
  | cs => (unsigned cs).map fun n => (n : Int)

end RoomTransfer.Text
