/-! Exact rounding of quotients of natural numbers, and integers as decimal text. Each rule of
rounding names where a tie goes; nothing is ever computed in floating point. -/
namespace RoomTransfer.Number

/-- The nearest integer to `num / den`; a tie goes to the even neighbour. -/
def roundHalfEven (num den : Nat) : Nat :=
  let q := num / den
  let r := num % den
  if 2 * r < den then q
  else if den < 2 * r then q + 1
  else if q % 2 = 0 then q else q + 1

/-- The nearest integer to `num / den`; a tie goes up. -/
def roundHalfUp (num den : Nat) : Nat :=
  (2 * num + den) / (2 * den)

theorem roundHalfEven_le (num den : Nat) : roundHalfEven num den ≤ num / den + 1 := by
  unfold roundHalfEven
  simp only
  split
  · omega
  · split
    · omega
    · split <;> omega

theorem div_le_roundHalfEven (num den : Nat) : num / den ≤ roundHalfEven num den := by
  unfold roundHalfEven
  simp only
  split
  · omega
  · split
    · omega
    · split <;> omega

def decimalLength (n : Nat) : Nat := (Nat.toDigits 10 n).length

/-- The decimal digits of `n`, most significant first. -/
def digits (n : Nat) : List Char := Nat.toDigits 10 n

def paddedDigits (width n : Nat) : List Char :=
  List.replicate (width - (digits n).length) '0' ++ digits n

def integerText (i : Int) : List Char :=
  if i < 0 then '-' :: digits i.natAbs else digits i.natAbs

/-- The most digits that a decimal integer may have. Longer ones are neither read nor written,
whatever their value: leading zeros count when reading. -/
def mostDigits : Nat := 4300

def isTooLong (i : Int) : Bool := Nat.pow 10 mostDigits ≤ i.natAbs

def limitMessage (found : String) : String :=
  "Exceeds the limit (" ++ String.ofList (digits mostDigits) ++
    " digits) for integer string conversion" ++ found ++
    "; use sys.set_int_max_str_digits() to increase the limit"

def readTooLong (count : Nat) : String :=
  limitMessage (": value has " ++ String.ofList (digits count) ++ " digits")

def writeTooLong : String := limitMessage ""

end RoomTransfer.Number
