/-! Bytes as text. Strict reading refuses any ill-formed sequence; lenient reading puts the
replacement character in place of each longest run that could have begun a character. Text is made
of Unicode scalar values, so the halves of surrogate pairs are not modelled as characters. -/
namespace RoomTransfer.Text.Utf8

def encodeChar (c : Char) : List UInt8 :=
  let n := c.toNat
  let tail (k : Nat) : UInt8 := UInt8.ofNat (0x80 + n / Nat.pow 64 k % 64)
  if n < 0x80 then [UInt8.ofNat n]
  else if n < 0x800 then [UInt8.ofNat (0xC0 + n / 64),tail 0]
  else if n < 0x10000 then [UInt8.ofNat (0xE0 + n / 4096),tail 1,tail 0]
  else [UInt8.ofNat (0xF0 + n / 262144),tail 2,tail 1,tail 0]

def encode (s : String) : List UInt8 := s.toList.flatMap encodeChar

/-- How many bytes follow a lead byte, and the bounds of the first of them. -/
def follow? (lead : Nat) : Option (Nat × Nat × Nat) :=
  if 0xC2 ≤ lead ∧ lead ≤ 0xDF then some (1,0x80,0xBF)
  else if lead = 0xE0 then some (2,0xA0,0xBF)
  else if lead = 0xED then some (2,0x80,0x9F)
  else if 0xE1 ≤ lead ∧ lead ≤ 0xEF then some (2,0x80,0xBF)
  else if lead = 0xF0 then some (3,0x90,0xBF)
  else if 0xF1 ≤ lead ∧ lead ≤ 0xF3 then some (3,0x80,0xBF)
  else if lead = 0xF4 then some (3,0x80,0x8F)
  else none

def leadBits (lead count : Nat) : Nat := lead % Nat.pow 2 (6 - count)

/-- Takes up to `count` following bytes, the first within its bounds; the number of missing
bytes is returned with the value so far. -/
def takeTail (value low high : Nat) : Nat → List UInt8 → Nat × Nat × List UInt8
  | 0,rest => (0,value,rest)
  | count + 1,[] => (count + 1,value,[])
  | count + 1,b :: rest =>
    if low ≤ b.toNat ∧ b.toNat ≤ high then
      takeTail (value * 64 + b.toNat % 64) 0x80 0xBF count rest
    else (count + 1,value,b :: rest)

def complete : Nat × Nat × List UInt8 → Option Char × List UInt8
  | (0,value,rest) => (some (Char.ofNat value),rest)
  | (_ + 1,_,rest) => (none,rest)

/-- Splits off one character, or one ill-formed run as `none`. -/
def next (b : UInt8) (rest : List UInt8) : Option Char × List UInt8 :=
  if b.toNat < 0x80 then (some (Char.ofNat b.toNat),rest)
  else match follow? b.toNat with
    | none => (none,rest)
    | some (count,low,high) => complete (takeTail (leadBits b.toNat count) low high count rest)

theorem takeTail_length (value low high count : Nat) (bs : List UInt8) :
    (takeTail value low high count bs).2.2.length ≤ bs.length := by
  fun_induction takeTail value low high count bs <;> simp_all
  omega

theorem complete_length (taken : Nat × Nat × List UInt8) :
    (complete taken).2.length = taken.2.2.length := by
  obtain ⟨missing,value,rest⟩ := taken
  cases missing <;> rfl

theorem next_length (b : UInt8) (rest : List UInt8) : (next b rest).2.length ≤ rest.length := by
  unfold next
  split
  · exact Nat.le_refl _
  · split
    · exact Nat.le_refl _
    · rw [complete_length]
      exact takeTail_length ..

def pieces : List UInt8 → List (Option Char)
  | [] => []
  | b :: rest => (next b rest).1 :: pieces (next b rest).2
  termination_by bs => bs.length
  decreasing_by
    have := next_length b rest
    simp only [List.length_cons]; omega

def decode? (bs : List UInt8) : Option String :=
  ((pieces bs).mapM id).map String.ofList

structure DecodeError where
  start : Nat
  run : List UInt8
  reason : String
  deriving DecidableEq

/-- The message of a decoding error: a single byte is shown, a longer run only placed. -/
def DecodeError.message (e : DecodeError) : String :=
  let number (n : Nat) := String.ofList (Nat.toDigits 10 n)
  let what := match e.run with
    | [b] => "byte 0x" ++ String.ofList (Nat.toDigits 16 b.toNat) ++ " in position " ++ number e.start
    | run => "bytes in position " ++ number e.start ++ "-" ++ number (e.start + run.length - 1)
  "'utf-8' codec can't decode " ++ what ++ ": " ++ e.reason

/-- A character that breaks off where the bytes end is reported as a remainder of its own. -/
def brokenOff (run : List UInt8) : DecodeError := ⟨0,run,"unexpected end of data"⟩

inductive Remainder where
  | complete
  /-- A character that breaks off at the very end. -/
  | begun (run : List UInt8)
  | illFormed (cause : DecodeError)

/-- The characters that bytes begin with, and what stands behind them; the first byte has the
number `position`. -/
def split (position : Nat) : List UInt8 → List Char × Remainder
  | [] => ([],.complete)
  | b :: rest =>
    let length := rest.length + 1 - (next b rest).2.length
    match (next b rest).1 with
    | some c =>
      let (cs,remainder) := split (position + length) (next b rest).2
      (c :: cs,remainder)
    | none =>
      let run := (b :: rest).take length
      if (follow? b.toNat).isNone then ([],.illFormed ⟨position,run,"invalid start byte"⟩)
      else if (next b rest).2.isEmpty then ([],.begun run)
      else ([],.illFormed ⟨position,run,"invalid continuation byte"⟩)
  termination_by bs => bs.length
  decreasing_by
    have := next_length b rest
    simp only [List.length_cons]; omega

def decodeLenient (bs : List UInt8) : String :=
  String.ofList ((pieces bs).map (·.getD '\uFFFD'))

end RoomTransfer.Text.Utf8
