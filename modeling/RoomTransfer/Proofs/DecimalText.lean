import Mathlib.Data.Rat.Floor
import Mathlib.Tactic.FieldSimp
import Mathlib.Tactic.Linarith
import RoomTransfer.Number.Shortest

/-! What a number is worth by the text that it is written with, and the integer that is nearest to
that. The reader here knows nothing of how the text is laid out: digits, perhaps some behind a
point, and perhaps a power of ten. -/
namespace RoomTransfer.Number

section Reading

/-- A natural number that takes up a whole text. -/
def writtenNatural? (ds : List Char) : Option Nat :=
  if ds ≠ [] ∧ ds.all Char.isDigit then some (Nat.ofDigitChars 10 ds 0) else none

/-- The power of ten to the end of a text; it always tells its sign. -/
def writtenExponent? : List Char → Option Int
  | [] => some 0
  | 'e' :: '+' :: ds => (writtenNatural? ds).map fun n => (n : Int)
  | 'e' :: '-' :: ds => (writtenNatural? ds).map fun n => -(n : Int)
  | _ => none

/-- The digits behind a point, and what follows them. -/
def writtenFraction : List Char → List Char × List Char
  | '.' :: rest => (rest.takeWhile Char.isDigit,rest.dropWhile Char.isDigit)
  | rest => ([],rest)

/-- What a text without a sign is worth. -/
def writtenMagnitude? (cs : List Char) : Option ℚ :=
  let whole := cs.takeWhile Char.isDigit
  let (fraction,rest) := writtenFraction (cs.dropWhile Char.isDigit)
  if whole = [] then none
  else (writtenExponent? rest).map fun e : Int =>
    Nat.ofDigitChars 10 (whole ++ fraction) 0 * (10 : ℚ) ^ (e - fraction.length)

/-- What a text is worth. -/
def written? : List Char → Option ℚ
  | '-' :: rest => (writtenMagnitude? rest).map fun q => -q
  | cs => writtenMagnitude? cs

end Reading

section Digits

variable {ds rest : List Char}

/-- Digits only. -/
def AllDigits (ds : List Char) : Prop := ∀ c ∈ ds, c.isDigit = true

theorem AllDigits.append {front : List Char} (first : AllDigits front) (second : AllDigits ds) :
    AllDigits (front ++ ds) := fun c member =>
  (List.mem_append.mp member).elim (first c) (second c)

theorem allDigits_zeros (n : Nat) : AllDigits (List.replicate n '0') := fun c member => by
  rw [List.eq_of_mem_replicate member]
  rfl

theorem allDigits_digits (n : Nat) : AllDigits (digits n) := fun _ member =>
  Nat.isDigit_of_mem_toDigits (by decide) (by decide) member

theorem AllDigits.takeWhile (all : AllDigits ds) (stop : rest.takeWhile Char.isDigit = []) :
    (ds ++ rest).takeWhile Char.isDigit = ds := by
  rw [List.takeWhile_append_of_pos all,stop,List.append_nil]

theorem AllDigits.dropWhile (all : AllDigits ds) (stop : rest.takeWhile Char.isDigit = []) :
    (ds ++ rest).dropWhile Char.isDigit = rest := by
  have parts := List.takeWhile_append_dropWhile (p := Char.isDigit) (l := rest)
  rw [stop,List.nil_append] at parts
  rw [List.dropWhile_append_of_pos all,parts]

theorem ofDigitChars_digits (n : Nat) : Nat.ofDigitChars 10 (digits n) 0 = n :=
  Nat.ofDigitChars_toDigits (by decide) (by decide)

theorem ofDigitChars_zeros_append (n : Nat) (ds : List Char) :
    Nat.ofDigitChars 10 (List.replicate n '0' ++ ds) 0 = Nat.ofDigitChars 10 ds 0 := by
  rw [Nat.ofDigitChars_append,Nat.ofDigitChars_replicate_zero,Nat.mul_zero]

theorem writtenMagnitude?_whole (all : AllDigits ds) (first : ds ≠ [])
    (stop : rest.takeWhile Char.isDigit = []) (pointless : writtenFraction rest = ([],rest)) :
    writtenMagnitude? (ds ++ rest) = (writtenExponent? rest).map fun e : Int =>
      Nat.ofDigitChars 10 ds 0 * (10 : ℚ) ^ e := by
  simp only [writtenMagnitude?,all.takeWhile stop,all.dropWhile stop,pointless,first,if_false,
    List.append_nil,List.length_nil,Nat.cast_zero,sub_zero]

theorem writtenMagnitude?_point (ds fraction rest : List Char) (all : AllDigits ds) (first : ds ≠ [])
    (behind : AllDigits fraction) (stop : rest.takeWhile Char.isDigit = []) :
    writtenMagnitude? (ds ++ '.' :: (fraction ++ rest)) = (writtenExponent? rest).map fun e : Int =>
      Nat.ofDigitChars 10 (ds ++ fraction) 0 * (10 : ℚ) ^ (e - fraction.length) := by
  have point (more : List Char) : ('.' :: more).takeWhile Char.isDigit = [] := rfl
  simp only [writtenMagnitude?,all.takeWhile (point _),all.dropWhile (point _),writtenFraction,
    behind.takeWhile stop,behind.dropWhile stop,first,if_false]

/-- A sign is no digit. -/
theorem written?_of_magnitude {cs : List Char} {q : ℚ} (unsigned : writtenMagnitude? cs = some q) :
    written? cs = some q := by
  unfold written?
  split
  · cases unsigned
  · exact unsigned

theorem writtenNatural?_padded (width n : Nat) : writtenNatural? (paddedDigits width n) = some n := by
  have all : AllDigits (paddedDigits width n) := (allDigits_zeros _).append (allDigits_digits n)
  have first : paddedDigits width n ≠ [] := by simp [paddedDigits,digits]
  rw [writtenNatural?,if_pos ⟨first,List.all_eq_true.mpr all⟩,paddedDigits,
    ofDigitChars_zeros_append,ofDigitChars_digits]

theorem paddedDigits_inj {width n m : Nat} (same : paddedDigits width n = paddedDigits width m) :
    n = m := by
  have read := congrArg writtenNatural? same
  rw [writtenNatural?_padded,writtenNatural?_padded] at read
  exact Option.some.inj read

theorem length_paddedDigits {width n : Nat} (bound : n < 10 ^ (width + 1)) :
    (paddedDigits (width + 1) n).length = width + 1 := by
  have short := (Nat.length_toDigits_le_iff (b := 10) (by decide) (by omega)).mpr bound
  simp only [paddedDigits,digits,List.length_append,List.length_replicate]
  omega

/-- The number of digits tells between which powers of ten a number lies. -/
theorem digits_bounds {n : Nat} (some : n ≠ 0) :
    10 ^ ((digits n).length - 1) ≤ n ∧ n < 10 ^ (digits n).length := by
  have first : 0 < (digits n).length := Nat.length_toDigits_pos
  constructor
  · by_cases one : (digits n).length = 1
    · rw [one]
      simpa using Nat.one_le_iff_ne_zero.mpr some
    · have long := mt (Nat.length_toDigits_le_iff (n := n) (b := 10) (by decide)
        (by omega : 0 < (digits n).length - 1)).mpr (by unfold digits at *; omega)
      exact Nat.not_lt.mp long
  · exact (Nat.length_toDigits_le_iff (by decide) first).mp (Nat.le_refl _)

end Digits

/-- The value of a decimal. -/
def Decimal.value (d : Decimal) : ℚ := d.digits * (10 : ℚ) ^ d.exponent

namespace Binary64

section Layouts

variable {ds : List Char}

theorem written_positional (all : AllDigits ds) (first : ds ≠ []) (point : Int) :
    writtenMagnitude? (positional ds point) =
      some (Nat.ofDigitChars 10 ds 0 * (10 : ℚ) ^ (point - ds.length)) := by
  unfold positional
  -- The point stands in front of all digits, behind them, or among them.
  by_cases small : point ≤ 0
  · have text := writtenMagnitude?_point ['0'] _ [] (allDigits_zeros 1) (by simp)
      ((allDigits_zeros point.natAbs).append all) rfl
    have zeros := ofDigitChars_zeros_append (point.natAbs + 1) ds
    rw [List.append_nil] at text
    rw [if_pos small]
    refine text.trans ?_
    rw [← List.append_assoc,List.singleton_append,← List.replicate_succ,zeros]
    simp only [writtenExponent?,Option.map_some,List.length_append,List.length_replicate]
    congr 3
    omega
  · rw [if_neg small]
    obtain ⟨n,rfl⟩ : ∃ n : Nat, point = n := ⟨point.toNat,by omega⟩
    simp only [Int.toNat_natCast]
    by_cases whole : ds.length ≤ n
    · obtain ⟨k,rfl⟩ : ∃ k, n = ds.length + k := ⟨n - ds.length,by omega⟩
      have text := writtenMagnitude?_point _ ['0'] []
        (all.append (allDigits_zeros k)) (by simp [first]) (allDigits_zeros 1) rfl
      rw [if_pos whole,Nat.add_sub_cancel_left]
      refine text.trans ?_
      rw [List.append_assoc,show List.replicate k '0' ++ ['0'] = List.replicate (k + 1) '0' from
        List.replicate_succ'.symm,Nat.ofDigitChars_append,Nat.ofDigitChars_replicate_zero]
      have place : ((ds.length + k : Nat) : Int) - ds.length = k := by omega
      rw [place,zpow_natCast]
      simp [writtenExponent?,pow_succ]
      field_simp
    · have text := writtenMagnitude?_point (ds.take n) (ds.drop n) []
        (fun c member => all c (List.mem_of_mem_take member)) (by simp [first]; omega)
        (fun c member => all c (List.mem_of_mem_drop member)) rfl
      rw [List.append_nil] at text
      rw [if_neg whole]
      refine text.trans ?_
      rw [List.take_append_drop]
      simp only [writtenExponent?,Option.map_some,List.length_drop]
      congr 3
      omega

theorem writtenExponent?_signed (exponent : Int) :
    writtenExponent? ('e' :: (if exponent < 0 then '-' else '+') :: paddedDigits 2 exponent.natAbs) =
      some exponent := by
  by_cases negative : exponent < 0
  · have same : -(exponent.natAbs : Int) = exponent := by omega
    simp only [negative,if_true,writtenExponent?,writtenNatural?_padded]
    exact congrArg some same
  · have same : (exponent.natAbs : Int) = exponent := by omega
    simp only [negative,if_false,writtenExponent?,writtenNatural?_padded]
    exact congrArg some same

theorem written_exponential (all : AllDigits ds) (first : ds ≠ []) (exponent : Int) :
    writtenMagnitude? (exponential ds exponent) =
      some (Nat.ofDigitChars 10 ds 0 * (10 : ℚ) ^ (exponent + 1 - ds.length)) := by
  have power := writtenExponent?_signed exponent
  unfold exponential
  match ds with
  | [] => exact absurd rfl first
  | [d] =>
    refine (writtenMagnitude?_whole all first rfl rfl).trans ?_
    rw [power]
    simp
  | d :: c :: more =>
    have front : AllDigits [d] := fun x member => all x (by simp_all)
    have behind : AllDigits (c :: more) := fun x member => all x (List.mem_cons_of_mem _ member)
    refine (writtenMagnitude?_point _ _ _ front (by simp) behind rfl).trans ?_
    rw [power,Option.map_some,List.singleton_append]
    congr 3
    simp only [List.length_cons]
    omega

end Layouts

/-- What a finite number is worth by its shortest decimal. -/
def worth (x : Binary64) : ℚ := if x.negative then -x.shortest.value else x.shortest.value

theorem written_magnitudeText (layout : Layout) (x : Binary64) :
    writtenMagnitude? (x.magnitudeText layout) = some x.shortest.value := by
  have all := allDigits_digits x.shortest.digits
  have first : digits x.shortest.digits ≠ [] := by simp [digits]
  unfold magnitudeText
  dsimp only
  by_cases zero : x.shortest.digits = 0
  · have text : writtenMagnitude? (positional ['0'] 0) = _ :=
      written_positional (allDigits_zeros 1) (by simp) 0
    rw [if_pos zero]
    exact text.trans (by simp [Decimal.value,zero,Nat.ofDigitChars])
  · rw [if_neg zero]
    split
    · rw [written_positional all first,ofDigitChars_digits]
      simp [Decimal.value]
    · rw [written_exponential all first,ofDigitChars_digits]
      simp [Decimal.value]

theorem text_finite (layout : Layout) {x : Binary64} (finite : x.isFinite = true) : x.text layout =
    if x.negative then '-' :: x.magnitudeText layout else x.magnitudeText layout := by
  have small : x.exponentField < 2047 := of_decide_eq_true finite
  have number : x.isNaN = false := by simp [isNaN,small.ne]
  have bounded : x.isInfinite = false := by simp [isInfinite,small.ne]
  simp only [text,number,bounded,Bool.false_eq_true,if_false]

/-- The text of a finite number, in any layout, is worth its shortest decimal. -/
theorem written_text (layout : Layout) {x : Binary64} (finite : x.isFinite = true) :
    written? (x.text layout) = some x.worth := by
  have magnitude := written_magnitudeText layout x
  rw [text_finite layout finite,worth]
  cases x.negative with
  | true => simp [written?,magnitude]
  | false => exact written?_of_magnitude magnitude

end Binary64

/-- The nearest integer, a half away from zero. -/
def halfAway (q : ℚ) : Int := if q < 0 then ⌈q - 1 / 2⌉ else ⌊q + 1 / 2⌋

section Rounding

variable {q r : ℚ}

theorem halfAway_mono (ordered : q ≤ r) : halfAway q ≤ halfAway r := by
  unfold halfAway
  by_cases below : r < 0
  · rw [if_pos (lt_of_le_of_lt ordered below),if_pos below]
    exact Int.ceil_le_ceil (by linarith)
  · rw [if_neg below]
    by_cases crossed : q < 0
    · have under : ⌈q - 1 / 2⌉ ≤ 0 := Int.ceil_le.mpr (by push_cast; linarith)
      have above : 0 ≤ ⌊r + 1 / 2⌋ := Int.floor_nonneg.mpr (by linarith)
      rw [if_pos crossed]
      exact under.trans above
    · rw [if_neg crossed]
      exact Int.floor_le_floor (by linarith)

theorem halfAway_neg (q : ℚ) : halfAway (-q) = -halfAway q := by
  have ceiling (q : ℚ) : ⌈-q - 1 / 2⌉ = -⌊q + 1 / 2⌋ := by
    rw [← Int.ceil_neg]
    congr 1
    ring
  unfold halfAway
  rcases lt_trichotomy q 0 with below | rfl | above
  · have other := ceiling (-q)
    rw [neg_neg] at other
    rw [if_neg (by linarith),if_pos below,other,neg_neg]
  · norm_num
  · rw [if_pos (by linarith),if_neg (by linarith),ceiling]

theorem halfAway_intCast (i : Int) : halfAway i = i := by
  unfold halfAway
  split
  · rw [Int.ceil_eq_iff]
    constructor <;> linarith
  · rw [Int.floor_eq_iff]
    constructor <;> linarith

theorem halfAway_div (num : Nat) {den : Nat} (positive : 0 < den) :
    halfAway (num / den) = roundHalfUp num den := by
  have sum : (num : ℚ) / den + 1 / 2 = ((2 * num + den : Nat) : ℚ) / (2 * den : Nat) := by
    push_cast
    field_simp
  rw [halfAway,if_neg (not_lt.mpr (by positivity)),sum,Rat.floor_natCast_div_natCast,roundHalfUp]
  rfl

theorem Decimal.halfAway_value (d : Decimal) : halfAway d.value = ((if 0 ≤ d.exponent
    then d.digits * Nat.pow 10 d.exponent.toNat
    else roundHalfUp d.digits (Nat.pow 10 d.exponent.natAbs) : Nat) : Int) := by
  by_cases whole : 0 ≤ d.exponent
  · obtain ⟨n,same⟩ : ∃ n : Nat, d.exponent = n := ⟨d.exponent.toNat,by omega⟩
    rw [if_pos whole,value,same,Int.toNat_natCast,← halfAway_intCast (d.digits * Nat.pow 10 n : Nat)]
    simp
  · obtain ⟨n,same⟩ : ∃ n : Nat, d.exponent = -n := ⟨d.exponent.natAbs,by omega⟩
    have places : 0 < Nat.pow 10 n := Nat.pow_pos (by decide)
    rw [if_neg whole,value,same,Int.natAbs_neg,Int.natAbs_natCast,← halfAway_div _ places]
    simp [div_eq_mul_inv]

end Rounding

namespace Binary64

theorem roundAway_eq (x : Binary64) : x.roundAway = halfAway x.worth := by
  have magnitude := x.shortest.halfAway_value
  unfold roundAway worth
  dsimp only
  cases x.negative with
  | true => simp only [if_true,halfAway_neg,magnitude]
  | false => simp only [Bool.false_eq_true,if_false,magnitude]

end Binary64

end RoomTransfer.Number
