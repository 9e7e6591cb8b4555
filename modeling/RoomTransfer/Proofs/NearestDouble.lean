import Mathlib.Algebra.Order.Field.Basic
import Mathlib.Data.Rat.Floor
import Mathlib.Tactic.FieldSimp
import Mathlib.Tactic.Linarith
import RoomTransfer.Number.Shortest

/-! Which number a ratio is rounded to. Around each finite number lie the ratios that are rounded to
it, as far as half-way to its neighbours. The half-way points themselves belong to the neighbour
whose significand is even. -/
namespace RoomTransfer.Number

/-- The nearest integer to a ratio, a tie going to the even one. -/
def Evenly (q : ℚ) (n : Nat) : Prop :=
  if n % 2 = 0 then (n : ℚ) - 1 / 2 ≤ q ∧ q ≤ n + 1 / 2 else (n : ℚ) - 1 / 2 < q ∧ q < n + 1 / 2

namespace Evenly

variable {q : ℚ} {n m : Nat}

theorem bounds (evenly : Evenly q n) : (n : ℚ) - 1 / 2 ≤ q ∧ q ≤ n + 1 / 2 := by
  unfold Evenly at evenly
  split at evenly
  · exact evenly
  · exact ⟨evenly.1.le,evenly.2.le⟩

theorem nearest (evenly : Evenly q n) (m : Nat) : |(n : ℚ) - q| ≤ |(m : ℚ) - q| := by
  obtain ⟨left,right⟩ := evenly.bounds
  have half : |(n : ℚ) - q| ≤ 1 / 2 := abs_le.mpr ⟨by linarith,by linarith⟩
  rcases Nat.lt_trichotomy m n with less | rfl | more
  · have next : (m : ℚ) + 1 ≤ n := by exact_mod_cast less
    exact half.trans (le_abs.mpr (.inr (by linarith)))
  · exact le_rfl
  · have next : (n : ℚ) + 1 ≤ m := by exact_mod_cast more
    exact half.trans (le_abs.mpr (.inl (by linarith)))

theorem not_lt (first : Evenly q n) (second : Evenly q m) : ¬ n < m := by
  intro less
  have next : (n : ℚ) + 1 ≤ m := by exact_mod_cast less
  have tie : (n : ℚ) + 1 = m := le_antisymm next (by linarith [first.bounds.2,second.bounds.1])
  have successor : m = n + 1 := by exact_mod_cast tie.symm
  -- The tie would belong to both, but one of them is odd.
  unfold Evenly at first second
  by_cases even : n % 2 = 0
  · have odd : ¬ m % 2 = 0 := by omega
    rw [if_pos even] at first
    rw [if_neg odd] at second
    linarith [first.2,second.1]
  · rw [if_neg even] at first
    have other : m % 2 = 0 := by omega
    rw [if_pos other] at second
    linarith [first.2,second.1]

theorem unique (first : Evenly q n) (second : Evenly q m) : n = m :=
  le_antisymm (Nat.not_lt.mp (second.not_lt first)) (Nat.not_lt.mp (first.not_lt second))

end Evenly

theorem evenly_roundHalfEven (num : Nat) {den : Nat} (positive : 0 < den) :
    Evenly (num / den) (roundHalfEven num den) := by
  have whole : (num : ℚ) = den * (num / den : Nat) + (num % den : Nat) := by
    exact_mod_cast (Nat.div_add_mod num den).symm
  have den_pos : (0 : ℚ) < den := by exact_mod_cast positive
  have ratio : (num : ℚ) / den = (num / den : Nat) + (num % den : Nat) / den := by
    rw [whole]
    field_simp
  have less : ((num % den : Nat) : ℚ) / den < 1 := by
    rw [div_lt_one den_pos]
    exact_mod_cast Nat.mod_lt num positive
  have nonneg : (0 : ℚ) ≤ ((num % den : Nat) : ℚ) / den := by positivity
  have half (r : Nat) : (r : ℚ) / den < 1 / 2 ↔ 2 * r < den := by
    rw [div_lt_div_iff₀ den_pos two_pos]
    norm_cast
    omega
  have half' (r : Nat) : 1 / 2 < (r : ℚ) / den ↔ den < 2 * r := by
    rw [div_lt_div_iff₀ two_pos den_pos]
    norm_cast
    omega
  rw [ratio,roundHalfEven]
  by_cases below : 2 * (num % den) < den
  · have under := (half _).mpr below
    rw [if_pos below,Evenly]
    split <;> constructor <;> linarith
  · have above : ¬ ((num % den : Nat) : ℚ) / den < 1 / 2 := mt (half _).mp below
    rw [if_neg below]
    by_cases more : den < 2 * (num % den)
    · have beyond := (half' _).mpr more
      rw [if_pos more,Evenly]
      push_cast
      split <;> constructor <;> linarith
    · have tie : ((num % den : Nat) : ℚ) / den = 1 / 2 :=
        le_antisymm (not_lt.mp (mt (half' _).mp more)) (not_lt.mp above)
      rw [if_neg more,tie]
      by_cases even : num / den % 2 = 0
      · rw [if_pos even,Evenly,if_pos even]
        constructor <;> linarith
      · have next : (num / den + 1) % 2 = 0 := by omega
        rw [if_neg even,Evenly,if_pos next]
        push_cast
        constructor <;> linarith

theorem roundHalfEven_eq_iff {num den n : Nat} (positive : 0 < den) :
    roundHalfEven num den = n ↔ Evenly (num / den) n := by
  constructor
  · rintro rfl
    exact evenly_roundHalfEven num positive
  · exact (evenly_roundHalfEven num positive).unique

namespace Binary64

section Fields

variable {x : Binary64}

/-- A finite number is the significand shifted, and its payload counts the shifts in units of the
hidden bit. -/
theorem payload_eq (x : Binary64) : x.payload = x.shift * hiddenBit + x.significand := by
  have parts := Nat.div_add_mod x.payload hiddenBit
  change hiddenBit * x.exponentField + x.fractionField = x.payload at parts
  rw [← parts]
  unfold shift significand
  cases x.exponentField with
  | zero => simp
  | succ e =>
    rw [if_neg (Nat.succ_ne_zero e),Nat.add_sub_cancel]
    ring

theorem significand_lt (x : Binary64) : x.significand < 2 * hiddenBit := by
  have less : x.fractionField < hiddenBit := Nat.mod_lt _ (by decide)
  unfold significand
  split <;> omega

theorem hiddenBit_le (shifted : 0 < x.shift) : hiddenBit ≤ x.significand := by
  have some : x.exponentField ≠ 0 := by
    intro none
    simp [shift,none] at shifted
  rw [significand,if_neg some]
  omega

theorem gapBelow_eq (x : Binary64) :
    x.gapBelow = if x.significand = hiddenBit ∧ 0 < x.shift then 1 else 2 := by
  have less : x.fractionField < hiddenBit := Nat.mod_lt _ (by decide)
  have same : (x.fractionField = 0 ∧ 1 < x.exponentField) ↔
      (x.significand = hiddenBit ∧ 0 < x.shift) := by
    unfold significand shift
    split <;> omega
  unfold gapBelow
  simp only [same]

theorem ofFields_eq_iff {negative : Bool} {payload : Nat} (small : payload < signBit) :
    ofFields negative payload = x ↔ negative = x.negative ∧ payload = x.payload := by
  have bound := x.bits.toNat_lt
  have top : signBit = 2 ^ 63 := rfl
  have bits : ofFields negative payload = x ↔
      (if negative then signBit else 0) + payload = x.bits.toNat := by
    have less : (if negative then signBit else 0) + payload < 2 ^ 64 := by
      split <;> omega
    constructor
    · rintro rfl
      simp only [ofFields,UInt64.toNat_ofNat']
      omega
    · intro same
      rw [ofFields,same]
      simp
  rw [bits]
  unfold Binary64.negative Binary64.payload
  rw [top] at small ⊢
  cases negative <;> simp <;> omega

end Fields

section Rounding

variable {num den s n : Nat}

theorem le_ratio_iff (positive : 0 < den) : n ≤ num / den ↔ (n : ℚ) ≤ num / den := by
  have den_pos : (0 : ℚ) < den := by exact_mod_cast positive
  rw [Nat.le_div_iff_mul_le positive,le_div_iff₀ den_pos]
  norm_cast

/-- How far a ratio has to be shifted so that fifty-three bits are left of it. -/
theorem log2_bounds (n : Nat) : (n.log2 + 1 - 53 = 0 ∨ 2 ^ (52 + (n.log2 + 1 - 53)) ≤ n) ∧
    n < 2 ^ (53 + (n.log2 + 1 - 53)) := by
  by_cases zero : n = 0
  · simp [zero]
  · have least := Nat.log2_self_le zero
    have most := Nat.lt_log2_self (n := n)
    by_cases small : n.log2 + 1 ≤ 53
    · rw [Nat.sub_eq_zero_of_le small]
      exact ⟨.inl rfl,most.trans_le (Nat.pow_le_pow_right (by decide) small)⟩
    · have exponent : 52 + (n.log2 + 1 - 53) = n.log2 := by omega
      have next : 53 + (n.log2 + 1 - 53) = n.log2 + 1 := by omega
      rw [exponent,next]
      exact ⟨.inr least,most⟩

theorem log2_eq (low : s = 0 ∨ 2 ^ (52 + s) ≤ n) (high : n < 2 ^ (53 + s)) :
    n.log2 + 1 - 53 = s := by
  by_cases zero : n = 0
  · subst zero
    have power : 0 < 2 ^ (52 + s) := Nat.two_pow_pos _
    rcases low with rfl | low
    · rfl
    · omega
  · have below : n.log2 < 53 + s := (Nat.log2_lt zero).mpr high
    rcases low with rfl | low
    · omega
    · have above : 52 + s ≤ n.log2 := (Nat.le_log2 zero).mpr low
      omega

/-- The shift and the rounded significand of a ratio. -/
theorem roundedPayload_eq (positive : 0 < den) (low : s = 0 ∨ (2 : ℚ) ^ (52 + s) ≤ num / den)
    (high : (num : ℚ) / den < 2 ^ (53 + s)) (evenly : Evenly (num / den / 2 ^ s) n) :
    roundedPayload num den = s * hiddenBit + n := by
  have low' : s = 0 ∨ 2 ^ (52 + s) ≤ num / den :=
    low.imp_right fun low => (le_ratio_iff positive).mpr (by exact_mod_cast low)
  have high' : num / den < 2 ^ (53 + s) := by
    rw [← Nat.not_le,le_ratio_iff positive,not_le]
    exact_mod_cast high
  have shifted := log2_eq low' high'
  have places : 0 < den * Nat.pow 2 s := Nat.mul_pos positive (Nat.two_pow_pos s)
  have rounded : roundHalfEven num (den * Nat.pow 2 s) = n := by
    rw [roundHalfEven_eq_iff places,Nat.cast_mul,← div_div]
    simpa using evenly
  simp only [roundedPayload,shifted,rounded]

theorem exists_rounded (num : Nat) (positive : 0 < den) : ∃ s n,
    roundedPayload num den = s * hiddenBit + n ∧ (s = 0 ∨ (2 : ℚ) ^ (52 + s) ≤ num / den) ∧
      (num : ℚ) / den < 2 ^ (53 + s) ∧ Evenly (num / den / 2 ^ s) n := by
  obtain ⟨low,high⟩ := log2_bounds (num / den)
  generalize (num / den).log2 + 1 - 53 = s at low high
  have low' : s = 0 ∨ (2 : ℚ) ^ (52 + s) ≤ num / den :=
    low.imp_right fun low => by exact_mod_cast (le_ratio_iff positive).mp low
  have high' : (num : ℚ) / den < 2 ^ (53 + s) := by
    rw [← Nat.not_le,le_ratio_iff positive,not_le] at high
    exact_mod_cast high
  have evenly := evenly_roundHalfEven num (Nat.mul_pos positive (Nat.two_pow_pos s))
  push_cast at evenly
  rw [← div_div] at evenly
  exact ⟨s,_,roundedPayload_eq positive low' high' evenly,low',high',evenly⟩

end Rounding

/-- Where the ratios begin that are rounded to a finite number, counted in smallest positive numbers. -/
def low (x : Binary64) : ℚ := x.units - x.gapBelow * 2 ^ x.shift / 4

/-- Where they end. -/
def high (x : Binary64) : ℚ := x.units + 2 ^ x.shift / 2

/-- A ratio lies between the two ends. These belong to the number if its significand is even. -/
def Attracts (x : Binary64) (q : ℚ) : Prop :=
  if x.significand % 2 = 0 then x.low ≤ q ∧ q ≤ x.high else x.low < q ∧ q < x.high

section Attraction

variable {x : Binary64} {num den : Nat} {q : ℚ}

theorem units_cast (x : Binary64) : (x.units : ℚ) = x.significand * 2 ^ x.shift := by
  simp [units]

theorem hiddenBit_cast : (hiddenBit : ℚ) = 2 ^ 52 := by norm_num [hiddenBit]

theorem attracts_iff (x : Binary64) (q : ℚ) : x.Attracts q ↔ if x.significand % 2 = 0
    then (x.significand : ℚ) - x.gapBelow / 4 ≤ q / 2 ^ x.shift ∧
      q / 2 ^ x.shift ≤ x.significand + 1 / 2
    else (x.significand : ℚ) - x.gapBelow / 4 < q / 2 ^ x.shift ∧
      q / 2 ^ x.shift < x.significand + 1 / 2 := by
  have power : (0 : ℚ) < 2 ^ x.shift := by positivity
  have below : x.low = (x.significand - x.gapBelow / 4) * 2 ^ x.shift := by
    rw [low,x.units_cast]
    ring
  have above : x.high = (x.significand + 1 / 2) * 2 ^ x.shift := by
    rw [high,x.units_cast]
    ring
  rw [Attracts,below,above,le_div_iff₀ power,div_le_iff₀ power,lt_div_iff₀ power,div_lt_iff₀ power]

theorem low_lt (x : Binary64) : x.low < x.units := by
  have gap : (0 : ℚ) < x.gapBelow := by
    rw [x.gapBelow_eq]
    split <;> norm_num
  have step : 0 < x.gapBelow * (2 : ℚ) ^ x.shift / 4 := by positivity
  rw [low]
  linarith

theorem lt_high (x : Binary64) : x.units < x.high := by
  have step : 0 < (2 : ℚ) ^ x.shift / 2 := by positivity
  rw [high]
  linarith

theorem attracts_inside (above : x.low < q) (below : q < x.high) : x.Attracts q := by
  unfold Attracts
  split
  · exact ⟨above.le,below.le⟩
  · exact ⟨above,below⟩

theorem attracts_self (x : Binary64) : x.Attracts x.units := attracts_inside x.low_lt x.lt_high

theorem Attracts.bounds (attracts : x.Attracts q) : x.low ≤ q ∧ q ≤ x.high := by
  unfold Attracts at attracts
  split at attracts
  · exact attracts
  · exact ⟨attracts.1.le,attracts.2.le⟩

/-- What lies between two ratios that a number attracts is attracted too. -/
theorem Attracts.between {p r : ℚ} (first : x.Attracts p) (last : x.Attracts r) (above : p ≤ q)
    (below : q ≤ r) : x.Attracts q := by
  unfold Attracts at *
  split at first
  · rw [if_pos ‹_›] at *
    exact ⟨first.1.trans above,below.trans last.2⟩
  · rw [if_neg ‹_›] at *
    exact ⟨first.1.trans_le above,below.trans_lt last.2⟩

theorem attracts_of_rounded {s n : Nat}
    (place : x.shift * hiddenBit + x.significand = s * hiddenBit + n)
    (above : s = 0 ∨ (2 : ℚ) ^ (52 + s) ≤ q) (below : q < 2 ^ (53 + s))
    (evenly : Evenly (q / 2 ^ s) n) : x.Attracts q := by
  have less := x.significand_lt
  have least : 0 < x.shift → hiddenBit ≤ x.significand := hiddenBit_le
  have gap := x.gapBelow_eq
  have bit : hiddenBit = 2 ^ 52 := rfl
  have power : (0 : ℚ) < 2 ^ s := by positivity
  have top : q / 2 ^ s < 2 ^ 53 := by rwa [div_lt_iff₀ power,← pow_add]
  have bottom : s = 0 ∨ (2 : ℚ) ^ 52 ≤ q / 2 ^ s := by rwa [le_div_iff₀ power,← pow_add]
  obtain ⟨left,right⟩ := evenly.bounds
  rw [bit] at place less least gap
  have most : n < 2 ^ 53 + 1 := by
    have real : (n : ℚ) < 2 ^ 53 + 1 := by linarith
    exact_mod_cast real
  have some : s = 0 ∨ 2 ^ 52 < n + 1 := bottom.imp_right fun bottom => by
    have real : (2 : ℚ) ^ 52 < n + 1 := by linarith
    exact_mod_cast real
  rw [attracts_iff,gap]
  -- The significand is the rounded one, unless that was carried into the next power of two.
  by_cases carried : n = 2 ^ 53
  · have shift : x.shift = s + 1 := by omega
    have significand : x.significand = 2 ^ 52 := by omega
    have doubled : q / 2 ^ (s + 1) = q / 2 ^ s / 2 := by rw [pow_succ,div_div]
    rw [carried] at left right
    rw [significand,shift,doubled,if_pos (by decide),if_pos ⟨rfl,Nat.succ_pos s⟩]
    push_cast at left right ⊢
    constructor <;> linarith
  · have shift : x.shift = s := by omega
    have significand : x.significand = n := by omega
    rw [significand,shift]
    by_cases first : n = 2 ^ 52 ∧ 0 < s
    · have least := bottom.resolve_left first.2.ne'
      rw [first.1] at right
      rw [if_pos first,first.1,if_pos (by decide)]
      push_cast at right ⊢
      constructor <;> linarith
    · rw [if_neg first]
      rw [Evenly] at evenly
      push_cast
      split at evenly
      · rw [if_pos ‹_›]
        constructor <;> linarith [evenly.1,evenly.2]
      · rw [if_neg ‹_›]
        constructor <;> linarith [evenly.1,evenly.2]

theorem rounded_of_attracts (attracts : x.Attracts q) : ∃ s n : Nat,
    x.shift * hiddenBit + x.significand = s * hiddenBit + n ∧ (s = 0 ∨ (2 : ℚ) ^ (52 + s) ≤ q) ∧
      q < 2 ^ (53 + s) ∧ Evenly (q / 2 ^ s) n := by
  have less := x.significand_lt
  have least : 0 < x.shift → hiddenBit ≤ x.significand := hiddenBit_le
  have gap := x.gapBelow_eq
  have bit : hiddenBit = 2 ^ 52 := rfl
  have power : (0 : ℚ) < 2 ^ x.shift := by positivity
  rw [bit] at less least gap ⊢
  rw [attracts_iff,gap] at attracts
  have within : (x.significand : ℚ) - 1 / 2 ≤ q / 2 ^ x.shift ∧
      q / 2 ^ x.shift ≤ x.significand + 1 / 2 := by
    push_cast at attracts
    split at attracts <;> split at attracts <;> constructor <;> linarith [attracts.1,attracts.2]
  -- Just below a power of two the ratio is shifted by one place less than the number.
  by_cases under : 0 < x.shift ∧ q / 2 ^ x.shift < 2 ^ 52
  · obtain ⟨s,shift⟩ : ∃ s, x.shift = s + 1 := ⟨x.shift - 1,by omega⟩
    have place : (0 : ℚ) < 2 ^ s := by positivity
    have half : q / 2 ^ x.shift = q / 2 ^ s / 2 := by rw [shift,pow_succ,div_div]
    have significand : x.significand = 2 ^ 52 := by
      have real : (x.significand : ℚ) < 2 ^ 52 + 1 := by linarith [under.2]
      have whole : x.significand < 2 ^ 52 + 1 := by exact_mod_cast real
      exact le_antisymm (by omega) (least under.1)
    rw [significand,if_pos (by decide),if_pos ⟨rfl,under.1⟩,half] at attracts
    rw [half] at under
    push_cast at attracts
    refine ⟨s,2 ^ 53,by rw [significand,shift]; ring,.inr ?_,?_,?_⟩
    · rw [pow_add,← le_div_iff₀ place]
      linarith [attracts.1]
    · rw [pow_add,← div_lt_iff₀ place]
      linarith [under.2]
    · rw [Evenly,if_pos (by decide)]
      push_cast
      constructor <;> linarith [attracts.1,under.2]
  · refine ⟨x.shift,x.significand,rfl,?_,?_,?_⟩
    · by_cases none : x.shift = 0
      · exact .inl none
      · rw [pow_add,← le_div_iff₀ power]
        exact .inr (not_lt.mp fun below => under ⟨Nat.pos_of_ne_zero none,below⟩)
    · have most : (x.significand : ℚ) + 1 ≤ 2 * 2 ^ 52 := by exact_mod_cast less
      rw [pow_add,← div_lt_iff₀ power]
      linarith [within.2]
    · rw [Evenly]
      push_cast at attracts
      split at attracts
      · rw [if_pos ‹_›]
        exact within
      · rw [if_neg ‹_›]
        split at attracts <;> constructor <;> linarith [attracts.1,attracts.2]

/-- A ratio is rounded to a number just if that number attracts it. -/
theorem roundedPayload_eq_iff (positive : 0 < den) :
    roundedPayload num den = x.payload ↔ x.Attracts (num / den) := by
  rw [x.payload_eq]
  constructor
  · intro same
    obtain ⟨s,n,rounded,above,below,evenly⟩ := exists_rounded num positive
    exact attracts_of_rounded (same.symm.trans rounded) above below evenly
  · intro attracts
    obtain ⟨s,n,place,above,below,evenly⟩ := rounded_of_attracts attracts
    rw [place]
    exact roundedPayload_eq positive above below evenly

/-- A ratio is read as a finite number just if it has its sign and is attracted by it. -/
theorem ofRatio_eq_iff (finite : x.isFinite = true) (positive : 0 < den) {negative : Bool} :
    ofRatio negative num den = x ↔
      negative = x.negative ∧ x.Attracts ((num : ℚ) / den * scale) := by
  have small : x.payload < 2047 * hiddenBit :=
    (Nat.div_lt_iff_lt_mul (by decide)).mp (of_decide_eq_true finite)
  have top : 2047 * hiddenBit < signBit := by decide
  have ratio : (num : ℚ) / den * scale = ((num * scale : Nat) : ℚ) / den := by
    push_cast
    ring
  rw [ratio,← roundedPayload_eq_iff positive,ofRatio]
  split
  · next less => rw [ofFields_eq_iff (less.trans top)]
  · next more =>
    constructor
    · intro same
      have payload := ((ofFields_eq_iff top).mp same).2
      omega
    · rintro ⟨_,same⟩
      omega

/-- A decimal is read as a finite number just if it has its sign and is attracted by it. -/
theorem ofDecimal_eq_iff (finite : x.isFinite = true) {negative : Bool} {digits : Nat} {e : Int} :
    ofDecimal negative digits e = x ↔
      negative = x.negative ∧ x.Attracts (digits * (10 : ℚ) ^ e * scale) := by
  rw [ofDecimal]
  by_cases whole : 0 ≤ e
  · obtain ⟨n,rfl⟩ : ∃ n : Nat, e = n := ⟨e.toNat,by omega⟩
    rw [if_pos whole,ofRatio_eq_iff finite Nat.one_pos,Int.toNat_natCast]
    generalize (scale : ℚ) = unit
    simp
  · obtain ⟨n,rfl⟩ : ∃ n : Nat, e = -n := ⟨e.natAbs,by omega⟩
    have places : 0 < Nat.pow 10 n := Nat.pow_pos (by decide)
    rw [if_neg whole,Int.natAbs_neg,Int.natAbs_natCast,ofRatio_eq_iff finite places]
    generalize (scale : ℚ) = unit
    simp [div_eq_mul_inv]

end Attraction

end Binary64

end RoomTransfer.Number
