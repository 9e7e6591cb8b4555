import RoomTransfer.Proofs.Fragments
import RoomTransfer.Proofs.ReadingBack

/-! Rounding to integers. An integer stays as it is. A finite number is rounded from what its text says,
the shortest decimal that is read back as the number, to the nearest integer, a half away from zero. -/
namespace RoomTransfer

namespace Number

/-- The nearest integer to a ratio, a half away from zero. -/
structure Nearest (q : ℚ) (i : Int) : Prop where
  near : 2 * |(i : ℚ) - q| ≤ 1
  away : 2 * |(i : ℚ) - q| = 1 → |q| < |(i : ℚ)|

namespace Nearest

variable {q : ℚ} {i j : Int}

theorem neg (nearest : Nearest q i) : Nearest (-q) (-i) := by
  have distance : |((-i : Int) : ℚ) - -q| = |(i : ℚ) - q| := by
    rw [Int.cast_neg,← neg_sub_neg,neg_neg,neg_neg,abs_sub_comm]
  constructor
  · rw [distance]
    exact nearest.near
  · intro tie
    rw [distance] at tie
    rw [Int.cast_neg,abs_neg,abs_neg]
    exact nearest.away tie

theorem not_lt (first : Nearest q i) (second : Nearest q j) : ¬ i < j := by
  intro less
  have next : (i : ℚ) + 1 ≤ j := by exact_mod_cast less
  obtain ⟨below,_⟩ := abs_le.mp (by linarith [first.near] : |(i : ℚ) - q| ≤ 1 / 2)
  obtain ⟨_,above⟩ := abs_le.mp (by linarith [second.near] : |(j : ℚ) - q| ≤ 1 / 2)
  -- The ratio lies half-way between the two, and the one that is nearer to zero is not away from it.
  have low : (i : ℚ) = q - 1 / 2 := by linarith
  have high : (j : ℚ) = q + 1 / 2 := by linarith
  have one := sq_lt_sq.mpr (first.away (by rw [low]; norm_num))
  have other := sq_lt_sq.mpr (second.away (by rw [high]; norm_num))
  rw [low] at one
  rw [high] at other
  have positive : (0 : ℚ) < j := by
    rw [high]
    nlinarith
  have negative : (i : ℚ) < 0 := by
    rw [low]
    nlinarith
  have positive' : 0 < j := by exact_mod_cast positive
  have negative' : i < 0 := by exact_mod_cast negative
  have far : (i : ℚ) + 2 ≤ j := by exact_mod_cast (by omega : i + 2 ≤ j)
  linarith

theorem unique (first : Nearest q i) (second : Nearest q j) : i = j :=
  le_antisymm (Int.not_lt.mp (second.not_lt first)) (Int.not_lt.mp (first.not_lt second))

end Nearest

theorem nearest_halfAway (q : ℚ) : Nearest q (halfAway q) := by
  have above {q : ℚ} (nonneg : 0 ≤ q) : Nearest q (halfAway q) := by
    have least := Int.floor_le (q + 1 / 2)
    have most := Int.lt_floor_add_one (q + 1 / 2)
    rw [halfAway,if_neg (not_lt.mpr nonneg)]
    generalize ⌊q + 1 / 2⌋ = i at least most ⊢
    constructor
    · have within : |(i : ℚ) - q| ≤ 1 / 2 := abs_le.mpr ⟨by linarith,by linarith⟩
      linarith
    · intro tie
      rcases abs_cases ((i : ℚ) - q) with ⟨side,_⟩ | ⟨side,_⟩
      · rw [abs_of_nonneg nonneg]
        exact lt_abs.mpr (.inl (by linarith))
      · linarith
  rcases le_total 0 q with nonneg | nonpos
  · exact above nonneg
  · have other := (above (neg_nonneg.mpr nonpos)).neg
    rwa [halfAway_neg,neg_neg,neg_neg] at other

namespace Binary64

variable {x y : Binary64} {d e : ℚ}

/-- What the text of a number says. The text is read back as the number, and, the sign aside, it says
the shortest decimal for which this is so. -/
structure Tells (x : Binary64) (d : ℚ) : Prop where
  written : written? (x.text plain) = some d
  readBack : ofText? (String.ofList (x.text plain)) = some x
  shortest : ∃ number : Decimal, number.Shortest x ∧ d = if x.negative then -number.value else number.value

theorem tells_worth (finite : x.isFinite = true) : x.Tells x.worth where
  written := written_text plain finite
  readBack := ofText?_text plain finite
  shortest := ⟨x.shortest,shortest_spec finite,rfl⟩

section Opposites

/-- Only the sign tells a number from its opposite. -/
theorem neg_fields (x : Binary64) : x.neg.payload = x.payload ∧ x.neg.negative = !x.negative := by
  have bound : x.bits.toNat < 2 ^ 64 := x.bits.toNat_lt
  have top : signBit = 2 ^ 63 := rfl
  have bits : x.neg.bits.toNat = x.bits.toNat ^^^ 2 ^ 63 := by
    rw [neg,UInt64.toNat_xor]
    rfl
  have high : x.neg.bits.toNat / 2 ^ 63 = (x.bits.toNat / 2 ^ 63) ^^^ 1 := by
    rw [bits,Nat.xor_div_two_pow,Nat.div_self (by decide)]
  have low : x.neg.bits.toNat % 2 ^ 63 = x.bits.toNat % 2 ^ 63 := by
    rw [bits,Nat.xor_mod_two_pow,Nat.mod_self,Nat.xor_zero]
  have digit : x.bits.toNat / 2 ^ 63 = 0 ∨ x.bits.toNat / 2 ^ 63 = 1 := by omega
  refine ⟨low,?_⟩
  rw [negative,negative,top,← decide_not,decide_eq_decide]
  rcases digit with clear | set
  · have flipped : x.neg.bits.toNat / 2 ^ 63 = 1 := by rw [high,clear]; rfl
    omega
  · have flipped : x.neg.bits.toNat / 2 ^ 63 = 0 := by rw [high,set]; rfl
    omega

theorem shortest_congr (same : x.payload = y.payload) : x.shortest = y.shortest := by
  have exponent : x.exponentField = y.exponentField := by rw [exponentField,same,exponentField]
  have fraction : x.fractionField = y.fractionField := by rw [fractionField,same,fractionField]
  have shift : x.shift = y.shift := by rw [Binary64.shift,exponent,Binary64.shift]
  have significand : x.significand = y.significand := by
    rw [Binary64.significand,exponent,fraction,Binary64.significand]
  have units : x.units = y.units := by rw [Binary64.units,significand,shift,Binary64.units]
  have gap : x.gapBelow = y.gapBelow := by rw [gapBelow,exponent,fraction,gapBelow]
  have reads : x.readsBack = y.readsBack := by
    funext d e
    rw [readsBack,units,gap,shift,significand,readsBack]
  have candidate : x.candidate? = y.candidate? := by
    funext e
    rw [candidate?,units,reads,candidate?]
  have leading : x.leading = y.leading := by rw [Binary64.leading,units,Binary64.leading]
  have search (fuel e : Nat) : x.search fuel e = y.search fuel e := by
    induction fuel generalizing e with
    | zero => rfl
    | succ fuel ih => rw [Binary64.search,candidate,Binary64.search,ih]
  rw [shortest,units,leading,search,shortest]

theorem worth_neg (x : Binary64) : x.neg.worth = -x.worth := by
  obtain ⟨payload,sign⟩ := x.neg_fields
  rw [worth,sign,shortest_congr payload,worth]
  cases x.negative <;> simp

theorem neg_isFinite (x : Binary64) : x.neg.isFinite = x.isFinite := by
  rw [isFinite,exponentField,x.neg_fields.1,isFinite,exponentField]

end Opposites

end Binary64

end Number

open Number

theorem Value.toInteger?_float {x : Binary64} (finite : x.isFinite = true) :
    (Value.float x).toInteger? = some (halfAway x.worth) := by
  rw [Value.toInteger?,if_pos finite,Binary64.roundAway_eq]

theorem Value.finite_of_toInteger? {x : Binary64} {i : Int}
    (rounded : (Value.float x).toInteger? = some i) : x.isFinite = true := by
  by_contra other
  rw [Value.toInteger?,if_neg other] at rounded
  cases rounded

/-- Integers are kept. A finite number is rounded to the one integer that is nearest to what its text
says, and its opposite to the opposite integer. The order of what two texts say is kept. -/
theorem rounded_exactly :
    (∀ i, (Value.int i).toInteger? = some i) ∧
    (∀ x : Binary64, x.isFinite = true → ∃ d r, x.Tells d ∧ x.neg.Tells (-d) ∧
      (Value.float x).toInteger? = some r ∧ (Value.float x.neg).toInteger? = some (-r) ∧
      Nearest d r ∧ ∀ i, Nearest d i → i = r) ∧
    ∀ x y d e r s, x.Tells d → y.Tells e → (Value.float x).toInteger? = some r →
      (Value.float y).toInteger? = some s → (d ≤ e → r ≤ s) ∧ (e = -d → s = -r) := by
  refine ⟨fun i => rfl,fun x finite => ?_,fun x y d e r s told told' rounded rounded' => ?_⟩
  · have finite' : x.neg.isFinite = true := x.neg_isFinite.trans finite
    have told' := Binary64.tells_worth finite'
    have rounded' := Value.toInteger?_float finite'
    rw [x.worth_neg] at told' rounded'
    rw [halfAway_neg] at rounded'
    exact ⟨x.worth,halfAway x.worth,Binary64.tells_worth finite,told',Value.toInteger?_float finite,
      rounded',nearest_halfAway _,fun i nearest => nearest.unique (nearest_halfAway _)⟩
  · have worth {x : Binary64} {d : ℚ} {r : Int} (told : x.Tells d)
        (rounded : (Value.float x).toInteger? = some r) : r = halfAway d := by
      have finite := Value.finite_of_toInteger? rounded
      rw [Value.toInteger?_float finite] at rounded
      have same := (Binary64.written_text Binary64.plain finite).symm.trans told.written
      rw [← Option.some.inj rounded,Option.some.inj same]
    rw [worth told rounded,worth told' rounded']
    exact ⟨halfAway_mono,fun opposite => by rw [opposite,halfAway_neg]⟩

/-- The number below a half. -/
def belowHalf : Binary64 := ⟨0x3FDFFFFFFFFFFFFF⟩

/-- The number nearest to `10 ^ 23`, which is less than that. -/
def wide : Binary64 := ⟨0x44B52D02C7E14AF6⟩

/-- A half goes away from zero, and what is just below it does not. A number counts as what its text
says, even where it is worth less. -/
theorem text_decides :
    (Value.float (Adjustment.half true)).toInteger? = some (-1) ∧
      (Value.float belowHalf).toInteger? = some 0 ∧
      (Value.float wide).toInteger? = some (10 ^ 23) ∧ wide.magnitude < 10 ^ 23 := by
  obtain ⟨_,each,_⟩ := rounded_exactly
  have rounds {x : Binary64} {i : Int} (finite : x.isFinite = true) (nearest : Nearest x.worth i) :
      (Value.float x).toInteger? = some i := by
    obtain ⟨d,r,told,_,rounded,_,_,unique⟩ := each x finite
    have same := told.written.symm.trans (Binary64.written_text Binary64.plain finite)
    rw [rounded,unique i (Option.some.inj same ▸ nearest)]
  have worth {x : Binary64} {number : Decimal} {negative : Bool} (digits : x.shortest = number)
      (sign : x.negative = negative) :
      x.worth = if negative then -number.value else number.value := by
    rw [Binary64.worth,digits,sign]
  refine ⟨rounds (by decide) ?_,rounds (by decide) ?_,rounds (by decide) ?_,?_⟩
  · have digits : (Adjustment.half true).shortest = ⟨5,-1⟩ := by decide +kernel
    rw [worth digits (by decide : _ = true)]
    exact ⟨by norm_num [Decimal.value,abs_le],by norm_num [Decimal.value]⟩
  · have digits : belowHalf.shortest = ⟨49999999999999994,-17⟩ := by decide +kernel
    rw [worth digits (by decide : _ = false)]
    exact ⟨by norm_num [Decimal.value,abs_le],by norm_num [Decimal.value]⟩
  · have digits : wide.shortest = ⟨1,23⟩ := by decide +kernel
    rw [worth digits (by decide : _ = false)]
    exact ⟨by norm_num [Decimal.value],by norm_num [Decimal.value]⟩
  · have units : wide.units < 10 ^ 23 * Binary64.scale := by decide +kernel
    have unit := Binary64.scale_pos
    rw [Binary64.magnitude,div_lt_iff₀ unit]
    exact_mod_cast units

end RoomTransfer
