import RoomTransfer.Proofs.DecimalText
import RoomTransfer.Proofs.NearestDouble

/-! The shortest decimal of a number. Around a number lie its neighbours on ever finer grids of
decimals. The first grid with a neighbour that is read back as the number gives the decimal: none with
fewer digits is read back, and none with as many is nearer. -/
namespace RoomTransfer.Number

namespace Binary64

variable {x : Binary64} {d e m : Nat}

/-- So many smallest positive numbers make `10 ^ -400`. -/
def grain : ℚ := scale / fine

theorem scale_pos : (0 : ℚ) < scale := by
  have positive : 0 < scale := by decide +kernel
  exact_mod_cast positive

theorem fine_pos : (0 : ℚ) < fine := by
  have positive : 0 < fine := by decide +kernel
  exact_mod_cast positive

theorem grain_pos : 0 < grain := div_pos scale_pos fine_pos

/-- A point of the grid whose lines are `10 ^ (e - 400)` apart, counted in smallest positive numbers. -/
def gridPoint (e d : Nat) : ℚ := d * (10 ^ e * grain)

theorem gridLine_pos (e : Nat) : 0 < 10 ^ e * grain := mul_pos (by positivity) grain_pos

theorem gridPoint_mono (ordered : d ≤ m) : gridPoint e d ≤ gridPoint e m := by
  have real : (d : ℚ) ≤ m := by exact_mod_cast ordered
  exact mul_le_mul_of_nonneg_right real (gridLine_pos e).le

theorem gridPoint_lt (less : d < m) : gridPoint e d < gridPoint e m := by
  have real : (d : ℚ) < m := by exact_mod_cast less
  exact mul_lt_mul_of_pos_right real (gridLine_pos e)

theorem gridPoint_finer (k : Nat) : gridPoint (e + k) d = gridPoint e (d * 10 ^ k) := by
  rw [gridPoint,gridPoint]
  push_cast
  ring

section ReadingBack

theorem unit_cancels {unit place : Nat} {q : ℚ} (positive : 0 < unit) (here : (place : ℚ) = q * unit)
    (r : Nat) : (r * unit ≤ place ↔ (r : ℚ) ≤ q) ∧ (r * unit < place ↔ (r : ℚ) < q) ∧
      (place ≤ r * unit ↔ q ≤ r) ∧ (place < r * unit ↔ q < r) := by
  have real : (0 : ℚ) < unit := by exact_mod_cast positive
  rw [← mul_le_mul_iff_of_pos_right real,← mul_lt_mul_iff_of_pos_right real,
    ← mul_le_mul_iff_of_pos_right real (b := q),← mul_lt_mul_iff_of_pos_right real (b := q),← here]
  norm_cast

/-- A point of a grid is read back as a number just if the number attracts it. -/
theorem readsBack_iff : x.readsBack d e = true ↔ x.Attracts (gridPoint e d) := by
  have quarter : 4 * scale = Nat.pow 2 1076 := by decide +kernel
  have here : ((d * Nat.pow 10 e * Nat.pow 2 1076 : Nat) : ℚ) = 4 * gridPoint e d * fine := by
    have part := fine_pos.ne'
    rw [← quarter,gridPoint,grain]
    generalize scale = a
    generalize fine = b at part ⊢
    push_cast [Nat.pow_eq]
    field_simp
  have positive : 0 < fine := by exact_mod_cast fine_pos
  have nonneg : 0 ≤ gridPoint e d := mul_nonneg (Nat.cast_nonneg d) (gridLine_pos e).le
  have ends := unit_cancels positive here
  have above : ((4 * x.units + 2 * Nat.pow 2 x.shift : Nat) : ℚ) = 4 * x.high := by
    rw [high]
    push_cast [Nat.pow_eq]
    ring
  have below (room : x.gapBelow * Nat.pow 2 x.shift ≤ 4 * x.units) :
      ((4 * x.units - x.gapBelow * Nat.pow 2 x.shift : Nat) : ℚ) = 4 * x.low := by
    rw [low,Nat.cast_sub room]
    push_cast [Nat.pow_eq]
    ring
  unfold readsBack Attracts
  by_cases even : x.significand % 2 = 0
  · rw [if_pos even,if_pos even]
    simp only [Bool.and_eq_true,decide_eq_true_eq,ends,above]
    by_cases room : x.gapBelow * Nat.pow 2 x.shift ≤ 4 * x.units
    · rw [below room]
      constructor <;> rintro ⟨left,right⟩ <;> constructor <;> linarith
    · -- Zero attracts what lies below it, too.
      have negative : 4 * x.low ≤ 0 := by
        have real : 4 * (x.units : ℚ) < x.gapBelow * 2 ^ x.shift := by
          exact_mod_cast not_le.mp room
        rw [low]
        linarith
      rw [Nat.sub_eq_zero_of_le (not_le.mp room).le,Nat.cast_zero]
      constructor <;> rintro ⟨left,right⟩ <;> constructor <;> linarith
  · have room : x.gapBelow * Nat.pow 2 x.shift ≤ 4 * x.units := by
      have gap : x.gapBelow ≤ 4 * x.significand := by
        rw [x.gapBelow_eq]
        split <;> omega
      rw [units,← mul_assoc]
      exact Nat.mul_le_mul_right _ gap
    rw [if_neg even,if_neg even]
    simp only [Bool.and_eq_true,decide_eq_true_eq,ends,above,below room]
    constructor <;> rintro ⟨left,right⟩ <;> constructor <;> linarith

end ReadingBack

section Grids

/-- The neighbours of a number on a grid. They are tried one after the other, the nearer first. -/
theorem neighbours (x : Binary64) (e : Nat) : ∃ low nearer farther,
    (nearer = low ∧ farther = low + 1 ∨ nearer = low + 1 ∧ farther = low) ∧
    gridPoint e low ≤ x.units ∧ x.units < gridPoint e (low + 1) ∧
    (∀ m, |gridPoint e nearer - x.units| ≤ |gridPoint e m - x.units|) ∧
    x.candidate? e = if x.readsBack nearer e then some nearer
      else if x.readsBack farther e then some farther else none := by
  have line := gridLine_pos e
  have whole : 0 < Nat.pow 10 e * scale := by
    have positive : 0 < scale := by exact_mod_cast scale_pos
    exact Nat.mul_pos (Nat.pow_pos (by decide)) positive
  have ratio : ((x.units * fine : Nat) : ℚ) / (Nat.pow 10 e * scale : Nat) =
      x.units / (10 ^ e * grain) := by
    have one := scale_pos
    have part := fine_pos
    rw [grain,Nat.cast_mul,Nat.cast_mul,Nat.pow_eq,Nat.cast_pow]
    generalize (scale : ℚ) = a at *
    generalize (fine : ℚ) = b at *
    field_simp
    norm_num
  unfold candidate?
  generalize Nat.pow 10 e * scale = den at whole ratio ⊢
  generalize x.units * fine = num at ratio ⊢
  have evenly := evenly_roundHalfEven num whole
  have within (n : Nat) : n ≤ num / den ↔ (n : ℚ) ≤ num / den := le_ratio_iff whole
  have least := (within _).mp le_rfl
  have most := mt (within _).mpr (Nat.not_succ_le_self _)
  rw [ratio] at evenly least most
  have distance (m : Nat) : |gridPoint e m - x.units| =
      |(m : ℚ) - x.units / (10 ^ e * grain)| * (10 ^ e * grain) := by
    rw [← abs_of_pos line,← abs_mul,abs_of_pos line,sub_mul,div_mul_cancel₀ _ line.ne',gridPoint]
  refine ⟨_,_,_,?_,(le_div_iff₀ line).mp least,(div_lt_iff₀ line).mp (not_le.mp most),fun m => ?_,rfl⟩
  · have lower := div_le_roundHalfEven num den
    have upper := roundHalfEven_le num den
    split <;> omega
  · rw [distance,distance]
    exact mul_le_mul_of_nonneg_right (evenly.nearest m) line.le

/-- On its way to the number, an attracted point of a grid passes the neighbour on its side. -/
theorem neighbour_attracted {low : Nat} (below : gridPoint e low ≤ x.units)
    (above : x.units < gridPoint e (low + 1)) (attracted : x.Attracts (gridPoint e m)) :
    m ≤ low ∧ x.Attracts (gridPoint e low) ∨ low + 1 ≤ m ∧ x.Attracts (gridPoint e (low + 1)) := by
  rcases Nat.lt_or_ge low m with more | less
  · exact .inr ⟨more,x.attracts_self.between attracted above.le (gridPoint_mono more)⟩
  · exact .inl ⟨less,attracted.between x.attracts_self (gridPoint_mono less) below⟩

theorem candidate?_none (none : x.candidate? e = none) (m : Nat) : ¬ x.Attracts (gridPoint e m) := by
  intro attracted
  obtain ⟨low,nearer,farther,sides,below,above,_,tried⟩ := x.neighbours e
  rw [tried] at none
  split at none
  · cases none
  · next first =>
    split at none
    · cases none
    · next second =>
      rw [readsBack_iff] at first second
      rcases sides with ⟨rfl,rfl⟩ | ⟨rfl,rfl⟩ <;>
        rcases neighbour_attracted below above attracted with ⟨_,passed⟩ | ⟨_,passed⟩
      · exact first passed
      · exact second passed
      · exact second passed
      · exact first passed

/-- A candidate is attracted, and no point of its grid that is so is nearer. -/
theorem candidate?_some (found : x.candidate? e = some d) : x.Attracts (gridPoint e d) ∧
    ∀ m, x.Attracts (gridPoint e m) → |gridPoint e d - x.units| ≤ |gridPoint e m - x.units| := by
  obtain ⟨low,nearer,farther,sides,below,above,nearest,tried⟩ := x.neighbours e
  rw [tried] at found
  split at found
  · next first =>
    obtain rfl := Option.some.inj found
    exact ⟨readsBack_iff.mp first,fun m _ => nearest m⟩
  · next first =>
    split at found
    · next second =>
      obtain rfl := Option.some.inj found
      rw [readsBack_iff] at first
      refine ⟨readsBack_iff.mp second,fun m attracted => ?_⟩
      -- The nearer neighbour is not attracted, so the point lies on the other side.
      rcases sides with ⟨rfl,rfl⟩ | ⟨rfl,rfl⟩ <;>
        rcases neighbour_attracted below above attracted with ⟨side,passed⟩ | ⟨side,passed⟩
      · exact absurd passed first
      · have farther := gridPoint_mono (e := e) side
        rw [abs_of_nonneg (by linarith),abs_of_nonneg (by linarith)]
        linarith
      · have farther := gridPoint_mono (e := e) side
        rw [abs_of_nonpos (by linarith),abs_of_nonpos (by linarith)]
        linarith
      · exact absurd passed first
    · cases found

/-- A grid whose lines are closer than the ends of a number has a candidate. -/
theorem candidate?_of_narrow (narrow : 10 ^ e * grain < x.high - x.low) :
    (x.candidate? e).isSome = true := by
  cases none : x.candidate? e with
  | some d => rfl
  | none =>
    obtain ⟨low,_,_,_,below,above,_,_⟩ := x.neighbours e
    have under : gridPoint e low ≤ x.low := not_lt.mp fun inside =>
      candidate?_none none low (attracts_inside inside (below.trans_lt x.lt_high))
    have upper : x.high ≤ gridPoint e (low + 1) := not_lt.mp fun inside =>
      candidate?_none none (low + 1) (attracts_inside (x.low_lt.trans above) inside)
    have next : gridPoint e (low + 1) = gridPoint e low + 10 ^ e * grain := by
      rw [gridPoint,gridPoint]
      push_cast
      ring
    linarith

end Grids

section Searching

theorem search_some {fuel : Nat} {found : Decimal} (searched : x.search fuel e = some found) :
    ∃ e' d, e' ≤ e ∧ e < e' + fuel ∧ x.candidate? e' = some d ∧ found = ⟨d,(e' : Int) - 400⟩ ∧
      ∀ j, e' < j → j ≤ e → x.candidate? j = none := by
  induction fuel generalizing e with
  | zero => cases searched
  | succ fuel ih =>
    rw [search] at searched
    cases tried : x.candidate? e with
    | some d =>
      rw [tried] at searched
      exact ⟨e,d,le_rfl,by omega,tried,(Option.some.inj searched).symm,fun j _ _ => by omega⟩
    | none =>
      rw [tried] at searched
      obtain ⟨e',d,within,last,candidate,same,before⟩ := ih searched
      refine ⟨e',d,by omega,by omega,candidate,same,fun j above below => ?_⟩
      by_cases first : j = e
      · rw [first]
        exact tried
      · exact before j above (by omega)

theorem search_isSome {fuel k : Nat} (within : k < fuel) (room : k ≤ e)
    (candidate : (x.candidate? (e - k)).isSome = true) : (x.search fuel e).isSome = true := by
  induction k generalizing fuel e with
  | zero =>
    obtain ⟨fuel,rfl⟩ : ∃ n, fuel = n + 1 := ⟨fuel - 1,by omega⟩
    obtain ⟨d,tried⟩ := Option.isSome_iff_exists.mp candidate
    rw [Nat.sub_zero] at tried
    simp [search,tried]
  | succ k ih =>
    obtain ⟨fuel,rfl⟩ : ∃ n, fuel = n + 1 := ⟨fuel - 1,by omega⟩
    rw [search]
    split
    · rfl
    · apply ih (by omega) (by omega)
      rwa [Nat.sub_sub,Nat.add_comm 1 k]

theorem leading_bounds (nonzero : x.units ≠ 0) : 17 ≤ x.leading ∧
    gridPoint (x.leading - 1) 1 ≤ x.units ∧ x.units < gridPoint x.leading 1 := by
  have one : 0 < scale := by exact_mod_cast scale_pos
  have ratio : ((x.units * fine : Nat) : ℚ) / scale = x.units / grain := by
    rw [grain,Nat.cast_mul,div_div_eq_mul_div]
  have wide : 10 ^ 16 ≤ x.units * fine / scale := by
    have least : 10 ^ 16 * scale ≤ fine := by decide +kernel
    rw [Nat.le_div_iff_mul_le one]
    exact least.trans (Nat.le_mul_of_pos_left fine (Nat.pos_of_ne_zero nonzero))
  have position : x.leading = (digits (x.units * fine / scale)).length := rfl
  rw [position,gridPoint,gridPoint]
  generalize x.units * fine = num at ratio wide ⊢
  generalize scale = den at one ratio wide ⊢
  obtain ⟨least,most⟩ := digits_bounds (n := num / den) (by omega)
  have long : 16 < (digits (num / den)).length :=
    (Nat.pow_lt_pow_iff_right (by decide)).mp (wide.trans_lt most)
  rw [le_ratio_iff one,ratio,le_div_iff₀ grain_pos] at least
  rw [← not_le,le_ratio_iff one,ratio,not_le,div_lt_iff₀ grain_pos] at most
  push_cast at least most ⊢
  rw [one_mul,one_mul]
  exact ⟨long,least,most⟩

/-- With seventeen digits the lines of a grid are closer than the ends of a number. -/
theorem narrow_grid (nonzero : x.units ≠ 0) :
    10 ^ (x.leading - 17) * grain < x.high - x.low := by
  obtain ⟨long,least,_⟩ := leading_bounds nonzero
  have place : x.leading - 1 = (x.leading - 17) + 16 := by omega
  have power : (0 : ℚ) < 2 ^ x.shift := by positivity
  have wide : 10 ^ (x.leading - 17) * grain * 10 ^ 16 ≤ x.significand * 2 ^ x.shift := by
    rw [gridPoint,place,pow_add,x.units_cast,Nat.cast_one,one_mul,mul_right_comm] at least
    exact least
  have apart : x.high - x.low = 2 ^ x.shift / 2 + x.gapBelow * 2 ^ x.shift / 4 := by
    rw [high,low]
    ring
  have less : (x.significand : ℚ) < 2 * 2 ^ 52 := by exact_mod_cast x.significand_lt
  have within : (x.significand : ℚ) * 2 ^ x.shift < 2 * 2 ^ 52 * 2 ^ x.shift :=
    mul_lt_mul_of_pos_right less power
  rw [apart,x.gapBelow_eq]
  split
  · next first =>
    rw [first.1,hiddenBit_cast] at wide
    push_cast
    linarith
  · push_cast
    linarith

/-- Seventeen digits suffice. -/
theorem search_succeeds (nonzero : x.units ≠ 0) : (x.search 17 (x.leading - 1)).isSome = true := by
  have long := (leading_bounds nonzero).1
  have last : x.leading - 1 - 16 = x.leading - 17 := by omega
  apply search_isSome (by decide : 16 < 17) (by omega)
  rw [last]
  exact candidate?_of_narrow (narrow_grid nonzero)

end Searching

section Stripping

variable {fuel n : Nat} {number : Decimal}

theorem strip_value (fuel : Nat) (number : Decimal) : (strip fuel number).value = number.value := by
  induction fuel generalizing number with
  | zero => rfl
  | succ fuel ih =>
    rw [strip]
    split
    · next round =>
      obtain ⟨k,whole⟩ : ∃ k, number.digits = 10 * k := ⟨number.digits / 10,by omega⟩
      rw [ih,Decimal.value,Decimal.value,whole,Nat.mul_div_cancel_left k (by decide),
        zpow_add_one₀ (by norm_num)]
      push_cast
      ring
    · rfl

theorem strip_le (fuel : Nat) (number : Decimal) : (strip fuel number).digits ≤ number.digits := by
  induction fuel generalizing number with
  | zero => rfl
  | succ fuel ih =>
    rw [strip]
    split
    · exact (ih _).trans (Nat.div_le_self _ _)
    · rfl

theorem strip_lt (within : number.digits ≤ 10 ^ (n + 1)) :
    (strip (fuel + 1) number).digits < 10 ^ (n + 1) := by
  have power : 0 < 10 ^ n := Nat.pow_pos (by decide)
  have next : 10 ^ (n + 1) = 10 * 10 ^ n := Nat.pow_succ'
  rw [strip]
  split
  · have less := strip_le fuel ⟨number.digits / 10,number.exponent + 1⟩
    dsimp only at less
    omega
  · omega

theorem decimalLength_le (some : 0 < n) : decimalLength m ≤ n ↔ m < 10 ^ n :=
  Nat.length_toDigits_le_iff (by decide) some

end Stripping

section Shortest

theorem power_cast {n k : Nat} (power : n = Nat.pow 10 k) : (n : ℚ) = 10 ^ (k : Int) := by
  rw [power,Nat.pow_eq,Nat.cast_pow,zpow_natCast,Nat.cast_ofNat]

theorem gridLine (e : Nat) : (10 : ℚ) ^ (e - 400 : Int) * scale = 10 ^ e * grain := by
  have part : (fine : ℚ) = 10 ^ ((400 : Nat) : Int) := power_cast (by decide +kernel)
  rw [grain,part,Nat.cast_ofNat,zpow_sub₀ (by norm_num),zpow_natCast,div_mul_eq_mul_div,mul_div_assoc]

theorem decimal_gridPoint (m e k : Nat) :
    m * (10 : ℚ) ^ (e - 400 + k : Int) * scale = gridPoint e (m * 10 ^ k) := by
  have line := gridLine e
  rw [zpow_add₀ (by norm_num),zpow_natCast,gridPoint,← line]
  push_cast
  generalize (scale : ℚ) = s
  ring

/-- An attracted decimal of few digits is a point of a grid, or a point of the grid lies between it
and the number. -/
theorem onto_grid {n : Nat} {f : Int} (nonzero : x.units ≠ 0) (place : e + (n + 1) = x.leading)
    (attracted : x.Attracts (m * (10 : ℚ) ^ f * scale)) (few : decimalLength m ≤ n + 1) :
    ∃ d, x.Attracts (gridPoint e d) ∧
      |gridPoint e d - x.units| ≤ |m * (10 : ℚ) ^ f * scale - x.units| := by
  by_cases coarse : (e : Int) - 400 ≤ f
  · obtain ⟨k,same⟩ : ∃ k : Nat, f = e - 400 + k := ⟨(f - (e - 400)).toNat,by omega⟩
    rw [same,decimal_gridPoint] at attracted ⊢
    exact ⟨_,attracted,le_rfl⟩
  · -- It lies below the power of ten that leads the number.
    have first := (leading_bounds nonzero).2.1
    have leads : x.leading - 1 = e + n := by omega
    have below : m * (10 : ℚ) ^ f * scale ≤ gridPoint (e + n) 1 := by
      have short : (m : ℚ) ≤ 10 ^ ((n + 1 : Nat) : Int) := by
        rw [zpow_natCast]
        exact_mod_cast ((decimalLength_le (Nat.succ_pos n)).mp few).le
      have ordered : (10 : ℚ) ^ (((n + 1 : Nat) : Int) + f) ≤ 10 ^ (((e + n : Nat) : Int) - 400) :=
        zpow_le_zpow_right₀ (by norm_num) (by omega)
      rw [zpow_add₀ (by norm_num)] at ordered
      calc m * (10 : ℚ) ^ f * scale
          ≤ 10 ^ ((n + 1 : Nat) : Int) * 10 ^ f * scale :=
            mul_le_mul_of_nonneg_right
              (mul_le_mul_of_nonneg_right short (zpow_pos (by norm_num) f).le) scale_pos.le
        _ ≤ 10 ^ (((e + n : Nat) : Int) - 400) * scale :=
            mul_le_mul_of_nonneg_right ordered scale_pos.le
        _ = gridPoint (e + n) 1 := by rw [gridLine,gridPoint,Nat.cast_one,one_mul]
    rw [leads] at first
    rw [gridPoint_finer] at below first
    refine ⟨_,attracted.between x.attracts_self below first,?_⟩
    rw [abs_of_nonpos (by linarith),abs_of_nonpos (by linarith)]
    linarith

/-- A neighbour of a number has no more digits than lie before its grid, or is a power of ten. -/
theorem candidate?_le {n : Nat} (nonzero : x.units ≠ 0) (place : e + n = x.leading)
    (found : x.candidate? e = some d) : d ≤ 10 ^ n := by
  obtain ⟨attracted,nearest⟩ := candidate?_some found
  have last := (leading_bounds nonzero).2.2
  rw [← place,gridPoint_finer,one_mul] at last
  by_contra beyond
  have farther := gridPoint_lt (e := e) (not_le.mp beyond)
  have least := nearest _ (x.attracts_self.between attracted last.le farther.le)
  rw [abs_of_pos (by linarith),abs_of_pos (by linarith)] at least
  linarith

/-- The decimal of a number, before zeros are dropped from its end. -/
theorem shortest_found (nonzero : x.units ≠ 0) : ∃ e d n, e + (n + 1) = x.leading ∧
    x.shortest = strip 400 ⟨d,(e : Int) - 400⟩ ∧ x.candidate? e = some d ∧
      ∀ j, e < j → j < x.leading → x.candidate? j = none := by
  have long := (leading_bounds nonzero).1
  obtain ⟨found,searched⟩ := Option.isSome_iff_exists.mp (search_succeeds nonzero)
  obtain ⟨e,d,within,_,candidate,same,before⟩ := search_some searched
  refine ⟨e,d,x.leading - 1 - e,by omega,?_,candidate,fun j above below => before j above (by omega)⟩
  rw [shortest,if_neg nonzero,searched,Option.getD_some,same]

end Shortest

def magnitude (x : Binary64) : ℚ := x.units / scale

end Binary64

namespace Decimal

variable {number : Decimal} {x : Binary64}

def Reads (number : Decimal) (x : Binary64) : Prop :=
  .ofDecimal x.negative number.digits number.exponent = x

/-- A decimal is read back as a number. None with fewer digits is, and of those with as many none is
nearer to the number. -/
structure Shortest (number : Decimal) (x : Binary64) : Prop where
  reads : number.Reads x
  fewest : ∀ other : Decimal, other.Reads x → decimalLength number.digits ≤ decimalLength other.digits
  nearest : ∀ other : Decimal, other.Reads x →
    decimalLength other.digits ≤ decimalLength number.digits →
      |number.value - x.magnitude| ≤ |other.value - x.magnitude|

theorem reads_iff (finite : x.isFinite = true) :
    number.Reads x ↔ x.Attracts (number.value * Binary64.scale) := by
  rw [Reads,Binary64.ofDecimal_eq_iff finite,value]
  exact and_iff_right rfl

theorem distance (number : Decimal) (x : Binary64) : |number.value - x.magnitude| =
    |number.value * Binary64.scale - x.units| / Binary64.scale := by
  have positive := Binary64.scale_pos
  rw [Binary64.magnitude]
  generalize (Binary64.scale : ℚ) = unit at positive ⊢
  rw [← abs_of_pos positive,← abs_div,abs_of_pos positive,sub_div,mul_div_cancel_right₀ _ positive.ne']

end Decimal

open Binary64 in
/-- What is written for a finite number is its shortest decimal. -/
theorem Binary64.shortest_spec {x : Binary64} (finite : x.isFinite = true) :
    x.shortest.Shortest x := by
  by_cases zero : x.units = 0
  · have same : x.shortest = ⟨0,0⟩ := by rw [shortest,if_pos zero]
    have nothing : (⟨0,0⟩ : Decimal).value = 0 := by simp [Decimal.value]
    have self := x.attracts_self
    rw [zero,Nat.cast_zero] at self
    rw [same]
    refine ⟨?_,fun other _ => Nat.length_toDigits_pos,fun other _ _ => ?_⟩
    · rw [Decimal.reads_iff finite,nothing,zero_mul]
      exact self
    · rw [nothing,magnitude,zero,Nat.cast_zero,zero_div,sub_zero,abs_zero]
      exact abs_nonneg _
  · obtain ⟨e,d,n,place,same,candidate,before⟩ := shortest_found zero
    obtain ⟨attracted,nearest⟩ := candidate?_some candidate
    have within := candidate?_le zero place candidate
    have point : x.shortest.value * scale = gridPoint e d := by
      have grid := decimal_gridPoint d e 0
      rw [Nat.cast_zero,add_zero,pow_zero,mul_one] at grid
      rw [same,strip_value]
      exact grid
    have few : decimalLength x.shortest.digits ≤ n + 1 := by
      rw [same]
      exact (decimalLength_le (Nat.succ_pos n)).mpr (strip_lt within)
    refine ⟨?_,fun other reads => ?_,fun other reads short => ?_⟩
    · rw [Decimal.reads_iff finite,point]
      exact attracted
    · rw [Decimal.reads_iff finite] at reads
      refine few.trans (Nat.succ_le_of_lt (not_le.mp fun fewer => ?_))
      -- With fewer digits it would have an attracted point on the next coarser grid.
      have one : 0 < decimalLength other.digits := Nat.length_toDigits_pos
      obtain ⟨n,rfl⟩ : ∃ k, n = k + 1 := ⟨n - 1,by omega⟩
      have coarser : e + 1 + (n + 1) = x.leading := by omega
      obtain ⟨m,passed,_⟩ := onto_grid zero coarser reads fewer
      exact candidate?_none (before (e + 1) (by omega) (by omega)) m passed
    · rw [Decimal.reads_iff finite] at reads
      obtain ⟨m,passed,nearer⟩ := onto_grid zero place reads (short.trans few)
      rw [Decimal.distance,Decimal.distance,point]
      exact div_le_div_of_nonneg_right ((nearest m passed).trans nearer) scale_pos.le

end RoomTransfer.Number
