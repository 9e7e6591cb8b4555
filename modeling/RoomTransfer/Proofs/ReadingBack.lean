import RoomTransfer.Number.Reading
import RoomTransfer.Proofs.ShortestDecimal

/-! Reading a number back from its text. What a text is worth tells the decimal that the reader takes
from it. The reader bounds exponents, which changes no decimal between `10 ^ -400` and `10 ^ 400`. -/
namespace RoomTransfer.Number

namespace Binary64

section Digits

variable {ds rest : List Char} {value : Nat}

theorem isDigit_bounds {c : Char} (digit : c.isDigit = true) : 0x30 ≤ c.toNat ∧ c.toNat ≤ 0x39 := by
  simpa [Char.isDigit,UInt32.le_iff_toNat_le] using digit

theorem digitValue?_isDigit {c : Char} (digit : c.isDigit = true) :
    Text.digitValue? c = some (c.toNat - '0'.toNat) := by
  have bounds := isDigit_bounds digit
  have below : c.toNat < 0x30 + 10 := by omega
  simp [Text.digitValue?,Text.zeroDigits,bounds,below]

/-- Reading digits ends in front of this. -/
def Ends (rest : List Char) : Prop := ∀ c ∈ rest.head?, Text.digitValue? c = none

theorem ofDigitChars_lt (all : AllDigits ds) (value : Nat) :
    Nat.ofDigitChars 10 ds value < (value + 1) * 10 ^ ds.length := by
  induction ds generalizing value with
  | nil => simp
  | cons c ds ih =>
    have bounds := isDigit_bounds (all c List.mem_cons_self)
    have zero : '0'.toNat = 0x30 := rfl
    have more := ih (fun d member => all d (List.mem_cons_of_mem _ member))
      (10 * value + (c.toNat - '0'.toNat))
    rw [Nat.ofDigitChars_cons,List.length_cons,Nat.pow_succ',← Nat.mul_assoc]
    exact more.trans_le (Nat.mul_le_mul_right _ (by omega))

theorem leadingDigits_append (all : AllDigits ds) (ends : Ends rest) (value count : Nat) :
    leadingDigits value count (ds ++ rest) =
      (Nat.ofDigitChars 10 ds value,count + ds.length,rest) := by
  induction ds generalizing value count with
  | nil =>
    cases rest with
    | nil => rfl
    | cons c rest => simp [leadingDigits,ends c rfl]
  | cons c ds ih =>
    have digit := digitValue?_isDigit (all c List.mem_cons_self)
    have more := ih fun d member => all d (List.mem_cons_of_mem _ member)
    have length : count + 1 + ds.length = count + (ds.length + 1) := by omega
    rw [List.cons_append,leadingDigits,digit]
    dsimp only
    rw [more,Nat.ofDigitChars_cons,List.length_cons,Nat.mul_comm 10 value,length]

theorem leadingDigits_natural (written : writtenNatural? ds = some value) :
    leadingDigits 0 0 ds = (value,ds.length,[]) ∧ ds ≠ [] ∧ AllDigits ds := by
  unfold writtenNatural? at written
  split at written
  · next some =>
    have all : AllDigits ds := List.all_eq_true.mp some.2
    have read : leadingDigits 0 0 (ds ++ []) = _ := leadingDigits_append all (by simp [Ends]) 0 0
    rw [List.append_nil,Nat.zero_add,Option.some.inj written] at read
    exact ⟨read,some.1,all⟩
  · cases written

end Digits

section Exponents

variable {rest ds : List Char} {e : Int} {digits count : Nat} {q : ℚ}

/-- What ends a text. -/
inductive Ending : List Char → Int → Prop
  | nothing : Ending [] 0
  | large (ds : List Char) (n : Nat) : writtenNatural? ds = some n → Ending ('e' :: '+' :: ds) n
  | small (ds : List Char) (n : Nat) : writtenNatural? ds = some n → Ending ('e' :: '-' :: ds) (-n)

theorem ending_iff : writtenExponent? rest = some e ↔ Ending rest e := by
  constructor
  · intro written
    unfold writtenExponent? at written
    split at written
    · cases written
      exact .nothing
    · next ds =>
      cases natural : writtenNatural? ds with
      | none => simp [natural] at written
      | some n =>
        obtain rfl : (n : Int) = e := by simpa [natural] using written
        exact .large ds n natural
    · next ds =>
      cases natural : writtenNatural? ds with
      | none => simp [natural] at written
      | some n =>
        obtain rfl : -(n : Int) = e := by simpa [natural] using written
        exact .small ds n natural
    · cases written
  · intro ending
    cases ending with
    | nothing => rfl
    | large ds n natural => simp [writtenExponent?,natural]
    | small ds n natural => simp [writtenExponent?,natural]

theorem Ending.ends (ending : Ending rest e) : Ends rest := by
  have letter : Text.digitValue? 'e' = none := by decide
  cases ending <;> simp [Ends,letter]

theorem Ending.exponent? (ending : Ending rest e) : exponent? rest = some e := by
  cases ending with
  | nothing => rfl
  | large ds n natural =>
    obtain ⟨read,some,_⟩ := leadingDigits_natural natural
    obtain ⟨k,long⟩ := Nat.exists_eq_succ_of_ne_zero (mt List.length_eq_zero_iff.mp some)
    simp [Binary64.exponent?,read,long]
  | small ds n natural =>
    obtain ⟨read,some,_⟩ := leadingDigits_natural natural
    obtain ⟨k,long⟩ := Nat.exists_eq_succ_of_ne_zero (mt List.length_eq_zero_iff.mp some)
    simp [Binary64.exponent?,read,long]

/-- The bounds of the exponents leave a moderate decimal as it is. -/
theorem clampExponent_value (same : digits * (10 : ℚ) ^ e = q) (few : digits < 10 ^ count)
    (moderate : q = 0 ∨ 10 ^ (-400 : Int) ≤ q ∧ q ≤ 10 ^ (400 : Int)) :
    digits * (10 : ℚ) ^ clampExponent count e = q := by
  by_cases zero : digits = 0
  · rw [← same,zero,Nat.cast_zero,zero_mul,zero_mul]
  · have least : (1 : ℚ) ≤ digits := by exact_mod_cast Nat.pos_of_ne_zero zero
    have power : (0 : ℚ) < 10 ^ e := zpow_pos (by norm_num) e
    have positive : q ≠ 0 := by
      rw [← same]
      positivity
    obtain ⟨above,below⟩ := moderate.resolve_left positive
    have ten : (1 : ℚ) < 10 := by norm_num
    have high : e ≤ 400 := by
      rw [← zpow_le_zpow_iff_right₀ ten]
      exact (le_mul_of_one_le_left power.le least).trans (same.trans_le below)
    have low : (-400 : Int) < count + e := by
      have digits_lt : (digits : ℚ) < 10 ^ (count : Int) := by
        rw [zpow_natCast]
        exact_mod_cast few
      rw [← zpow_lt_zpow_iff_right₀ ten,zpow_add₀ (by norm_num)]
      exact above.trans_lt (same.symm.trans_lt (mul_lt_mul_of_pos_right digits_lt power))
    have inside : clampExponent count e = e := by
      unfold clampExponent
      omega
    rw [inside,same]

end Exponents

section Magnitudes

variable {cs : List Char} {q : ℚ} {negative : Bool}

/-- How a text without a sign is made up. -/
inductive Shape : List Char → ℚ → Prop
  | whole {ds rest : List Char} {e : Int} : AllDigits ds → ds ≠ [] → Ending rest e →
      Shape (ds ++ rest) (Nat.ofDigitChars 10 ds 0 * 10 ^ e)
  | point {ds fraction rest : List Char} {e : Int} : AllDigits ds → ds ≠ [] → AllDigits fraction →
      Ending rest e → Shape (ds ++ '.' :: (fraction ++ rest))
        (Nat.ofDigitChars 10 (ds ++ fraction) 0 * 10 ^ (e - fraction.length))

theorem allDigits_takeWhile (cs : List Char) : AllDigits (cs.takeWhile Char.isDigit) :=
  List.all_eq_true.mp List.all_takeWhile

theorem shape_of_written (written : writtenMagnitude? cs = some q) : Shape cs q := by
  have parts := List.takeWhile_append_dropWhile (p := Char.isDigit) (l := cs)
  have all := allDigits_takeWhile cs
  unfold writtenMagnitude? at written
  dsimp only at written
  split at written
  · cases written
  · next some =>
    obtain ⟨e,ending,rfl⟩ := Option.map_eq_some_iff.mp written
    rw [ending_iff] at ending
    generalize cs.takeWhile Char.isDigit = ds at *
    generalize cs.dropWhile Char.isDigit = tail at *
    subst parts
    unfold writtenFraction at ending ⊢
    split at ending
    · next rest =>
      have behind := List.takeWhile_append_dropWhile (p := Char.isDigit) (l := rest)
      have shape := Shape.point all some (allDigits_takeWhile rest) ending
      rw [behind] at shape
      exact shape
    · have shape := Shape.whole all some ending
      simpa using shape

theorem toLower_isDigit {c : Char} (digit : c.isDigit = true) : c.toLower = c := by
  have bounds : 0x30 ≤ c.val.toNat ∧ c.val.toNat ≤ 0x39 := isDigit_bounds digit
  have letter : 'A'.val.toNat = 0x41 := rfl
  have small : ¬ (c.val ≥ 'A'.val ∧ c.val ≤ 'Z'.val) := by
    simp only [ge_iff_le,UInt32.le_iff_toNat_le]
    omega
  exact dif_neg small

/-- A text that starts with a digit is no word. -/
theorem digits_no_word {ds rest word : List Char} (all : AllDigits ds) (some : ds ≠ [])
    (letter : word.head?.any Char.isDigit = false) : (ds ++ rest).map Char.toLower ≠ word := by
  obtain ⟨d,more,rfl⟩ := List.exists_cons_of_ne_nil some
  have digit := all d List.mem_cons_self
  rintro rfl
  have none : d.toLower.isDigit = false := letter
  rw [toLower_isDigit digit,digit] at none
  cases none

/-- The reader goes on behind a point, if there is one. -/
def afterPoint (value : Nat) : List Char → Nat × Nat × List Char
  | '.' :: rest => leadingDigits value 0 rest
  | rest => (value,0,rest)

theorem magnitude?_digits {ds rest last : List Char} {value count : Nat} (negative : Bool)
    (all : AllDigits ds) (some : ds ≠ []) (ends : Ends rest)
    (after : afterPoint (Nat.ofDigitChars 10 ds 0) rest = (value,count,last)) :
    magnitude? negative (ds ++ rest) = (exponent? last).map fun e =>
      ofDecimal negative value (clampExponent (ds.length + count) (e - count)) := by
  have no_word : ∀ {word : List Char}, word.head?.any Char.isDigit = false →
      (ds ++ rest).map Char.toLower ≠ word := digits_no_word all some
  have read := leadingDigits_append all ends 0 0
  have long := List.length_pos_iff.mpr some
  unfold magnitude?
  dsimp only
  rw [if_neg (not_or.mpr ⟨no_word rfl,no_word rfl⟩),if_neg (no_word rfl),read]
  change (if 0 + ds.length + (afterPoint (Nat.ofDigitChars 10 ds 0) rest).2.1 = 0 then none else
    (exponent? (afterPoint (Nat.ofDigitChars 10 ds 0) rest).2.2).map fun e =>
      ofDecimal negative (afterPoint (Nat.ofDigitChars 10 ds 0) rest).1 (clampExponent
        (0 + ds.length + (afterPoint (Nat.ofDigitChars 10 ds 0) rest).2.1)
        (e - (afterPoint (Nat.ofDigitChars 10 ds 0) rest).2.1))) = _
  rw [after,Nat.zero_add,if_neg (by omega)]

theorem magnitude?_of_written (negative : Bool) (written : writtenMagnitude? cs = some q)
    (moderate : q = 0 ∨ 10 ^ (-400 : Int) ≤ q ∧ q ≤ 10 ^ (400 : Int)) :
    ∃ (digits : Nat) (e : Int), magnitude? negative cs = some (ofDecimal negative digits e) ∧
      digits * (10 : ℚ) ^ e = q := by
  cases shape_of_written written with
  | @whole ds rest e all some ending =>
    have few := ofDigitChars_lt all 0
    rw [Nat.zero_add,Nat.one_mul] at few
    refine ⟨_,_,?_,clampExponent_value rfl few moderate⟩
    have after : afterPoint (Nat.ofDigitChars 10 ds 0) rest = (Nat.ofDigitChars 10 ds 0,0,rest) := by
      cases ending <;> rfl
    rw [magnitude?_digits negative all some ending.ends after,ending.exponent?]
    simp
  | @point ds fraction rest e all some behind ending =>
    have few := ofDigitChars_lt (all.append behind) 0
    have point : Ends ('.' :: (fraction ++ rest)) := by
      have none : Text.digitValue? '.' = none := by decide
      simp [Ends,none]
    have after := leadingDigits_append behind ending.ends (Nat.ofDigitChars 10 ds 0) 0
    rw [Nat.zero_add,Nat.one_mul,List.length_append] at few
    refine ⟨_,_,?_,clampExponent_value rfl few moderate⟩
    rw [magnitude?_digits negative all some point after,ending.exponent?,Nat.ofDigitChars_append,
      Nat.zero_add]
    rfl

end Magnitudes

section Texts

variable {cs : List Char} {q : ℚ} {x : Binary64}

theorem trimBlanks_eq (clean : ∀ c ∈ cs, Text.isNumberBlank c = false) : Text.trimBlanks cs = cs := by
  have stays {cs : List Char} (clean : ∀ c ∈ cs, Text.isNumberBlank c = false) :
      cs.dropWhile Text.isNumberBlank = cs := by
    cases cs with
    | nil => rfl
    | cons c cs => rw [List.dropWhile_cons_of_neg (by simp [clean c])]
  have back : ∀ c ∈ cs.reverse, Text.isNumberBlank c = false := fun c member =>
    clean c (List.mem_reverse.mp member)
  rw [Text.trimBlanks,stays clean,stays back,List.reverse_reverse]

/-- Digits, and what marks a fraction or an exponent. -/
def Plain (cs : List Char) : Prop := ∀ c ∈ cs, c.isDigit = true ∨ c ∈ ['.','e','+','-']

theorem Plain.append {front : List Char} (first : Plain front) (second : Plain cs) :
    Plain (front ++ cs) := fun c member =>
  (List.mem_append.mp member).elim (first c) (second c)

theorem Plain.cons {c : Char} (mark : c ∈ ['.','e','+','-']) (plain : Plain cs) : Plain (c :: cs) :=
  List.forall_mem_cons.mpr ⟨.inr mark,plain⟩

theorem plain_of_digits (all : AllDigits cs) : Plain cs := fun c member => .inl (all c member)

theorem Plain.clean (plain : Plain cs) : ∀ c ∈ cs, Text.isNumberBlank c = false := by
  have marks : ['.','e','+','-'].all (fun c => !Text.isNumberBlank c) = true := rfl
  intro c member
  rcases plain c member with digit | mark
  · have bounds := isDigit_bounds digit
    simp only [Text.isNumberBlank,Bool.or_eq_false_iff,Bool.and_eq_false_iff,decide_eq_false_iff_not]
    omega
  · have none := List.all_eq_true.mp marks c mark
    simpa using none

theorem Ending.plain {rest : List Char} {e : Int} (ending : Ending rest e) : Plain rest := by
  cases ending with
  | nothing => exact plain_of_digits (by simp [AllDigits])
  | large ds n natural =>
    exact .cons (by decide) (.cons (by decide) (plain_of_digits (leadingDigits_natural natural).2.2))
  | small ds n natural =>
    exact .cons (by decide) (.cons (by decide) (plain_of_digits (leadingDigits_natural natural).2.2))

theorem Shape.plain (shape : Shape cs q) : Plain cs := by
  cases shape with
  | whole all some ending => exact (plain_of_digits all).append ending.plain
  | point all some behind ending =>
    exact (plain_of_digits all).append (.cons (by decide) ((plain_of_digits behind).append ending.plain))

theorem Shape.starts (shape : Shape cs q) : ∃ c ∈ cs.head?, c.isDigit = true := by
  have digit {ds rest : List Char} (all : AllDigits ds) (some : ds ≠ []) :
      ∃ c ∈ (ds ++ rest).head?, c.isDigit = true := by
    obtain ⟨c,more,rfl⟩ := List.exists_cons_of_ne_nil some
    exact ⟨c,rfl,all c List.mem_cons_self⟩
  cases shape with
  | whole all some _ => exact digit all some
  | point all some _ _ => exact digit all some

/-- Half a smallest positive number is left where the numbers above zero begin. -/
theorem low_ge (nonzero : x.units ≠ 0) : 1 / 2 ≤ x.low := by
  have some : x.significand ≠ 0 := by
    intro none
    simp [units,none] at nonzero
  have least : (1 : ℚ) ≤ x.significand := by exact_mod_cast Nat.pos_of_ne_zero some
  have gap : (x.gapBelow : ℚ) ≤ 2 := by
    rw [x.gapBelow_eq]
    split <;> norm_num
  have power : (1 : ℚ) ≤ 2 ^ x.shift := one_le_pow₀ (by norm_num)
  rw [low,x.units_cast]
  nlinarith

/-- The finite numbers, counted in smallest positive ones, end well below this power of two. -/
theorem exists_top (finite : x.isFinite = true) : ∃ top, x.shift ≤ top ∧
    2 ^ 53 * Nat.pow 2 top ≤ fine * scale := by
  have field : x.exponentField < 2047 := of_decide_eq_true finite
  refine ⟨2045,?_,by decide +kernel⟩
  unfold shift
  omega

theorem high_le {top : Nat} (within : x.shift ≤ top) : x.high ≤ (2 ^ 53 * Nat.pow 2 top : Nat) := by
  have less : x.significand + 1 ≤ 2 ^ 53 := x.significand_lt
  have wide : 2 ^ x.shift ≤ Nat.pow 2 top := Nat.pow_le_pow_right (by decide) within
  have most : ((x.significand : ℚ) + 1) * 2 ^ x.shift ≤ (2 ^ 53 * Nat.pow 2 top : Nat) := by
    exact_mod_cast Nat.mul_le_mul less wide
  have half : (0 : ℚ) < 2 ^ x.shift := by positivity
  refine le_trans ?_ most
  rw [high,x.units_cast]
  linarith

/-- Finite numbers are moderate. -/
theorem shortest_moderate (finite : x.isFinite = true) : x.shortest.value = 0 ∨
    10 ^ (-400 : Int) ≤ x.shortest.value ∧ x.shortest.value ≤ 10 ^ (400 : Int) := by
  by_cases zero : x.units = 0
  · have none : x.shortest = ⟨0,0⟩ := by rw [shortest,if_pos zero]
    exact .inl (by simp [none,Decimal.value])
  · right
    obtain ⟨above,below⟩ := ((Decimal.reads_iff finite).mp (shortest_spec finite).reads).bounds
    obtain ⟨top,within,widest⟩ := exists_top finite
    have fewest : 2 * scale ≤ fine := by decide +kernel
    have part : (fine : ℚ) = 10 ^ ((400 : Nat) : Int) := power_cast (by decide +kernel)
    have least := (low_ge zero).trans above
    have most := below.trans ((high_le within).trans (Nat.cast_le.mpr widest))
    have unit := scale_pos
    have fewest' : (2 : ℚ) * scale ≤ fine := by exact_mod_cast fewest
    have positive : 0 < x.shortest.value := pos_of_mul_pos_left (by linarith) unit.le
    rw [Nat.cast_ofNat] at part
    rw [Nat.cast_mul] at most
    rw [zpow_neg,← part]
    constructor
    · rw [inv_le_iff_one_le_mul₀ fine_pos]
      have more := mul_le_mul_of_nonneg_left fewest' positive.le
      linarith
    · exact le_of_mul_le_mul_right most unit

/-- A finite number is read back from its text. -/
theorem ofText?_text (layout : Layout) (finite : x.isFinite = true) :
    ofText? (String.ofList (x.text layout)) = some x := by
  have written := written_magnitudeText layout x
  have shape := shape_of_written written
  have reads (negative : Bool) (same : negative = x.negative) :
      magnitude? negative (x.magnitudeText layout) = some x := by
    obtain ⟨digits,e,read,value⟩ := magnitude?_of_written negative written (shortest_moderate finite)
    have back := (Decimal.reads_iff finite).mp (shortest_spec finite).reads
    rw [← value] at back
    rw [read,(ofDecimal_eq_iff finite).mpr ⟨same,back⟩]
  obtain ⟨c,first,digit⟩ := shape.starts
  unfold ofText?
  rw [String.toList_ofList,text_finite layout finite]
  cases sign : x.negative with
  | true =>
    have clean : ∀ c ∈ '-' :: x.magnitudeText layout, Text.isNumberBlank c = false := by
      simpa using ⟨by decide,shape.plain.clean⟩
    rw [if_pos rfl,trimBlanks_eq clean]
    exact reads true sign.symm
  | false =>
    rw [if_neg (by decide),trimBlanks_eq shape.plain.clean]
    have read := reads false sign.symm
    split
    · next same =>
      rw [same] at first
      obtain rfl := Option.some.inj first
      cases digit
    · next same =>
      rw [same] at first
      obtain rfl := Option.some.inj first
      cases digit
    · exact read

end Texts

end Binary64

end RoomTransfer.Number
