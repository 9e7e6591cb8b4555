import RoomTransfer.Proofs.DecimalText
import RoomTransfer.Proofs.EventTable

/-! Numbers with a fraction as part of a name. A database writes them as plain decimals whatever
their size; here only those of moderate size are. -/
namespace RoomTransfer.Number

section Digits

variable {n : Nat}

theorem paddedDigits_one (small : n < 10) : paddedDigits 1 n = [n.digitChar] := by
  simp [paddedDigits,digits,Nat.toDigits_of_lt_base small]

theorem paddedDigits_succ (width n : Nat) :
    paddedDigits (width + 2) n = paddedDigits (width + 1) (n / 10) ++ [(n % 10).digitChar] := by
  unfold paddedDigits digits
  by_cases small : n < 10
  · have none : n / 10 = 0 := by omega
    have same : n % 10 = n := by omega
    simp [none,same,Nat.toDigits_of_lt_base small,Nat.toDigits_zero,List.replicate_succ']
  · rw [Nat.toDigits_of_base_le (by decide) (by omega)]
    simp

/-- Digits taken apart in front of the last ones. -/
theorem digits_split {width : Nat} (long : 10 ^ (width + 1) ≤ n) : digits n =
    digits (n / 10 ^ (width + 1)) ++ paddedDigits (width + 1) (n % 10 ^ (width + 1)) := by
  have last {n : Nat} (long : 10 ≤ n) : digits n = digits (n / 10) ++ [(n % 10).digitChar] :=
    Nat.toDigits_of_base_le (by decide) long
  induction width generalizing n with
  | zero => rw [Nat.zero_add,pow_one] at *; rw [last long,paddedDigits_one (Nat.mod_lt _ (by decide))]
  | succ width ih =>
    have power : 10 ^ (width + 1 + 1) = 10 * 10 ^ (width + 1) := Nat.pow_succ'
    have positive : 0 < 10 ^ (width + 1) := Nat.pow_pos (by decide)
    have shorter : 10 ^ (width + 1) ≤ n / 10 := by omega
    rw [last (by omega),ih shorter,paddedDigits_succ,power,Nat.div_div_eq_div_mul,
      Nat.mod_mul_right_div_self,Nat.mod_mul_right_mod,List.append_assoc]

theorem digits_shift (some : n ≠ 0) (places : Nat) :
    digits (n * 10 ^ places) = digits n ++ List.replicate places '0' := by
  induction places with
  | zero => simp
  | succ places ih =>
    have positive : 0 < n * 10 ^ places := Nat.mul_pos (by omega) (Nat.pow_pos (by decide))
    have shifted : n * 10 ^ (places + 1) = 10 * (n * 10 ^ places) + 0 := by ring
    have zero : Nat.toDigits 10 0 = ['0'] := rfl
    have step := Nat.toDigits_append_toDigits (b := 10) (by decide) positive (d := 0) (by decide)
    rw [shifted,digits,← step,zero,List.replicate_succ',← List.append_assoc,← ih]
    rfl

end Digits

/-- A decimal in plain notation: its whole part, and behind the point as many places as it has, at
least one. -/
def Decimal.expansion (d : Decimal) : List Char :=
  if d.digits = 0 ∨ 0 ≤ d.exponent then
    Number.digits (d.digits * 10 ^ d.exponent.toNat) ++ ['.','0']
  else
    let places := d.exponent.natAbs
    Number.digits (d.digits / 10 ^ places) ++ '.' :: paddedDigits places (d.digits % 10 ^ places)

/-- A decimal is worth as much in plain notation. -/
theorem writtenMagnitude?_expansion (d : Decimal) : writtenMagnitude? d.expansion = some d.value := by
  have number (n : Nat) : AllDigits (digits n) := allDigits_digits n
  have first (n : Nat) : digits n ≠ [] := Nat.toDigits_ne_nil
  unfold Decimal.expansion
  by_cases whole : d.digits = 0 ∨ 0 ≤ d.exponent
  · have text := writtenMagnitude?_point (digits (d.digits * 10 ^ d.exponent.toNat)) ['0'] [] (number _)
      (first _) (allDigits_zeros 1) rfl
    rw [if_pos whole]
    refine text.trans ?_
    have shifted (n : Nat) : Nat.ofDigitChars 10 ['0'] n = 10 * n := by simp [Nat.ofDigitChars]
    rw [Nat.ofDigitChars_append,ofDigitChars_digits,shifted,Decimal.value]
    refine congrArg some ?_
    have one : (10 : ℚ) ^ ((0 : Int) - (['0'].length : Nat)) = 1 / 10 := by norm_num
    change (_ : ℚ) * 10 ^ ((0 : Int) - (['0'].length : Nat)) = _
    rw [one]
    rcases whole with zero | whole
    · simp [zero]
    · obtain ⟨k,same⟩ : ∃ k : Nat, d.exponent = k := ⟨d.exponent.toNat,by omega⟩
      rw [same,Int.toNat_natCast,zpow_natCast]
      push_cast
      ring
  · obtain ⟨k,same⟩ : ∃ k : Nat, d.exponent = -(k + 1 : Nat) := ⟨d.exponent.natAbs - 1,by omega⟩
    have positive : 0 < 10 ^ (k + 1) := Nat.pow_pos (by decide)
    have behind : (paddedDigits (k + 1) (d.digits % 10 ^ (k + 1))).length = k + 1 :=
      length_paddedDigits (Nat.mod_lt d.digits positive)
    have text := writtenMagnitude?_point (digits (d.digits / 10 ^ (k + 1)))
      (paddedDigits (k + 1) (d.digits % 10 ^ (k + 1))) [] (number _) (first _)
      ((allDigits_zeros _).append (number _)) rfl
    have worth : Nat.ofDigitChars 10 (paddedDigits (k + 1) (d.digits % 10 ^ (k + 1))) 0 =
        d.digits % 10 ^ (k + 1) := by
      rw [paddedDigits,ofDigitChars_zeros_append,ofDigitChars_digits]
    have whole : d.digits / 10 ^ (k + 1) * 10 ^ (k + 1) + d.digits % 10 ^ (k + 1) = d.digits :=
      Nat.div_add_mod' _ _
    rw [if_neg ‹_›,same,Int.natAbs_neg,Int.natAbs_natCast]
    rw [List.append_nil] at text
    refine text.trans ?_
    rw [Nat.ofDigitChars_append,ofDigitChars_digits,Nat.ofDigitChars_eq_ofDigitChars_zero,behind,worth,
      Nat.mul_comm,whole,Decimal.value,same]
    simp [writtenExponent?]

namespace Binary64

variable {n : Nat}

theorem positional_eq_expansion (some : n ≠ 0) (exponent : Int) :
    positional (digits n) ((digits n).length + exponent) = (Decimal.mk n exponent).expansion := by
  obtain ⟨least,most⟩ := digits_bounds some
  have first : 0 < (digits n).length := Nat.length_toDigits_pos
  unfold positional Decimal.expansion
  dsimp only
  by_cases whole : 0 ≤ exponent
  · obtain ⟨places,rfl⟩ : ∃ k : Nat, exponent = k := ⟨exponent.toNat,by omega⟩
    have point : ((digits n).length + (places : Int)).toNat = (digits n).length + places := by omega
    rw [if_neg (by omega),if_pos (c := n = 0 ∨ _) (.inr whole),point,if_pos (by omega),Int.toNat_natCast,
      digits_shift some,Nat.add_sub_cancel_left]
  · obtain ⟨k,rfl⟩ : ∃ k : Nat, exponent = -(k + 1 : Nat) := ⟨exponent.natAbs - 1,by omega⟩
    have places : (-((k + 1 : Nat) : Int)).natAbs = k + 1 := by omega
    rw [if_neg (c := n = 0 ∨ _) (not_or.mpr ⟨some,whole⟩),places]
    by_cases short : (digits n).length ≤ k + 1
    · have small : n < 10 ^ (k + 1) := most.trans_le (Nat.pow_le_pow_right (by decide) short)
      have missing : ((digits n).length + -((k + 1 : Nat) : Int)).natAbs = k + 1 - (digits n).length := by
        omega
      rw [if_pos (by omega),Nat.div_eq_of_lt small,Nat.mod_eq_of_lt small,missing]
      rfl
    · have long : 10 ^ (k + 1) ≤ n :=
        (Nat.pow_le_pow_right (by decide) (by omega)).trans least
      have parts := digits_split long
      have behind : (paddedDigits (k + 1) (n % 10 ^ (k + 1))).length = k + 1 :=
        length_paddedDigits (Nat.mod_lt n (Nat.pow_pos (by decide)))
      have total := congrArg List.length parts
      rw [List.length_append,behind] at total
      have point : ((digits n).length + -((k + 1 : Nat) : Int)).toNat =
          (digits (n / 10 ^ (k + 1))).length := by omega
      rw [if_neg (by omega),point,if_neg (by omega),parts,List.take_left,List.drop_left]

section Size

variable {d : Decimal}

theorem power_pos (e : Int) : (0 : ℚ) < 10 ^ e := zpow_pos (by norm_num) e

theorem value_nonneg (d : Decimal) : 0 ≤ d.value :=
  mul_nonneg (Nat.cast_nonneg _) (power_pos _).le

theorem value_eq_zero : d.value = 0 ↔ d.digits = 0 := by
  simp [Decimal.value,(power_pos d.exponent).ne']

/-- The position of the point tells between which powers of ten a decimal lies. -/
theorem value_bounds (some : d.digits ≠ 0) :
    (10 : ℚ) ^ ((digits d.digits).length + d.exponent - 1) ≤ d.value ∧
      d.value < (10 : ℚ) ^ ((digits d.digits).length + d.exponent) := by
  obtain ⟨least,most⟩ := digits_bounds some
  have first : 0 < (digits d.digits).length := Nat.length_toDigits_pos
  have power := power_pos d.exponent
  have low : ((digits d.digits).length + d.exponent - 1 : Int) =
      ((digits d.digits).length - 1 : Nat) + d.exponent := by omega
  rw [low,zpow_add₀ (by norm_num),zpow_add₀ (by norm_num),zpow_natCast,zpow_natCast]
  constructor
  · exact mul_le_mul_of_nonneg_right (by exact_mod_cast least) power.le
  · exact mul_lt_mul_of_pos_right (by exact_mod_cast most) power

theorem value_moderate (some : d.digits ≠ 0) :
    ((10 : ℚ) ^ (-4 : Int) ≤ d.value ∧ d.value < (10 : ℚ) ^ (16 : Int)) ↔
      (structured.positionalFrom ≤ (digits d.digits).length + d.exponent ∧
        (digits d.digits).length + d.exponent ≤ structured.positionalBelow) := by
  obtain ⟨least,most⟩ := value_bounds some
  have first : structured.positionalFrom = -3 := rfl
  have last : structured.positionalBelow = 16 := rfl
  have ten : (1 : ℚ) < 10 := by norm_num
  constructor
  · rintro ⟨above,below⟩
    have low := (zpow_lt_zpow_iff_right₀ ten).mp (above.trans_lt most)
    have high := (zpow_lt_zpow_iff_right₀ ten).mp (least.trans_lt below)
    omega
  · rintro ⟨low,high⟩
    exact ⟨((zpow_le_zpow_iff_right₀ ten).mpr (by omega)).trans least,
      most.trans_le ((zpow_le_zpow_iff_right₀ ten).mpr high)⟩

end Size

/-- Zero, and magnitudes from a ten-thousandth up to ten million milliards. -/
def Moderate (x : Binary64) : Prop :=
  x.worth = 0 ∨ (10 : ℚ) ^ (-4 : Int) ≤ |x.worth| ∧ |x.worth| < (10 : ℚ) ^ (16 : Int)

/-- A number in plain notation. -/
def expansion (x : Binary64) : List Char :=
  if x.negative then '-' :: x.shortest.expansion else x.shortest.expansion

/-- A number is worth as much in plain notation. -/
theorem written_expansion (x : Binary64) : written? x.expansion = some x.worth := by
  have magnitude := writtenMagnitude?_expansion x.shortest
  unfold expansion worth
  cases x.negative with
  | true => simp [written?,magnitude]
  | false => exact written?_of_magnitude magnitude

theorem abs_worth (x : Binary64) : |x.worth| = x.shortest.value := by
  have nonneg := value_nonneg x.shortest
  unfold worth
  split
  · rw [abs_neg,abs_of_nonneg nonneg]
  · exact abs_of_nonneg nonneg

theorem worth_eq_zero {x : Binary64} : x.worth = 0 ↔ x.shortest.digits = 0 := by
  rw [← abs_eq_zero,abs_worth,value_eq_zero]

theorem expansion_plain (d : Decimal) : ∀ c ∈ d.expansion, c.isDigit = true ∨ c = '.' := by
  have all (n : Nat) (c : Char) (member : c ∈ digits n) : c.isDigit = true := allDigits_digits n c member
  have padded (width n : Nat) (c : Char) (member : c ∈ paddedDigits width n) : c.isDigit = true :=
    (allDigits_zeros _).append (allDigits_digits n) c member
  unfold Decimal.expansion
  intro c member
  split at member
  · rcases List.mem_append.mp member with digit | tail
    · exact .inl (all _ c digit)
    · simp only [List.mem_cons,List.not_mem_nil,or_false] at tail
      rcases tail with rfl | rfl
      · exact .inr rfl
      · exact .inl rfl
  · rcases List.mem_append.mp member with digit | tail
    · exact .inl (all _ c digit)
    · rcases List.mem_cons.mp tail with rfl | digit
      · exact .inr rfl
      · exact .inl (padded _ _ c digit)

theorem exponential_marked (ds : List Char) (exponent : Int) : 'e' ∈ exponential ds exponent := by
  simp [exponential]

theorem magnitudeText_moderate {x : Binary64} (moderate : x.Moderate) :
    x.magnitudeText structured = x.shortest.expansion := by
  unfold Moderate at moderate
  rw [worth_eq_zero,abs_worth] at moderate
  unfold magnitudeText
  dsimp only
  by_cases zero : x.shortest.digits = 0
  · rw [if_pos zero,Decimal.expansion,if_pos (.inl zero),zero,Nat.zero_mul]
    rfl
  · have range := (value_moderate zero).mp (moderate.resolve_left zero)
    rw [if_neg zero,if_pos range]
    exact positional_eq_expansion zero _

theorem magnitudeText_marked {x : Binary64} (other : ¬x.Moderate) : 'e' ∈ x.magnitudeText structured := by
  unfold Moderate at other
  rw [worth_eq_zero,abs_worth] at other
  obtain ⟨zero,range⟩ := not_or.mp other
  unfold magnitudeText
  dsimp only
  rw [if_neg zero,if_neg (mt (value_moderate zero).mpr range)]
  exact exponential_marked _ _

theorem expansion_unmarked (x : Binary64) : 'e' ∉ x.expansion := by
  have plain : 'e' ∉ x.shortest.expansion := fun member =>
    (expansion_plain _ 'e' member).elim (by decide) (by decide)
  unfold expansion
  split
  · exact fun member => (List.mem_cons.mp member).elim (by decide) plain
  · exact plain

theorem text_marked {x : Binary64} (finite : x.isFinite = true) (other : ¬x.Moderate) :
    'e' ∈ x.text structured := by
  have marked := magnitudeText_marked other
  rw [text_finite structured finite]
  split
  · exact List.mem_cons_of_mem '-' marked
  · exact marked

/-- A finite number is written in plain notation just if it is of moderate size. -/
theorem text_eq_expansion {x : Binary64} (finite : x.isFinite = true) :
    x.text structured = x.expansion ↔ x.Moderate := by
  constructor
  · intro same
    by_contra other
    have marked := text_marked finite other
    rw [same] at marked
    exact x.expansion_unmarked marked
  · intro moderate
    rw [text_finite structured finite,magnitudeText_moderate moderate,expansion]

end Binary64

end RoomTransfer.Number

namespace RoomTransfer

open Number Number.Binary64

namespace Value

/-- The text that a database has for a scalar of a document: a text is itself, and numbers stand in
plain notation. -/
def databaseText? : Value → Option String
  | .text s => some s
  | .bool b => some (if b then "true" else "false")
  | .int i => some (toString i)
  | .float x => if x.isFinite then some (String.ofList x.expansion) else none
  | _ => none

/-- A number with a fraction is of moderate size. -/
def Moderate (v : Value) : Prop := ∀ x, v = .float x → x.Moderate

theorem integerText_eq (i : Int) : String.ofList (integerText i) = toString i := by
  cases i with
  | ofNat n => exact Nat.toString_eq_ofList_toDigits.symm
  | negSucc n =>
    have magnitude : toString (n + 1) = String.ofList (digits (n + 1)) :=
      Nat.toString_eq_ofList_toDigits
    have whole : toString (Int.negSucc n) = "-" ++ toString (n + 1) := rfl
    rw [whole,magnitude,integerText,if_pos (Int.negSucc_lt_zero n)]
    exact String.toList_inj.mp (by simp)

variable {v : Value} {s : String}

theorem float_of_not_moderate (other : ¬v.Moderate) : ∃ x, v = .float x ∧ ¬x.Moderate := by
  obtain ⟨x,unlike⟩ := not_forall.mp other
  obtain ⟨same,large⟩ := Classical.not_imp.mp unlike
  exact ⟨x,same,large⟩

theorem finite_of_databaseText? {x : Binary64} (scalar : (Value.float x).databaseText? = some s) :
    x.isFinite = true ∧ s = String.ofList x.expansion := by
  dsimp only [databaseText?] at scalar
  split at scalar
  · next finite => exact ⟨finite,(Option.some.inj scalar).symm⟩
  · cases scalar

/-- A scalar gets the text that a database has for it just if it is no number of another size. -/
theorem rendered_eq_iff (scalar : v.databaseText? = some s) : v.rendered = s ↔ v.Moderate := by
  have moderate (other : ∀ x, v ≠ .float x) : v.Moderate := fun x same => absurd same (other x)
  cases v with
  | text t =>
    obtain rfl := Option.some.inj scalar
    exact iff_of_true rfl (moderate nofun)
  | bool b =>
    obtain rfl := Option.some.inj scalar
    refine iff_of_true ?_ (moderate nofun)
    cases b <;> rfl
  | int i =>
    obtain rfl := Option.some.inj scalar
    exact iff_of_true (integerText_eq i) (moderate nofun)
  | float x =>
    obtain ⟨finite,rfl⟩ := finite_of_databaseText? scalar
    have texts : (Value.float x).rendered = String.ofList (x.text structured) := rfl
    have single : (Value.float x).Moderate ↔ x.Moderate :=
      ⟨fun moderate => moderate x rfl,fun moderate y same => Value.float.inj same ▸ moderate⟩
    rw [texts,String.ofList_inj,text_eq_expansion finite,single]
  | _ => cases scalar

/-- A number of another size is written with a power of ten, and worth the same. -/
theorem rendered_marked (scalar : v.databaseText? = some s) (other : ¬v.Moderate) :
    ∃ x, v = .float x ∧ 'e' ∈ v.rendered.toList ∧ written? v.rendered.toList = some x.worth := by
  obtain ⟨x,rfl,large⟩ := float_of_not_moderate other
  obtain ⟨finite,_⟩ := finite_of_databaseText? scalar
  have texts : (Value.float x).rendered.toList = x.text structured := String.toList_ofList
  rw [texts]
  exact ⟨x,rfl,text_marked finite large,written_text structured finite⟩

end Value

namespace Event

variable {row : Row}

theorem drawing_made (agentLabel : Value) (draws : row.get "type" = .text "draw")
    (fit : ¬ Unfit row .draw) (writable : Json.refusal? true (row.get "data") = none) :
    ∃ event, ofRow row agentLabel = .ok (some event) ∧
      EventContent.Table row .draw ⟨event.kind,event.set,event.label,event.data⟩ := by
  have kind : row.get "type" = .text EventType.draw.name := draws
  have decided := ofRow_decided agentLabel kind
  cases result : ofRow row agentLabel with
  | error failure =>
    cases decided.failed result with
    | unfit unfit _ => exact absurd unfit fit
    | unwritable refused => exact absurd writable refused
  | ok found =>
    obtain ⟨event,rfl,_,mapped⟩ := decided.made result
    exact ⟨event,rfl,mapped.content⟩

/-- The name of a drawing's set ends in the text that the database has for its page, and its label is
the text that the database has for its shape, if these are texts, truth values, integers or numbers
of moderate size. Any other number with a fraction stands there with a power of ten, which the
database never writes. -/
theorem drawing_texts (row : Row) (agentLabel : Value) {shape : List (Value × Value)}
    {page id : String} (draws : row.get "type" = .text "draw") (fit : ¬ Unfit row .draw)
    (writable : Json.refusal? true (row.get "data") = none)
    (geometry : row.member "geometry" = .object shape)
    (paged : (row.member "page").databaseText? = some page)
    (named : ((Value.field? shape "_id").getD .null).databaseText? = some id) :
    ∃ url event label, row.Addresses url ∧ ofRow row agentLabel = .ok (some event) ∧
      event.label = some label ∧
      (event.set = "draw_" ++ addressHash url ++ "_" ++ page ↔ (row.member "page").Moderate) ∧
      (label = id ↔ ((Value.field? shape "_id").getD .null).Moderate) ∧
      (¬(row.member "page").Moderate → ∃ x text, row.member "page" = .float x ∧
        event.set = "draw_" ++ addressHash url ++ "_" ++ text ∧
        'e' ∈ text.toList ∧ written? text.toList = some x.worth) ∧
      (¬((Value.field? shape "_id").getD .null).Moderate → ∃ x,
        (Value.field? shape "_id").getD .null = .float x ∧
        'e' ∈ label.toList ∧ written? label.toList = some x.worth) := by
  obtain ⟨event,made,table⟩ := drawing_made agentLabel draws fit writable
  obtain ⟨eventId,room,kind,set,label,data⟩ := event
  cases table with
  | @draw url shape' address _ geometry' _ =>
    cases geometry.symm.trans geometry'
    refine ⟨url,_,_,address,made,rfl,?_,Value.rendered_eq_iff named,?_,Value.rendered_marked named⟩
    · exact (String.append_right_inj _).trans (Value.rendered_eq_iff paged)
    · intro other
      obtain ⟨x,same,marked,worth⟩ := Value.rendered_marked paged other
      exact ⟨x,_,same,rfl,marked,worth⟩

/-- A hundred-thousandth. -/
def thin : Binary64 := ⟨0x3EE4F8B588E368F1⟩

theorem thin_rendered : (Value.float thin).rendered = "1e-05" :=
  congrArg String.ofList (by decide +kernel : thin.text structured = "1e-05".toList)

theorem thin_databaseText? : (Value.float thin).databaseText? = some "0.00001" := by
  have finite : thin.isFinite = true := by decide
  have plain : thin.expansion = "0.00001".toList := by decide +kernel
  rw [Value.databaseText?,if_pos finite,plain,String.ofList_toList]

/-- A drawing on a page with that number. -/
def thinDrawing : Row := drawingRow [(.text "url",.text "a_b"),(.text "page",.float thin)]

theorem thin_fit : ¬ Unfit thinDrawing .draw := by
  have columns : ∀ name ∈ ["id","room_id","created_at","account_id","audience"],
      thinDrawing.get name ≠ .null := by
    intro name required
    simp only [List.mem_cons,List.not_mem_nil,or_false] at required
    rcases required with rfl | rfl | rfl | rfl | rfl <;> nofun
  refine not_unfit columns rfl (.draw ⟨rfl,by decide⟩ ?_ rfl ?_) <;> nofun

/-- The set of a drawing on a small page is named by a power of ten, its label is as in the database. -/
theorem thin_page_marked : ¬ Unfit thinDrawing .draw ∧ Json.refusal? true (thinDrawing.get "data") = none ∧
    (thinDrawing.member "page").databaseText? = some "0.00001" ∧
    (Value.int 7).databaseText? = some "7" ∧
    ∃ url event text, ofRow thinDrawing .null = .ok (some event) ∧ event.label = some "7" ∧
      event.set = "draw_" ++ addressHash url ++ "_" ++ text ∧ 'e' ∈ text.toList := by
  have shape : thinDrawing.member "geometry" = .object [(.text "_id",.int 7)] := rfl
  have label : (Value.int 7).databaseText? = some "7" := rfl
  obtain ⟨url,event,shown,_,made,named,_,same,other,_⟩ :=
    drawing_texts thinDrawing .null rfl thin_fit rfl shape thin_databaseText? label
  have whole : (Value.int 7).Moderate := nofun
  have large : ¬(thinDrawing.member "page").Moderate := fun moderate =>
    absurd (thin_rendered.symm.trans ((Value.rendered_eq_iff thin_databaseText?).mpr moderate)) (by decide)
  obtain ⟨x,text,_,set,marked,_⟩ := other large
  rw [same.mpr whole] at named
  exact ⟨thin_fit,rfl,thin_databaseText?,label,url,event,text,made,named,set,marked⟩

/-- The database has another text for the page. -/
theorem thin_page_misnamed : (thinDrawing.member "page").databaseText? = some "0.00001" ∧
    ∃ event, ofRow thinDrawing .null = .ok (some event) ∧
      event.set ≠ "draw_" ++ addressHash "a_b" ++ "_" ++ "0.00001" := by
  refine ⟨thin_databaseText?,_,rfl,fun same => ?_⟩
  have page : (Value.float thin).rendered = "0.00001" := (String.append_right_inj _).mp same
  exact absurd (thin_rendered.symm.trans page) (by decide)

end Event

end RoomTransfer
