import RoomTransfer.Proofs.DecimalText
import RoomTransfer.Proofs.HashText
import RoomTransfer.Proofs.TextReading
import RoomTransfer.Value.Json

/-! The object notation, read back. The reader knows the notation with blanks and escapes wherever it
allows them, and of numbers the integers; it knows nothing of how values are written. It finds again
what was written if that is made of what the notation has a form for. -/
namespace RoomTransfer.Json

open Text Text.Reader

section Reading

def isBlank (c : Char) : Bool := " \t\n\r".toList.contains c

def blanks : Reader Unit := fun cs => some ((),cs.dropWhile isBlank)

/-- A sign or a word, and the blanks behind it. -/
def sign (s : String) : Reader Unit := do mark s; blanks

/-- The next character, which stays where it is. -/
def ahead : Reader Char := fun cs => cs.head?.map fun c => (c,cs)

def next : Reader Char
  | [] => none
  | c :: cs => some (c,cs)

def hexDigit : Reader Nat := do
  let c ← next
  match hexValue? c with
  | some n => return n
  | none => failure

/-- A sixteen-bit unit in four digits. -/
def unit : Reader Nat := do
  let a ← hexDigit
  let b ← hexDigit
  let c ← hexDigit
  let d ← hexDigit
  return ((a * 16 + b) * 16 + c) * 16 + d

/-- The character of a unit, or of a pair of them. Half a pair stands for none. -/
def unitChar : Reader Char := do
  let high ← unit
  if high < 0xD800 ∨ 0xDFFF < high then return Char.ofNat high
  else if high < 0xDC00 then
    mark "\\u"
    let low ← unit
    if 0xDC00 ≤ low ∧ low ≤ 0xDFFF then
      return Char.ofNat (0x10000 + (high - 0xD800) * 0x400 + (low - 0xDC00))
    else failure
  else failure

/-- What stands behind a backslash. -/
def escaped : Char → Reader Char
  | 'u' => unitChar
  | 'b' => return Char.ofNat 0x08
  | 'f' => return Char.ofNat 0x0C
  | 'n' => return '\n'
  | 'r' => return '\r'
  | 't' => return '\t'
  | c => if c = '"' ∨ c = '\\' ∨ c = '/' then return c else failure

/-- A character of a quoted text. Control characters may only stand as escapes. -/
def character : Reader Char := do
  let c ← next
  if c = '\\' then escaped (← next)
  else if c = '"' ∨ c.toNat < 0x20 then failure
  else return c

def quote : Reader String := do
  mark "\""
  let rest ← get
  let cs ← upTo (sign "\"") character (rest.length + 1)
  return String.ofList cs

/-- A number without a sign. No zero stands before other digits. -/
def natural : Reader Nat := do
  let ds ← span Char.isDigit
  if ds.head? = some '0' ∧ ds ≠ ['0'] then failure
  else
    blanks
    return Nat.ofDigitChars 10 ds 0

/-- Items between two signs, with commas between them. -/
def bracketed {α : Type} (opening closing : String) (item : Reader α) : Reader (List α) := do
  sign opening
  separated (sign closing) (sign ",") item

def field (inside : Reader Value) : Reader (String × Value) := do
  let name ← quote
  sign ":"
  let v ← inside
  return (name,v)

/-- The fields of an object; of fields with one name the last counts. -/
def collected (fields : List (String × Value)) : List (Value × Value) :=
  fields.foldl (fun found (name,v) => Value.setField name v found) []

/-- A value by its first character. -/
def startingWith (inside : Reader Value) : Char → Reader Value
  | 'n' => do sign "null"; return .null
  | 't' => do sign "true"; return .bool true
  | 'f' => do sign "false"; return .bool false
  | '"' => do let s ← quote; return .text s
  | '[' => do
    let xs ← bracketed "[" "]" inside
    return .list xs
  | '\x7b' => do
    let fields ← bracketed "\x7b" "\x7d" (field inside)
    return .object (collected fields)
  | '-' => do
    mark "-"
    let n ← natural
    return .int (-(n : Int))
  | _ => do let n ← natural; return .int n

/-- A value that is nested less deep than told. -/
def value : (depth : Nat) → Reader Value
  | 0 => failure
  | depth + 1 => do
    let c ← ahead
    startingWith (value depth) c

def whole (depth : Nat) : Reader Value := do
  blanks
  value depth

/-- What a text says in the notation. No text is nested deeper than it is long. -/
def decode? (s : String) : Option Value := (whole (s.toList.length + 1)).whole? s

end Reading

/-- Values made of what the notation has a form for. Fields of an object have names of their own. -/
inductive Native : Value → Prop
  | null : Native .null
  | bool (b : Bool) : Native (.bool b)
  | int (i : Int) : Native (.int i)
  | text (s : String) : Native (.text s)
  | list {xs : List Value} (each : ∀ x ∈ xs, Native x) : Native (.list xs)
  | object {row : Row} (distinct : (row.map Prod.fst).Nodup) (each : ∀ f ∈ row, Native f.2) :
    Native (Value.ofRow row)

section Layout

variable {x : List Char} {xs : List (List Char)} {sep : List Char}

theorem joined_eq (xs : List (List Char)) : joined xs = ", ".toList.intercalate xs := by
  induction xs with
  | nil => rfl
  | cons x xs ih =>
    cases xs with
    | nil => simp [joined]
    | cons y ys =>
      rw [joined,ih,List.intercalate_cons_cons,List.append_assoc]
      · rfl
      · nofun

theorem itemChars_eq (xs : List Value) : itemChars xs = xs.map chars := by
  induction xs with
  | nil => rfl
  | cons x xs ih => rw [itemChars,ih,List.map_cons]

/-- A field of an object. -/
def written (f : String × Value) : List Char := quoted f.1 ++ (": ".toList ++ chars f.2)

theorem fieldChars_eq (row : Row) :
    fieldChars (row.map fun f => (.text f.1,f.2)) = row.map written := by
  induction row with
  | nil => rfl
  | cons f row ih =>
    rw [List.map_cons,fieldChars,ih,List.map_cons]
    rfl

theorem chars_list (xs : List Value) : chars (.list xs) =
    "[".toList ++ (", ".toList.intercalate (xs.map chars) ++ "]".toList) := by
  rw [chars,joined_eq,itemChars_eq]
  rfl

theorem chars_ofRow (row : Row) : chars (Value.ofRow row) =
    "\x7b".toList ++ (", ".toList.intercalate (row.map written) ++ "\x7d".toList) := by
  rw [Value.ofRow,chars,joined_eq,fieldChars_eq]
  rfl

theorem infix_intercalate (member : x ∈ xs) : x <:+: sep.intercalate xs := by
  induction xs with
  | nil => cases member
  | cons y ys ih =>
    cases ys with
    | nil =>
      obtain rfl : x = y := by simpa using member
      rw [List.intercalate_singleton]
    | cons z zs =>
      rw [List.intercalate_cons_cons]
      rcases List.mem_cons.mp member with rfl | inside
      · rw [List.append_assoc]
        exact (List.prefix_append x _).isInfix
      · exact (ih inside).trans (List.suffix_append _ _).isInfix

theorem mem_intercalate {c : Char} (member : c ∈ sep.intercalate xs) : c ∈ sep ∨ ∃ x ∈ xs, c ∈ x := by
  cases xs with
  | nil => cases member
  | cons y ys =>
    rw [intercalate_cons] at member
    rcases List.mem_append.mp member with here | later
    · exact .inr ⟨y,List.mem_cons_self,here⟩
    · obtain ⟨x,inside,within⟩ := List.mem_flatMap.mp later
      rcases List.mem_append.mp within with between | there
      · exact .inl between
      · exact .inr ⟨x,List.mem_cons_of_mem y inside,there⟩

end Layout

section Parts

variable {rest : List Char}

/-- A text at which a value may end. -/
def Stops (rest : List Char) : Prop := ∀ c ∈ rest.head?, isBlank c = false ∧ c.isDigit = false

theorem dropWhile_of_stops {kind : Char → Bool} (stops : ∀ c ∈ rest.head?, kind c = false) :
    rest.dropWhile kind = rest := by
  cases rest with
  | nil => rfl
  | cons c cs => rw [List.dropWhile_cons_of_neg (by simp [stops c rfl])]

theorem takeWhile_of_stops {kind : Char → Bool} (stops : ∀ c ∈ rest.head?, kind c = false) :
    rest.takeWhile kind = [] := by
  cases rest with
  | nil => rfl
  | cons c cs => rw [List.takeWhile_cons_of_neg (by simp [stops c rfl])]

theorem blanks_reads {bs : List Char} (all : bs.all isBlank = true)
    (stops : ∀ c ∈ rest.head?, isBlank c = false) : blanks.Reads bs rest () := by
  unfold Reads StateT.run blanks
  rw [List.dropWhile_append_of_pos (List.all_eq_true.mp all),dropWhile_of_stops stops]

theorem sign_reads (s : String) {bs : List Char} (all : bs.all isBlank = true)
    (stops : ∀ c ∈ rest.head?, isBlank c = false) : (sign s).Reads (s.toList ++ bs) rest () :=
  (mark_reads s _).bind (blanks_reads all stops)

/-- A sign that ends where something else than a blank follows. -/
theorem sign_reads_bare (s : String) (stops : ∀ c ∈ rest.head?, isBlank c = false) :
    (sign s).Reads s.toList rest () := by
  have read : (sign s).Reads (s.toList ++ []) rest () := sign_reads s rfl stops
  rwa [List.append_nil] at read

theorem sign_fails {s : String} {c d : Char} (first : s.toList.head? = some c) (differ : c ≠ d) :
    (sign s).Fails (d :: rest) := (mark_fails first differ).bind _

theorem ahead_reads (c : Char) (cs : List Char) : ahead.Reads [] (c :: cs) c := rfl

theorem next_reads (c : Char) (rest : List Char) : next.Reads [c] rest c := rfl

theorem hexDigit_reads {n : Nat} (small : n < 16) (rest : List Char) :
    hexDigit.Reads [n.digitChar] rest n := by
  have known : ∀ n < 16, hexValue? n.digitChar = some n := by decide
  unfold Reads hexDigit
  rw [StateT.run_bind,next_reads,Option.bind_eq_bind,Option.bind_some]
  simp only [known n small]
  rfl

theorem hexDigits_four {n : Nat} (small : n < 0x10000) : hexDigits 4 n =
    [(n / 4096).digitChar,(n / 256 % 16).digitChar,(n / 16 % 16).digitChar,(n % 16).digitChar] := by
  have first : n / 16 / 16 / 16 < 16 := by omega
  rw [hexDigits_succ 2,hexDigits_succ 1,hexDigits_succ 0,hexDigits_one first]
  simp only [Nat.div_div_eq_div_mul,List.cons_append,List.nil_append]

theorem unit_reads {n : Nat} (small : n < 0x10000) (rest : List Char) :
    unit.Reads (hexDigits 4 n) rest n := by
  have sum : ((n / 4096 * 16 + n / 256 % 16) * 16 + n / 16 % 16) * 16 + n % 16 = n := by omega
  have first := hexDigit_reads (n := n / 4096) (by omega)
  have second := hexDigit_reads (n := n / 256 % 16) (by omega)
  have third := hexDigit_reads (n := n / 16 % 16) (by omega)
  have fourth := hexDigit_reads (n := n % 16) (by omega)
  have read : unit.Reads ([_] ++ ([_] ++ ([_] ++ [_]))) rest _ :=
    (first _).bind ((second _).bind ((third _).bind ((fourth rest).returns fun d =>
      ((n / 4096 * 16 + n / 256 % 16) * 16 + n / 16 % 16) * 16 + d)))
  rw [sum] at read
  rwa [hexDigits_four small]

/-- Characters are no halves of pairs. -/
theorem no_half (c : Char) : c.toNat < 0xD800 ∨ 0xDFFF < c.toNat := by
  rcases c.valid with below | ⟨above,_⟩
  · exact .inl below
  · exact .inr above

theorem below_end (c : Char) : c.toNat < 0x110000 := by
  rcases c.valid with below | ⟨_,above⟩
  · exact Nat.lt_trans below (by decide)
  · exact above

theorem unitChar_reads_one {c : Char} (small : c.toNat < 0x10000) (rest : List Char) :
    unitChar.Reads (hexDigits 4 c.toNat) rest c := by
  refine (unit_reads small rest).then ?_
  rw [if_pos (no_half c),Char.ofNat_toNat]
  exact pure_reads c rest

theorem unitChar_reads_two {c : Char} (large : 0x10000 ≤ c.toNat) (rest : List Char) :
    unitChar.Reads (hexDigits 4 (0xD800 + (c.toNat - 0x10000) / 0x400) ++
      ("\\u".toList ++ hexDigits 4 (0xDC00 + (c.toNat - 0x10000) % 0x400))) rest c := by
  have most := below_end c
  have sum : 0x10000 + (0xD800 + (c.toNat - 0x10000) / 0x400 - 0xD800) * 0x400 +
      (0xDC00 + (c.toNat - 0x10000) % 0x400 - 0xDC00) = c.toNat := by omega
  refine (unit_reads (by omega) _).bind ?_
  rw [if_neg (by omega),if_pos (by omega)]
  refine (mark_reads _ _).bind ((unit_reads (by omega) rest).then ?_)
  rw [if_pos (by omega),sum,Char.ofNat_toNat]
  exact pure_reads c rest

theorem escapeUnit_append (high low : Nat) : escapeUnit high ++ escapeUnit low =
    '\\' :: 'u' :: (hexDigits 4 high ++ ("\\u".toList ++ hexDigits 4 low)) := rfl

/-- A character is read as it was written. -/
theorem character_reads (c : Char) (rest : List Char) : character.Reads (escapeChar c) rest c := by
  have named {code : Char} {more : List Char} (read : (escaped code).Reads more rest c) :
      character.Reads ('\\' :: code :: more) rest c := by
    change character.Reads (['\\'] ++ ([code] ++ more)) rest c
    exact (next_reads '\\' _).bind ((next_reads code _).bind read)
  have numbered {n : Nat} (same : c.toNat = n) : c = Char.ofNat n := by
    rw [← same,Char.ofNat_toNat]
  unfold escapeChar
  dsimp only
  split
  · next quoting =>
    rcases (by simpa using quoting : c = '"' ∨ c = '\\') with rfl | rfl <;> exact named (pure_reads _ rest)
  next bare =>
  have plain : c ≠ '"' ∧ c ≠ '\\' := by simpa using bare
  split
  · next shown =>
    refine (next_reads c rest).then ?_
    rw [if_neg plain.2,if_neg (by rintro (quoting | control); exact plain.1 quoting; omega)]
    exact pure_reads c rest
  split
  · next same => subst same; exact named (pure_reads _ rest)
  split
  · next same => subst same; exact named (pure_reads _ rest)
  split
  · next same => subst same; exact named (pure_reads _ rest)
  split
  · next same => obtain rfl := numbered same; exact named (pure_reads _ rest)
  split
  · next same => obtain rfl := numbered same; exact named (pure_reads _ rest)
  split
  · next small => exact named (unitChar_reads_one small rest)
  · next large =>
    rw [escapeUnit_append]
    exact named (unitChar_reads_two (Nat.not_lt.mp large) rest)

/-- No written character begins with a quote. -/
theorem escapeChar_starts (c : Char) : ∃ d more, escapeChar c = d :: more ∧ d ≠ '"' := by
  unfold escapeChar
  dsimp only
  repeat' split
  case isFalse.isTrue bare _ => exact ⟨c,[],rfl,fun same => bare (by simp [same])⟩
  all_goals exact ⟨'\\',_,rfl,by decide⟩

theorem quote_reads (s : String) (stops : ∀ c ∈ rest.head?, isBlank c = false) :
    quote.Reads (quoted s) rest s := by
  have counted : s.toList.length ≤ (s.toList.flatMap escapeChar).length :=
    length_le_flatMap fun c _ => by
      obtain ⟨d,more,chars,_⟩ := escapeChar_starts c
      simp [chars]
  have inside (most : Nat) (enough : s.toList.length < most) :
      (upTo (sign "\"") character most).Reads (s.toList.flatMap escapeChar ++ "\"".toList) rest
        (s.toList.map id) := by
    refine upTo_reads enough (sign_reads_bare "\"" stops) ?_
      (fun c _ more (_ : True) => character_reads c more) trivial fun _ _ _ => trivial
    intro c _ more
    obtain ⟨d,others,chars,differ⟩ := escapeChar_starts c
    rw [chars]
    exact sign_fails rfl differ.symm
  have read := (inside ((s.toList.flatMap escapeChar ++ "\"".toList ++ rest).length + 1)
    (by simp only [List.length_append]; omega)).returns String.ofList
  rw [List.map_id,String.ofList_toList] at read
  exact (mark_reads "\"" _).bind read

/-- No digits but those of zero begin with a zero. -/
theorem digits_first {n : Nat} (zero : (Number.digits n).head? = some '0') : n = 0 := by
  induction n using Nat.strong_induction_on with
  | _ n ih =>
    unfold Number.digits at *
    by_cases small : n < 10
    · rw [Nat.toDigits_of_lt_base small] at zero
      exact Nat.digitChar_eq_zero.mp (Option.some.inj zero)
    · rw [Nat.toDigits_of_base_le (by decide) (by omega),
        List.head?_append_of_ne_nil _ Nat.toDigits_ne_nil] at zero
      have none := ih (n / 10) (by omega) zero
      omega

theorem natural_reads (n : Nat) (stops : Stops rest) : natural.Reads (Number.digits n) rest n := by
  have read : (span Char.isDigit).Reads (Number.digits n) rest (Number.digits n) :=
    span_reads (Number.allDigits_digits n) (by simp [Number.digits])
      (takeWhile_of_stops fun c member => (stops c member).2)
  have behind : blanks.Reads [] rest () :=
    blanks_reads rfl fun c member => (stops c member).1
  refine read.then ?_
  rw [if_neg]
  · refine behind.then ?_
    rw [Number.ofDigitChars_digits]
    exact pure_reads n rest
  · rintro ⟨zero,more⟩
    exact more (by rw [digits_first zero]; rfl)

end Parts

section Objects

variable {row shown : Row} {name : String} {v : Value}

/-- The fields of a row. -/
def fieldsOf (row : Row) : List (Value × Value) := row.map fun (name,v) => (.text name,v)

theorem setField_new (new : name ∉ row.map Prod.fst) :
    Value.setField name v (fieldsOf row) = fieldsOf (row ++ [(name,v)]) := by
  induction row with
  | nil => rfl
  | cons f row ih =>
    obtain ⟨other,new⟩ := not_or.mp (mt List.mem_cons.mpr new)
    have differ : (Value.text f.1).isText name = false := decide_eq_false (Ne.symm other)
    have tail := ih new
    unfold fieldsOf at *
    rw [List.map_cons,Value.setField,differ,if_neg (by decide),tail]
    rfl

/-- Fields with names of their own are added one behind the other. -/
theorem foldl_setField (distinct : ((shown ++ row).map Prod.fst).Nodup) :
    row.foldl (fun found (name,v) => Value.setField name v found) (fieldsOf shown) =
      fieldsOf (shown ++ row) := by
  induction row generalizing shown with
  | nil => rw [List.foldl_nil,List.append_nil]
  | cons f row ih =>
    obtain ⟨name,v⟩ := f
    have parts : shown ++ (name,v) :: row = (shown ++ [(name,v)]) ++ row := by simp
    have new : name ∉ shown.map Prod.fst := by
      rw [List.map_append,List.map_cons] at distinct
      exact fun member => (List.nodup_append.mp distinct).2.2 _ member _ List.mem_cons_self rfl
    rw [List.foldl_cons]
    dsimp only
    rw [setField_new new,ih (by rwa [← parts]),parts]

theorem collected_eq (distinct : (row.map Prod.fst).Nodup) : collected row = fieldsOf row := by
  have whole : (([] ++ row).map Prod.fst).Nodup := distinct
  exact foldl_setField whole

end Objects

section Values

variable {rest : List Char}

/-- A value by its first character. -/
theorem value_reads_first {depth : Nat} {c : Char} {cs : List Char} {v : Value}
    (read : (startingWith (value depth) c).Reads (c :: cs) rest v) :
    (value (depth + 1)).Reads (c :: cs) rest v := by
  change (ahead >>= startingWith (value depth)).Reads ([] ++ (c :: cs)) rest v
  exact (ahead_reads c (cs ++ rest)).bind read

theorem stops_of_sign {c : Char} {cs : List Char} (sign : c ∈ ",:]\x7d".toList) : Stops (c :: cs) := by
  have known : ",:]\x7d".toList.all (fun c => !isBlank c && !c.isDigit) = true := by decide
  intro d member
  obtain rfl := Option.some.inj member
  simpa using List.all_eq_true.mp known c sign

/-- What no value begins with: blanks and the signs that close lists and objects. -/
def strangers : List Char := " \t\n\r]\x7d".toList

def Begins (cs : List Char) : Prop := ∃ d more, cs = d :: more ∧ d ∉ strangers

theorem Begins.solid {cs : List Char} (begins : Begins cs) (rest : List Char) :
    ∀ c ∈ (cs ++ rest).head?, isBlank c = false := by
  obtain ⟨d,more,rfl,known⟩ := begins
  intro c member
  obtain rfl := Option.some.inj member
  have front : d ∉ " \t\n\r".toList := fun blank => known (List.mem_append_left "]\x7d".toList blank)
  simpa [isBlank] using front

theorem digits_begins (n : Nat) : Begins (Number.digits n) := by
  have known : strangers.all (fun d => !d.isDigit) = true := by decide
  cases digits : Number.digits n with
  | nil => exact absurd digits Nat.toDigits_ne_nil
  | cons d more =>
    refine ⟨d,more,rfl,fun stranger => ?_⟩
    have digit := Number.allDigits_digits n d (by simp [digits])
    exact absurd (List.all_eq_true.mp known d stranger) (by simp [digit])

theorem chars_begins {v : Value} (native : Native v) : Begins (chars v) := by
  cases native with
  | null => exact ⟨'n',_,rfl,by decide⟩
  | bool b => cases b with
    | false => exact ⟨'f',_,rfl,by decide⟩
    | true => exact ⟨'t',_,rfl,by decide⟩
  | int i =>
    rw [chars,Number.integerText]
    split
    · exact ⟨'-',_,rfl,by decide⟩
    · exact digits_begins _
  | text s => exact ⟨'"',_,rfl,by decide⟩
  | list each => rw [chars_list]; exact ⟨'[',_,rfl,by decide⟩
  | object distinct each => rw [chars_ofRow]; exact ⟨'\x7b',_,rfl,by decide⟩

section Brackets

variable {α β : Type} {opening closing : String} {item : Reader β} {write : α → List Char}
  {found : α → β} {xs : List α}

theorem bracketed_reads (shut : closing ∈ ["]","\x7d"]) (begins : ∀ x ∈ xs, Begins (write x))
    (each : ∀ x ∈ xs, ∀ more, Stops more → item.Reads (write x) more (found x)) (stops : Stops rest) :
    (bracketed opening closing item).Reads (opening.toList ++
      (", ".toList.intercalate (xs.map write) ++ closing.toList)) rest (xs.map found) := by
  obtain ⟨close,single,shuts⟩ : ∃ c, closing.toList = [c] ∧ c ∈ "]\x7d".toList := by
    rcases (by simpa using shut : closing = "]" ∨ closing = "\x7d") with rfl | rfl
    · exact ⟨']',rfl,by decide⟩
    · exact ⟨'\x7d',rfl,by decide⟩
  have other {d : Char} (value : d ∉ strangers) : close ≠ d := by
    rintro rfl
    exact value (List.mem_append_right " \t\n\r".toList shuts)
  have last (more : List Char) : Stops (closing.toList ++ more) := by
    rw [single]
    exact stops_of_sign (List.mem_append_right ",:".toList shuts)
  refine (sign_reads_bare opening ?_).bind (separated_reads (by decide)
    (sign_reads_bare closing fun c member => (stops c member).1) ?_ ?_ ?_ each (last rest) ?_)
  · rw [List.append_assoc]
    cases xs with
    | nil => exact fun c member => (last rest c member).1
    | cons x xs =>
      rw [List.map_cons,intercalate_cons,List.append_assoc]
      exact (begins x List.mem_cons_self).solid _
  · intro x member more
    obtain ⟨d,others,chars,value⟩ := begins x member
    rw [chars]
    exact sign_fails (by rw [single]; rfl) (other value)
  · intro more
    refine sign_fails (d := ',') (by rw [single]; rfl) ?_
    rintro rfl
    exact absurd shuts (by decide)
  · intro x member more
    change (sign ",").Reads (",".toList ++ [' ']) (write x ++ more) ()
    exact sign_reads "," rfl ((begins x member).solid more)
  · exact fun more => stops_of_sign (by decide)

end Brackets

/-- Digits belong to a number. -/
theorem startingWith_digit {inside : Reader Value} {c : Char} (digit : c.isDigit = true) :
    startingWith inside c = do let n ← natural; return .int n := by
  unfold startingWith
  split
  case h_8 => rfl
  all_goals exact absurd digit (by decide)

theorem int_reads (i : Int) {depth : Nat} (stops : Stops rest) :
    (value (depth + 1)).Reads (Number.integerText i) rest (.int i) := by
  unfold Number.integerText
  by_cases negative : i < 0
  · have same : -(i.natAbs : Int) = i := by omega
    have read := (natural_reads i.natAbs stops).returns fun n : Nat => Value.int (-(n : Int))
    rw [same] at read
    rw [if_pos negative]
    exact value_reads_first ((mark_reads "-" _).bind read)
  · have same : (i.natAbs : Int) = i := by omega
    have read := (natural_reads i.natAbs stops).returns fun n : Nat => Value.int n
    rw [same] at read
    rw [if_neg negative]
    cases digits : Number.digits i.natAbs with
    | nil => exact absurd digits Nat.toDigits_ne_nil
    | cons c cs =>
      have digit := Number.allDigits_digits i.natAbs c (by simp [digits])
      refine value_reads_first ?_
      rw [startingWith_digit digit,← digits]
      exact read

theorem field_reads {inside : Reader Value} {f : String × Value} (native : Native f.2)
    (read : inside.Reads (chars f.2) rest f.2) : (field inside).Reads (written f) rest f := by
  have colon : (sign ":").Reads (":".toList ++ [' ']) (chars f.2 ++ rest) () :=
    sign_reads ":" rfl ((chars_begins native).solid rest)
  refine (quote_reads f.1 fun c member => (stops_of_sign (by decide) c member).1).bind ?_
  refine colon.bind ?_
  exact read.returns fun v => (f.1,v)

/-- What stands between brackets leaves room for them. -/
theorem length_within (opening closing : Char) {inner : List Char} {depth : Nat}
    (enough : ([opening] ++ (inner ++ [closing])).length ≤ depth) :
    ∃ n, depth = n + 1 ∧ inner.length ≤ n := by
  simp only [List.length_append,List.length_singleton] at enough
  exact ⟨depth - 1,by omega,by omega⟩

/-- What was written is read again, by a reader that goes deep enough. -/
theorem value_reads {v : Value} (native : Native v) {depth : Nat} (enough : (chars v).length ≤ depth)
    (stops : Stops rest) : (value (depth + 1)).Reads (chars v) rest v := by
  have bare {rest : List Char} (stops : Stops rest) : ∀ c ∈ rest.head?, isBlank c = false :=
    fun c member => (stops c member).1
  induction native generalizing depth rest with
  | null => exact value_reads_first ((sign_reads_bare "null" (bare stops)).then (pure_reads _ rest))
  | bool b =>
    cases b with
    | false => exact value_reads_first ((sign_reads_bare "false" (bare stops)).then (pure_reads _ rest))
    | true => exact value_reads_first ((sign_reads_bare "true" (bare stops)).then (pure_reads _ rest))
  | int i => exact int_reads i stops
  | text s => exact value_reads_first ((quote_reads s (bare stops)).returns Value.text)
  | @list xs each ih =>
    rw [chars_list] at enough ⊢
    obtain ⟨inner,rfl,room⟩ := length_within '[' ']' enough
    have deep (x : Value) (member : x ∈ xs) : (chars x).length ≤ inner :=
      (infix_intercalate (List.mem_map_of_mem member)).length_le.trans room
    have items : (bracketed "[" "]" (value (inner + 1))).Reads ("[".toList ++
        (", ".toList.intercalate (xs.map chars) ++ "]".toList)) rest (xs.map id) :=
      bracketed_reads (by simp) (fun x member => chars_begins (each x member))
        (fun x member more stops => ih x member (deep x member) stops) stops
    rw [List.map_id] at items
    exact value_reads_first (items.returns Value.list)
  | @object row distinct each ih =>
    rw [chars_ofRow] at enough ⊢
    obtain ⟨inner,rfl,room⟩ := length_within '\x7b' '\x7d' enough
    have deep (f : String × Value) (member : f ∈ row) : (chars f.2).length ≤ inner := by
      have within : (written f).length ≤ inner :=
        (infix_intercalate (List.mem_map_of_mem member)).length_le.trans room
      simp only [written,List.length_append] at within
      omega
    have items : (bracketed "\x7b" "\x7d" (field (value (inner + 1)))).Reads ("\x7b".toList ++
        (", ".toList.intercalate (row.map written) ++ "\x7d".toList)) rest (row.map id) :=
      bracketed_reads (by simp) (fun f _ => ⟨'"',_,rfl,by decide⟩) (fun f member more stops =>
        field_reads (each f member) (ih f member (deep f member) stops)) stops
    rw [List.map_id] at items
    have read := items.returns fun fields => Value.object (collected fields)
    rw [collected_eq distinct] at read
    exact value_reads_first read

/-- What is written of a value says just that value. -/
theorem decode?_text {v : Value} (native : Native v) : decode? (text v) = some v := by
  have stops : Stops [] := fun c member => by cases member
  have solid := (chars_begins native).solid []
  have read : (whole ((chars v).length + 1)).Reads ([] ++ chars v) [] v :=
    (blanks_reads rfl solid).bind (value_reads native (Nat.le_refl _) stops)
  unfold decode? text
  refine whole?_of_reads ?_
  rwa [String.toList_ofList]

end Values

section Acceptance

variable {strict : Bool}

theorem itemRefusal?_eq_none {xs : List Value} (each : ∀ x ∈ xs, refusal? strict x = none) :
    itemRefusal? strict xs = none := by
  induction xs with
  | nil => rfl
  | cons x xs ih =>
    rw [itemRefusal?,each x List.mem_cons_self,ih fun y member => each y (List.mem_cons_of_mem x member)]
    rfl

theorem fieldRefusal?_eq_none {row : Row} (each : ∀ f ∈ row, refusal? strict f.2 = none) :
    fieldRefusal? strict (fieldsOf row) = none := by
  induction row with
  | nil => rfl
  | cons f row ih =>
    have tail := ih fun g member => each g (List.mem_cons_of_mem f member)
    unfold fieldsOf at *
    rw [List.map_cons,fieldRefusal?,each f List.mem_cons_self,tail]
    rfl

/-- What the notation has a form for is never refused. -/
theorem refusal?_native {v : Value} (native : Native v) : refusal? strict v = none := by
  induction native with
  | null | bool | int | text => rfl
  | list each ih => exact itemRefusal?_eq_none ih
  | object distinct each ih => exact fieldRefusal?_eq_none ih

end Acceptance

section Printing

/-- Visible characters and blanks of the smallest character set; line ends are none of them. -/
def IsPrintable (cs : List Char) : Prop := ∀ c ∈ cs, 0x20 ≤ c.toNat ∧ c.toNat ≤ 0x7E

instance (cs : List Char) : Decidable (IsPrintable cs) :=
  List.decidableBAll (fun c : Char => 0x20 ≤ c.toNat ∧ c.toNat ≤ 0x7E) cs

theorem IsPrintable.append {front back : List Char} (first : IsPrintable front)
    (second : IsPrintable back) : IsPrintable (front ++ back) := fun c member =>
  (List.mem_append.mp member).elim (first c) (second c)

theorem digitChar_isPrintable {n : Nat} (small : n < 16) : IsPrintable [n.digitChar] := by
  have known : ∀ n < 16, IsPrintable [n.digitChar] := by decide
  exact known n small

theorem escapeUnit_isPrintable {n : Nat} (small : n < 0x10000) : IsPrintable (escapeUnit n) := by
  have sign : IsPrintable ['\\','u'] := by decide
  have first := digitChar_isPrintable (n := n / 4096) (by omega)
  have second := digitChar_isPrintable (n := n / 256 % 16) (by omega)
  have third := digitChar_isPrintable (n := n / 16 % 16) (by omega)
  have fourth := digitChar_isPrintable (n := n % 16) (by omega)
  rw [escapeUnit,hexDigits_four small]
  exact sign.append (first.append (second.append (third.append fourth)))

theorem escapeChar_isPrintable (c : Char) : IsPrintable (escapeChar c) := by
  unfold escapeChar
  dsimp only
  split
  · next quoting =>
    rcases (by simpa using quoting : c = '"' ∨ c = '\\') with rfl | rfl <;> decide
  split
  · next shown => exact fun d member => by rwa [List.mem_singleton.mp member]
  iterate 5
    split
    · decide
  split
  · next small => exact escapeUnit_isPrintable small
  · have most := below_end c
    exact (escapeUnit_isPrintable (by omega)).append (escapeUnit_isPrintable (by omega))

theorem quoted_isPrintable (s : String) : IsPrintable (quoted s) := by
  have mark : IsPrintable ['"'] := by decide
  have inside : IsPrintable (s.toList.flatMap escapeChar) := fun c member => by
    obtain ⟨d,_,within⟩ := List.mem_flatMap.mp member
    exact escapeChar_isPrintable d c within
  exact mark.append (inside.append mark)

theorem digits_isPrintable (n : Nat) : IsPrintable (Number.digits n) := by
  intro c member
  have digit := Char.isDigit_iff_toNat.mp (Number.allDigits_digits n c member)
  exact ⟨Nat.le_trans (by decide) digit.1,Nat.le_trans digit.2 (by decide)⟩

theorem intercalate_isPrintable {xs : List (List Char)} (each : ∀ x ∈ xs, IsPrintable x) :
    IsPrintable (", ".toList.intercalate xs) := by
  intro c member
  rcases mem_intercalate member with between | ⟨x,inside,within⟩
  · exact (by decide : IsPrintable ", ".toList) c between
  · exact each x inside c within

/-- Whatever a value holds, it is written in printable characters on one line. -/
theorem chars_isPrintable {v : Value} (native : Native v) : IsPrintable (chars v) := by
  induction native with
  | null => decide
  | bool b => cases b <;> decide
  | int i =>
    rw [chars,Number.integerText]
    split
    · exact (by decide : IsPrintable ['-']).append (digits_isPrintable _)
    · exact digits_isPrintable _
  | text s => exact quoted_isPrintable s
  | list each ih =>
    rw [chars_list]
    refine (by decide : IsPrintable "[".toList).append (.append ?_ (by decide))
    refine intercalate_isPrintable fun x member => ?_
    obtain ⟨v,inside,rfl⟩ := List.mem_map.mp member
    exact ih v inside
  | object distinct each ih =>
    rw [chars_ofRow]
    refine (by decide : IsPrintable "\x7b".toList).append (.append ?_ (by decide))
    refine intercalate_isPrintable fun x member => ?_
    obtain ⟨f,inside,rfl⟩ := List.mem_map.mp member
    exact (quoted_isPrintable f.1).append ((by decide : IsPrintable ": ".toList).append (ih f inside))

end Printing

end RoomTransfer.Json
