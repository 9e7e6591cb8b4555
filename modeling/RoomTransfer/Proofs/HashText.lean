import Mathlib.Data.List.Forall2
import Mathlib.Data.List.Induction
import Mathlib.Tactic.Ring
import RoomTransfer.Event

/-! The text of an identifier that is made of a name: groups of hexadecimal digits of fixed lengths,
with the digits of the version and the variant in their places. -/
namespace RoomTransfer

namespace Text

theorem hexDigits_succ (width n : Nat) :
    hexDigits (width + 2) n = hexDigits (width + 1) (n / 16) ++ [(n % 16).digitChar] := by
  unfold hexDigits
  by_cases small : n < 16
  · have none : n / 16 = 0 := by omega
    have same : n % 16 = n := by omega
    simp [none,same,Nat.toDigits_of_lt_base small,Nat.toDigits_zero,List.replicate_succ']
  · rw [Nat.toDigits_of_base_le (by decide) (by omega)]
    simp

theorem hexDigits_one {n : Nat} (small : n < 16) : hexDigits 1 n = [n.digitChar] := by
  simp [hexDigits,Nat.toDigits_of_lt_base small]

theorem length_hexDigits {width n : Nat} (bound : n < 16 ^ (width + 1)) :
    (hexDigits (width + 1) n).length = width + 1 := by
  induction width generalizing n with
  | zero => simp [hexDigits_one (by simpa using bound)]
  | succ width ih =>
    have shorter : n / 16 < 16 ^ (width + 1) := by
      rw [Nat.pow_succ] at bound
      omega
    simp [hexDigits_succ,ih shorter]

/-- Each place holds the digit that is worth its power of sixteen. -/
theorem getElem?_hexDigits {width n i : Nat} (bound : n < 16 ^ (width + 1)) (inside : i ≤ width) :
    (hexDigits (width + 1) n)[i]? = some (n / 16 ^ (width - i) % 16).digitChar := by
  induction width generalizing n i with
  | zero =>
    have small : n < 16 := by simpa using bound
    obtain rfl : i = 0 := by omega
    simp [hexDigits_one small,Nat.mod_eq_of_lt small]
  | succ width ih =>
    have shorter : n / 16 < 16 ^ (width + 1) := by
      rw [Nat.pow_succ] at bound
      omega
    rw [hexDigits_succ]
    by_cases last : i = width + 1
    · subst last
      rw [List.getElem?_append_right (by simp [length_hexDigits shorter])]
      simp [length_hexDigits shorter]
    · rw [List.getElem?_append_left (by rw [length_hexDigits shorter]; omega),
        ih shorter (by omega),Nat.div_div_eq_div_mul]
      have places : 16 * 16 ^ (width - i) = 16 ^ (width + 1 - i) := by
        rw [← Nat.pow_succ']
        congr 1
        omega
      rw [places]

end Text

section Bytes

/-- A number of bytes, the first of them worth most. -/
def joinBytes (bs : List UInt8) : Nat := bs.foldl (fun n b => n * 256 + b.toNat) 0

theorem joinBytes_append (front back : List UInt8) :
    joinBytes (front ++ back) = joinBytes front * 256 ^ back.length + joinBytes back := by
  induction back using List.reverseRecOn with
  | nil => simp [joinBytes]
  | append_singleton back b ih =>
    rw [← List.append_assoc]
    simp only [joinBytes,List.foldl_append,List.foldl_cons,List.foldl_nil,List.length_append,
      List.length_singleton,Nat.pow_succ] at ih ⊢
    rw [ih]
    ring

theorem joinBytes_lt (bs : List UInt8) : joinBytes bs < 256 ^ bs.length := by
  induction bs using List.reverseRecOn with
  | nil => simp [joinBytes]
  | append_singleton bs b ih =>
    have small := b.toNat_lt
    rw [joinBytes_append,List.length_append,List.length_singleton,Nat.pow_succ]
    simp [joinBytes] at ih ⊢
    omega

/-- A byte is found again at the power of its place. -/
theorem joinBytes_div {bs : List UInt8} {i : Nat} {b : UInt8} (found : bs[i]? = some b) :
    joinBytes bs / 256 ^ (bs.length - 1 - i) % 256 = b.toNat := by
  obtain ⟨inside,rfl⟩ := List.getElem?_eq_some_iff.mp found
  have parts : bs = (bs.take i ++ [bs[i]]) ++ bs.drop (i + 1) := by simp
  have behind : (bs.drop (i + 1)).length = bs.length - 1 - i := by
    rw [List.length_drop]
    omega
  have before : joinBytes (bs.take i ++ [bs[i]]) = joinBytes (bs.take i) * 256 + bs[i].toNat := by
    rw [joinBytes_append]
    simp [joinBytes]
  have rest := joinBytes_lt (bs.drop (i + 1))
  have whole := joinBytes_append (bs.take i ++ [bs[i]]) (bs.drop (i + 1))
  rw [← parts,before,behind] at whole
  rw [behind] at rest
  have small := bs[i].toNat_lt
  rw [whole,Nat.mul_comm _ (256 ^ _),Nat.mul_add_div (Nat.pow_pos (by decide)),Nat.div_eq_of_lt rest]
  omega

end Bytes

namespace Uuid

theorem bound (u : Uuid) : u.bits.toNat < 16 ^ (31 + 1) := by
  have := u.bits.isLt
  simpa using this

/-- The digits of an identifier, without the hyphens between their groups. -/
theorem length_digits (u : Uuid) : (Text.hexDigits 32 u.bits.toNat).length = 32 :=
  Text.length_hexDigits u.bound

/-- The first digit of a byte stands at twice the byte's place. -/
theorem digit_of_byte {bs : List UInt8} (length : bs.length = 16) {i : Nat} {b : UInt8}
    (found : bs[i]? = some b) :
    (Text.hexDigits 32 (ofBytes bs).bits.toNat)[2 * i]? = some (b.toNat / 16).digitChar := by
  have inside : i < 16 := by
    have := (List.getElem?_eq_some_iff.mp found).1
    omega
  have whole : (ofBytes bs).bits.toNat = joinBytes bs := by
    have small := joinBytes_lt bs
    rw [length] at small
    simpa [ofBytes,joinBytes] using small
  have byte := joinBytes_div found
  rw [length] at byte
  rw [Text.getElem?_hexDigits (ofBytes bs).bound (by omega),whole]
  have places : 16 ^ (31 - 2 * i) = 256 ^ (16 - 1 - i) * 16 := by
    rw [show 256 = 16 ^ 2 from rfl,← Nat.pow_mul,← Nat.pow_succ]
    congr 1
    omega
  have small := b.toNat_lt
  rw [places,← Nat.div_div_eq_div_mul]
  congr 2
  omega

end Uuid

/-- What may stand where a pattern has a character: for `x` any hexadecimal digit in lower case, for
`y` one of the digits that tell the variant, and otherwise the character itself. -/
def FitsPattern (pattern c : Char) : Prop :=
  if pattern = 'x' then c ∈ "0123456789abcdef".toList
  else if pattern = 'y' then c ∈ "89ab".toList
  else c = pattern

def hashPattern : List Char := "xxxxxxxx-xxxx-5xxx-yxxx-xxxxxxxxxxxx".toList

/-- The text of an identifier of version five. -/
def IsHashText (s : String) : Prop := List.Forall₂ FitsPattern hashPattern s.toList

section Hash

theorem hex_digitChar {n : Nat} (small : n < 16) : n.digitChar ∈ "0123456789abcdef".toList := by
  revert n
  decide

theorem mem_hexDigits {width n : Nat} {c : Char} (bound : n < 16 ^ (width + 1))
    (member : c ∈ Text.hexDigits (width + 1) n) : c ∈ "0123456789abcdef".toList := by
  obtain ⟨i,found⟩ := List.mem_iff_getElem?.mp member
  have inside := (List.getElem?_eq_some_iff.mp found).1
  rw [Text.length_hexDigits bound] at inside
  rw [Text.getElem?_hexDigits bound (by omega)] at found
  rw [← Option.some.inj found]
  exact hex_digitChar (Nat.mod_lt _ (by decide))

theorem fitsPattern_digits {cs : List Char} (digits : ∀ c ∈ cs, c ∈ "0123456789abcdef".toList) :
    List.Forall₂ FitsPattern (List.replicate cs.length 'x') cs := by
  induction cs with
  | nil => exact .nil
  | cons c rest ih =>
    exact .cons (digits c (by simp)) (ih fun d member => digits d (by simp [member]))

theorem length_hash (message : List UInt8) : (Digest.Sha1.hash message).length = 20 := by
  simp [Digest.Sha1.hash,Digest.Sha1.wordBytes]

namespace Uuid

theorem length_marked {hash : List UInt8} (long : 16 ≤ hash.length) : (marked hash).length = 16 := by
  simp [marked,long]

theorem marked_getElem? {hash : List UInt8} {i : Nat} (inside : i < 16) (long : 16 ≤ hash.length) :
    ∃ b : UInt8, (marked hash)[i]? = some (if i = 6 then (b &&& 0x0F) ||| 0x50
      else if i = 8 then (b &&& 0x3F) ||| 0x80 else b) := by
  refine ⟨hash[i],?_⟩
  have found : (hash.take 16)[i]? = some hash[i] := by simp [inside]
  simp [marked,found]

/-- The seventh byte tells the version, and the ninth the variant. -/
theorem marked_version {hash : List UInt8} (long : 16 ≤ hash.length) :
    ∃ b, (marked hash)[6]? = some b ∧ b.toNat / 16 = 5 := by
  have tagged : ∀ n < 256, ((n &&& 0x0F) ||| 0x50) / 16 = 5 := by decide +kernel
  obtain ⟨b,found⟩ := marked_getElem? (i := 6) (by decide) long
  exact ⟨_,found,by simpa using tagged b.toNat b.toNat_lt⟩

theorem marked_variant {hash : List UInt8} (long : 16 ≤ hash.length) :
    ∃ b, (marked hash)[8]? = some b ∧ 8 ≤ b.toNat / 16 ∧ b.toNat / 16 < 12 := by
  have tagged : ∀ n < 256, 8 ≤ ((n &&& 0x3F) ||| 0x80) / 16 ∧ ((n &&& 0x3F) ||| 0x80) / 16 < 12 := by
    decide +kernel
  obtain ⟨b,found⟩ := marked_getElem? (i := 8) (by decide) long
  exact ⟨_,found,by simpa using tagged b.toNat b.toNat_lt⟩

theorem chars_fit (u : Uuid) (version : (Text.hexDigits 32 u.bits.toNat)[12]? = some '5')
    {variant : Char} (known : variant ∈ "89ab".toList)
    (found : (Text.hexDigits 32 u.bits.toNat)[16]? = some variant) :
    List.Forall₂ FitsPattern hashPattern u.chars := by
  have length := u.length_digits
  have digits (c : Char) (member : c ∈ Text.hexDigits 32 u.bits.toNat) :
      c ∈ "0123456789abcdef".toList := mem_hexDigits u.bound member
  unfold chars
  generalize Text.hexDigits 32 u.bits.toNat = ds at *
  have group {n : Nat} {cs : List Char} (count : cs.length = n) (inside : cs.Sublist ds) :
      List.Forall₂ FitsPattern (List.replicate n 'x') cs := by
    subst count
    exact fitsPattern_digits fun c member => digits c (inside.mem member)
  have part (start count : Nat) : ((ds.drop start).take count).Sublist ds :=
    (List.take_sublist _ _).trans (List.drop_sublist _ _)
  -- The third group begins with the version and the fourth with the variant; the rest is free.
  have third : (ds.drop 12).take 4 = '5' :: (ds.drop 13).take 3 := by
    rw [List.drop_eq_getElem_cons (by omega),List.take_succ_cons,
      (List.getElem?_eq_some_iff.mp version).2]
  have fourth : (ds.drop 16).take 4 = variant :: (ds.drop 17).take 3 := by
    rw [List.drop_eq_getElem_cons (by omega),List.take_succ_cons,
      (List.getElem?_eq_some_iff.mp found).2]
  dsimp only
  rw [third,fourth]
  have hyphen : FitsPattern '-' '-' := rfl
  have five : FitsPattern '5' '5' := rfl
  have first := group (n := 8) (by simp [length]) (List.take_sublist 8 ds)
  have second := group (n := 4) (by simp [length]) (part 8 4)
  have third := group (n := 3) (by simp [length]) (part 13 3)
  have fourth := group (n := 3) (by simp [length]) (part 17 3)
  have fifth := group (n := 12) (by simp [length]) (List.drop_sublist 20 ds)
  have pattern : hashPattern =
      List.replicate 8 'x' ++ '-' :: List.replicate 4 'x' ++ '-' :: '5' :: List.replicate 3 'x' ++
        '-' :: 'y' :: List.replicate 3 'x' ++ '-' :: List.replicate 12 'x' := by decide
  rw [pattern]
  refine List.rel_append (List.rel_append (List.rel_append (List.rel_append first
    (.cons hyphen second)) (.cons hyphen (.cons five third))) (.cons hyphen (.cons ?_ fourth)))
    (.cons hyphen fifth)
  exact known

theorem marked_fits (hash : List UInt8) (long : 16 ≤ hash.length) :
    List.Forall₂ FitsPattern hashPattern (ofBytes (marked hash)).chars := by
  obtain ⟨b,seventh,five⟩ := marked_version long
  obtain ⟨c,ninth,least,most⟩ := marked_variant long
  have version := digit_of_byte (length_marked long) seventh
  rw [five] at version
  have known : ∀ n < 12, 8 ≤ n → n.digitChar ∈ "89ab".toList := by decide
  exact chars_fit _ version (known _ most least) (digit_of_byte (length_marked long) ninth)

theorem ofName_fits (space : Uuid) (name : String) :
    List.Forall₂ FitsPattern hashPattern (ofName space name).chars := by
  have long (message : List UInt8) : 16 ≤ (Digest.Sha1.hash message).length := by
    rw [length_hash]
    decide
  exact marked_fits _ (long _)

end Uuid

theorem addressHash_isHashText (url : String) : IsHashText (addressHash url) := by
  have text : (addressHash url).toList = (Uuid.ofName Uuid.webNamespace url).chars :=
    String.toList_ofList
  unfold IsHashText
  rw [text]
  exact Uuid.ofName_fits _ _

end Hash

end RoomTransfer
