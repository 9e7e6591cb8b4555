import RoomTransfer.Link

/-! The batches of a cursor as parts of its rows. Each round takes as many rows as are asked for off
the front of those that are left, until none is left. -/
namespace RoomTransfer

/-- Rows in parts of a size: put together the parts are the rows, none is empty, and each is full but
the last, which may be shorter. -/
structure Parted (size : Int) (rows : List Row) (parts : List (List Row)) : Prop where
  whole : parts.flatten = rows
  filled : ∀ part ∈ parts, part ≠ []
  fits : ∀ part ∈ parts, (part.length : Int) ≤ size
  full : ∀ part ∈ parts.dropLast, (part.length : Int) = size

namespace Parted

variable {size : Int} {rows part : List Row} {parts : List (List Row)}

theorem nil : Parted size [] [] := ⟨rfl,nofun,nofun,nofun⟩

theorem cons (filled : part ≠ []) (fits : (part.length : Int) ≤ size)
    (full : rows ≠ [] → (part.length : Int) = size) (parted : Parted size rows parts) :
    Parted size (part ++ rows) (part :: parts) where
  whole := by rw [List.flatten_cons,parted.whole]
  filled := by simpa using ⟨filled,parted.filled⟩
  fits := by simpa using ⟨fits,parted.fits⟩
  full := by
    cases parts with
    | nil => simp
    | cons next others =>
      have more : rows ≠ [] := by
        intro none
        have empty := parted.whole.trans none
        exact parted.filled next (by simp) (by simp at empty; exact empty.1)
      simpa using ⟨full more,parted.full⟩

end Parted

section Rounds

variable {size : Int} {rows : List Row}

theorem batchesFrom_nil (size : Int) (fuel : Nat) : batchesFrom size fuel [] = [] := by
  cases fuel <;> simp [batchesFrom]

/-- One round: the first rows are a batch, and the others are left. -/
theorem batchesFrom_succ (positive : 0 < size) (some : rows ≠ []) (fuel : Nat) :
    batchesFrom size (fuel + 1) rows =
      rows.take size.toNat :: batchesFrom size fuel (rows.drop size.toNat) := by
  have length : batchLength size rows.length = size.toNat := by
    simp [batchLength,Int.not_lt.mpr (Int.le_of_lt positive)]
  have taken : rows.take size.toNat ≠ [] := by
    simp [List.take_eq_nil_iff,some]
    omega
  have left : rows.drop (rows.take size.toNat).length = rows.drop size.toNat := by
    by_cases short : size.toNat ≤ rows.length
    · simp [short]
    · simp [List.drop_eq_nil_of_le,Nat.le_of_not_le short]
  rw [batchesFrom,length]
  split
  · next none => exact absurd none taken
  · rw [left]

/-- Any fuel will do that is not less than the rows: each round takes a row or more. -/
theorem batchesFrom_of_fuel (positive : 0 < size) {fuel other : Nat} (enough : rows.length ≤ fuel)
    (enough' : rows.length ≤ other) : batchesFrom size fuel rows = batchesFrom size other rows := by
  induction fuel generalizing rows other with
  | zero =>
    obtain rfl := List.eq_nil_of_length_eq_zero (Nat.le_zero.mp enough)
    simp [batchesFrom_nil]
  | succ fuel ih =>
    by_cases none : rows = []
    · simp [none,batchesFrom_nil]
    · have first : 0 < rows.length := List.length_pos_iff.mpr none
      obtain ⟨other,rfl⟩ : ∃ n, other = n + 1 := ⟨other - 1,by omega⟩
      rw [batchesFrom_succ positive none,batchesFrom_succ positive none]
      congr 1
      apply ih <;> simp <;> omega

theorem batches_round (positive : 0 < size) (some : rows ≠ []) :
    batches size rows = rows.take size.toNat :: batches size (rows.drop size.toNat) := by
  have first : 0 < rows.length := List.length_pos_iff.mpr some
  obtain ⟨fuel,same⟩ : ∃ n, rows.length = n + 1 := ⟨rows.length - 1,by omega⟩
  unfold batches
  rw [same,batchesFrom_succ positive some]
  congr 1
  refine batchesFrom_of_fuel positive ?_ (Nat.le_refl _)
  simp
  omega

/-- The batches of a positive size part the rows. -/
theorem batches_parted (positive : 0 < size) (rows : List Row) :
    Parted size rows (batches size rows) := by
  -- Each round leaves fewer rows, so the induction is on their number.
  induction h : rows.length using Nat.strongRecOn generalizing rows with
  | ind n ih =>
    by_cases none : rows = []
    · subst none
      exact .nil
    · have first : 0 < rows.length := List.length_pos_iff.mpr none
      have later := ih _ (by simp; omega) (rows.drop size.toNat) rfl
      rw [batches_round positive none]
      have parted : Parted size (rows.take size.toNat ++ rows.drop size.toNat) _ := later.cons
        (by simp [List.take_eq_nil_iff,none]; omega) (by simp; omega) (by simp; omega)
      rwa [List.take_append_drop] at parted

theorem batches_flatten {size : Nat} (positive : 0 < size) (rows : List Row) :
    (batches size rows).flatten = rows :=
  (batches_parted (Int.natCast_pos.mpr positive) rows).whole

theorem batches_fit {size : Nat} (positive : 0 < size) (rows : List Row) :
    ∀ batch ∈ batches size rows, batch.length ≤ size := by
  intro batch member
  have fits := (batches_parted (Int.natCast_pos.mpr positive) rows).fits batch member
  omega

end Rounds

end RoomTransfer
