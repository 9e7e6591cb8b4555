import RoomTransfer.Proofs.Table

/-! What inserts make of a table, key by key. Under each key the first row stays; only the columns
that are refreshed are taken over, and of all later rows the last decides them. -/
namespace RoomTransfer

open Store

/-- The columns that a stored row takes over from a later row with its key. -/
def Insert.refreshed (i : Insert) : List String :=
  match i.policy with
  | .update => i.updateColumns
  | .skip | .none => []

namespace Store

/-- The first of some rows, with these columns as in the last. -/
def Stored.merged (columns : List String) : List Stored → Option Stored
  | [] => none
  | first :: rest => some (first.overwrite columns (rest.getLastD first))

namespace Stored

variable {columns : List String} {old new : Stored} {rows : List Stored}

theorem overwrite_self : old.overwrite columns old = old := by
  funext name
  exact ite_self _

theorem overwrite_nil : old.overwrite [] new = old := by
  funext name
  simp [overwrite]

theorem overwrite_again (last : Stored) :
    (old.overwrite columns new).overwrite columns last = old.overwrite columns last := by
  funext name
  by_cases taken : name ∈ columns <;> simp [overwrite,taken]

theorem merged_singleton : merged columns [old] = some old := by
  simp [merged,overwrite_self]

theorem merged_toList (found : Option Stored) : merged columns found.toList = found := by
  cases found with
  | none => rfl
  | some old => exact merged_singleton

theorem merged_eq_none : merged columns rows = none ↔ rows = [] := by
  cases rows <;> simp [merged]

/-- Rows that were merged before count as one. -/
theorem merged_append (columns : List String) (rows later : List Stored) :
    merged columns (rows ++ later) = merged columns ((merged columns rows).toList ++ later) := by
  cases rows with
  | nil => rfl
  | cons first rest =>
    cases last : later.getLast? with
    | none =>
      have empty := List.getLast?_eq_none_iff.mp last
      simp [empty,merged,overwrite_self]
    | some row =>
      simp [merged,List.getLastD_eq_getLast?,List.getLast?_append,last,overwrite_again]

/-- Where no column is refreshed the first row stays as it is. -/
theorem merged_nil (rows : List Stored) : merged [] rows = rows.head? := by
  cases rows <;> simp [merged,overwrite_nil]

end Stored

namespace Table

variable {i : Insert} {rows : List Parameters} {t t' : Table} {n : Nat} {key : Key}

def rowsUnder (i : Insert) (key : Key) (rows : List Parameters) : List Stored :=
  (rows.map stored).filter fun row => keyOf i.table row = some key

theorem find?_insert {row : Stored} (done : t.insert i row = .ok (n,t')) (key : Key) :
    t'.find? key = Stored.merged i.refreshed
      ((t.find? key).toList ++ if keyOf i.table row = some key then [row] else []) := by
  obtain ⟨own,keyed,change⟩ := insert_cases done
  by_cases same : own = key
  · subst same
    rcases change with ⟨absent,_,rfl⟩ | ⟨old,found,⟨policy,_,rfl⟩ | ⟨policy,_,rfl⟩⟩
    · simp [find?_place_same,absent,keyed,Stored.merged_singleton]
    · simp [find?_place_same,found,keyed,Stored.merged,Insert.refreshed,policy]
    · simp [found,keyed,Stored.merged,Insert.refreshed,policy,Stored.overwrite_nil]
  · have kept : t'.find? key = t.find? key := by
      rcases change with ⟨_,_,rfl⟩ | ⟨_,_,⟨_,_,rfl⟩ | ⟨_,_,rfl⟩⟩
      · exact find?_place_other (Ne.symm same) row t
      · exact find?_place_other (Ne.symm same) _ t
      · rfl
    rw [kept]
    simp [keyed,same,Stored.merged_toList]

/-- What is under a key after inserts: what was there before and the rows that were inserted under
it, merged. -/
theorem find?_insertAll (done : t.insertAll i rows = .ok (n,t')) (key : Key) :
    t'.find? key = Stored.merged i.refreshed ((t.find? key).toList ++ rowsUnder i key rows) := by
  induction rows generalizing t n with
  | nil =>
    obtain ⟨_,rfl⟩ := insertAll_nil.mp done
    simp [rowsUnder,Stored.merged_toList]
  | cons first rest ih =>
    obtain ⟨m,k,u,head,later,_⟩ := insertAll_cons.mp done
    have split : rowsUnder i key (first :: rest) =
        (if keyOf i.table (stored first) = some key then [stored first] else []) ++
          rowsUnder i key rest := by
      by_cases own : keyOf i.table (stored first) = some key <;> simp [rowsUnder,own]
    rw [ih later,find?_insert head key,split,← List.append_assoc]
    exact (Stored.merged_append _ _ _).symm

/-- Inserts take no row away. -/
theorem insertAll_there (done : t.insertAll i rows = .ok (n,t')) (there : t.find? key ≠ none) :
    t'.find? key ≠ none := by
  obtain ⟨row,found⟩ := Option.ne_none_iff_exists'.mp there
  rw [find?_insertAll done,found,ne_eq,Stored.merged_eq_none]
  simp

/-- Inserts that refresh no column leave the rows that are there as they are. -/
theorem insertAll_same (done : t.insertAll i rows = .ok (n,t')) (unrefreshed : i.refreshed = [])
    {row : Stored} (found : t.find? key = some row) : t'.find? key = some row := by
  rw [find?_insertAll done,found,unrefreshed,Stored.merged_nil]
  simp

theorem find?_isSome : (t.find? key).isSome = true ↔ key ∈ t.rows.map Prod.fst := by
  simp [find?,List.lookup_isSome_iff]

theorem mem_rows_iff {row : Stored} : (key,row) ∈ t.rows ↔ t.find? key = some row := by
  obtain ⟨rows,distinct⟩ := t
  change (key,row) ∈ rows ↔ List.lookup key rows = some row
  induction rows with
  | nil => simp
  | cons first rest ih =>
    obtain ⟨own,old⟩ := first
    obtain ⟨fresh,others⟩ := List.nodup_cons.mp distinct
    have within := ih others
    by_cases same : key = own
    · subst same
      have elsewhere : (key,row) ∉ rest := fun member =>
        fresh (List.mem_map.mpr ⟨(key,row),member,rfl⟩)
      simp [elsewhere,eq_comm]
    · simp [lookup_cons_other same,same,within]

/-- Some row is inserted under a key that is there already. -/
def Meets (i : Insert) (rows : List Parameters) (t : Table) : Prop :=
  ∃ front row back n u key, rows = front ++ row :: back ∧ t.insertAll i front = .ok (n,u) ∧
    keyOf i.table (stored row) = some key ∧ key ∈ u.rows.map Prod.fst

def keysOf (i : Insert) (rows : List Parameters) : List Key :=
  rows.filterMap fun row => keyOf i.table (stored row)

theorem not_meets (distinct : (keysOf i rows).Nodup)
    (absent : ∀ key ∈ keysOf i rows, t.find? key = none) : ¬ Meets i rows t := by
  rintro ⟨front,row,back,n,u,key,rfl,done,keyed,there⟩
  have here : key ∈ keysOf i (row :: back) := List.mem_filterMap.mpr ⟨row,.head _,keyed⟩
  have split : keysOf i (front ++ row :: back) = keysOf i front ++ keysOf i (row :: back) :=
    List.filterMap_append
  rw [split] at distinct absent
  have fresh : rowsUnder i key front = [] := by
    refine List.filter_eq_nil_iff.mpr fun stored' member own => ?_
    obtain ⟨other,inside,rfl⟩ := List.mem_map.mp member
    have early : key ∈ keysOf i front := List.mem_filterMap.mpr ⟨other,inside,by simpa using own⟩
    exact (List.nodup_append.mp distinct).2.2 key early key here rfl
  have missing : u.find? key = none := by
    rw [find?_insertAll done,absent key (List.mem_append_right _ here),fresh]
    rfl
  rw [← find?_isSome,missing] at there
  cases there

end Table

end Store

end RoomTransfer
