import RoomTransfer.Insert
import RoomTransfer.Store.Request

/-! Keyed tables. A table keeps one row for each key; what an insert does with a row whose key is
there already is up to its policy. Rows that were inserted are settled: inserting them once more
changes nothing, unless that is an error. -/
namespace RoomTransfer.Store

/-- What identifies a row. -/
inductive Key where
  | uuid (u : Uuid)
  | text (s : String)
  | int (i : Int)
  deriving DecidableEq

namespace Key

def value : Key → Value
  | .uuid u => .uuid u
  | .text s => .text s
  | .int i => .int i

def ofValue? : Value → Option Key
  | .uuid u => some (.uuid u)
  | .text s => some (.text s)
  | .int i => some (.int i)
  | _ => none

@[simp] theorem ofValue?_value (key : Key) : ofValue? key.value = some key := by
  cases key <;> rfl

end Key

/-- A row of the target, by the placeholders through which it was inserted. -/
abbrev Stored := String → Option Parameter

/-- The row that is stored for parameters. -/
def stored (row : Parameters) : Stored := fun name => List.lookup name row

/-- An old row that takes some columns over from the row that it refused. -/
def Stored.overwrite (columns : List String) (old refused : Stored) : Stored :=
  fun name => if name ∈ columns then refused name else old name

theorem Stored.overwrite_overwrite (columns : List String) (refused old : Stored) :
    (old.overwrite columns refused).overwrite columns refused = old.overwrite columns refused := by
  funext name
  simp only [overwrite]
  split <;> rfl

/-- Replaces the row of a key, or adds it at the end. -/
def upsert (key : Key) (row : Stored) : List (Key × Stored) → List (Key × Stored)
  | [] => [(key,row)]
  | (other,old) :: rest =>
    if other = key then (key,row) :: rest else (other,old) :: upsert key row rest

section Upsert

variable {key other : Key} {row : Stored} {rows : List (Key × Stored)}

theorem mem_upsert_keys : other ∈ (upsert key row rows).map Prod.fst ↔
    other = key ∨ other ∈ rows.map Prod.fst := by
  induction rows with
  | nil => simp [upsert]
  | cons first rest ih =>
    unfold upsert
    split
    next same => simp [same]
    next differ =>
      simp only [List.map_cons,List.mem_cons,ih]
      exact or_left_comm

theorem upsert_nodup (distinct : (rows.map Prod.fst).Nodup) :
    ((upsert key row rows).map Prod.fst).Nodup := by
  induction rows with
  | nil => simp [upsert]
  | cons first rest ih =>
    obtain ⟨fresh,others⟩ := List.nodup_cons.mp distinct
    unfold upsert
    split
    next same =>
      rw [← same]
      exact distinct
    next differ =>
      refine List.nodup_cons.mpr ⟨?_,ih others⟩
      rintro member
      rcases mem_upsert_keys.mp member with same | old
      · exact differ same
      · exact fresh old

theorem lookup_cons_other (differ : other ≠ key) :
    List.lookup other ((key,row) :: rows) = List.lookup other rows := by
  rw [List.lookup_cons,beq_false_of_ne differ]

theorem lookup_upsert_same : List.lookup key (upsert key row rows) = some row := by
  induction rows with
  | nil => exact List.lookup_cons_self
  | cons first rest ih =>
    unfold upsert
    split
    · exact List.lookup_cons_self
    next differ => rw [lookup_cons_other (Ne.symm differ),ih]

theorem lookup_upsert_other (differ : other ≠ key) :
    List.lookup other (upsert key row rows) = List.lookup other rows := by
  induction rows with
  | nil => exact lookup_cons_other differ
  | cons first rest ih =>
    obtain ⟨k,old⟩ := first
    unfold upsert
    split
    next same =>
      subst same
      rw [lookup_cons_other differ,lookup_cons_other differ]
    next => rw [List.lookup_cons,List.lookup_cons,ih]

theorem upsert_found (found : List.lookup key rows = some row) : upsert key row rows = rows := by
  induction rows with
  | nil => cases found
  | cons first rest ih =>
    obtain ⟨k,old⟩ := first
    unfold upsert
    split
    next same =>
      subst same
      rw [List.lookup_cons_self] at found
      rw [Option.some.inj found]
    next differ =>
      rw [lookup_cons_other (Ne.symm differ)] at found
      rw [ih found]

theorem upsert_absent (absent : List.lookup key rows = none) :
    upsert key row rows = rows ++ [(key,row)] := by
  induction rows with
  | nil => rfl
  | cons first rest ih =>
    obtain ⟨k,old⟩ := first
    unfold upsert
    split
    next same =>
      subst same
      rw [List.lookup_cons_self] at absent
      cases absent
    next differ =>
      rw [lookup_cons_other (Ne.symm differ)] at absent
      rw [ih absent,List.cons_append]

end Upsert

/-- A table of the target, with one row for each key. -/
structure Table where
  rows : List (Key × Stored)
  distinct : (rows.map Prod.fst).Nodup

namespace Table

def find? (t : Table) (key : Key) : Option Stored := List.lookup key t.rows

def place (key : Key) (row : Stored) (t : Table) : Table :=
  ⟨upsert key row t.rows,upsert_nodup t.distinct⟩

theorem find?_place_same (key : Key) (row : Stored) (t : Table) :
    (t.place key row).find? key = some row := lookup_upsert_same

theorem find?_place_other {key other : Key} (differ : other ≠ key) (row : Stored) (t : Table) :
    (t.place key row).find? other = t.find? other := lookup_upsert_other differ

theorem place_found {key : Key} {row : Stored} {t : Table} (found : t.find? key = some row) :
    t.place key row = t := by
  obtain ⟨rows,distinct⟩ := t
  simp only [place,upsert_found found]

theorem place_absent {key : Key} {t : Table} (absent : t.find? key = none) (row : Stored) :
    (t.place key row).rows = t.rows ++ [(key,row)] := upsert_absent absent

/-- The column that identifies the rows of a table. -/
def keyColumn (table : String) : String := if table = "adjustment" then "room_id" else "id"

def keyOf (table : String) (row : Stored) : Option Key :=
  match row (keyColumn table) with
  | some (.value v) => Key.ofValue? v
  | _ => none

def refusal (name message : String) : Fault := ⟨"insert",.raised (.database name) message⟩

/-- Inserts a row as its policy says and tells how many rows were written. -/
def insert (i : Insert) (row : Stored) (t : Table) : Except Fault (Nat × Table) :=
  match keyOf i.table row with
  | none => .error (refusal "NotNullViolation" "null value violates not-null constraint")
  | some key => match t.find? key with
    | none => .ok (1,t.place key row)
    | some old => match i.policy with
      | .update => .ok (1,t.place key (old.overwrite i.updateColumns row))
      | .skip => .ok (0,t)
      | .none => .error (refusal "UniqueViolation" "duplicate key value violates unique constraint")

/-- Inserts one row after another, up to the first that is refused. -/
def insertAll (i : Insert) : List Parameters → Table → Except Fault (Nat × Table)
  | [],t => .ok (0,t)
  | row :: rest,t =>
    match t.insert i (stored row) with
    | .error fault => .error fault
    | .ok (n,t) => (insertAll i rest t).map fun (m,t) => (n + m,t)

variable {i : Insert} {row new : Stored} {rows : List Parameters} {t t' : Table} {n : Nat}

/-- All that an insert can do: add a row, overwrite columns of one, or leave one as it is. -/
theorem insert_cases (done : t.insert i row = .ok (n,t')) : ∃ key, keyOf i.table row = some key ∧
    ((t.find? key = none ∧ n = 1 ∧ t' = t.place key row) ∨
      ∃ old, t.find? key = some old ∧
        ((i.policy = .update ∧ n = 1 ∧ t' = t.place key (old.overwrite i.updateColumns row)) ∨
          (i.policy = .skip ∧ n = 0 ∧ t' = t))) := by
  unfold insert at done
  split at done
  · cases done
  next key keyed =>
    refine ⟨key,keyed,?_⟩
    split at done
    next absent =>
      cases done
      exact .inl ⟨absent,rfl,rfl⟩
    next old found =>
      refine .inr ⟨old,found,?_⟩
      split at done
      next update =>
        cases done
        exact .inl ⟨update,rfl,rfl⟩
      next skip =>
        cases done
        exact .inr ⟨skip,rfl,rfl⟩
      · cases done

/-- A row is refused by an error of the database. -/
theorem insert_refusal {fault : Fault} (refused : t.insert i row = .error fault) :
    fault.failure.isDatabase = true := by
  unfold insert at refused
  split at refused
  · cases refused
    rfl
  · split at refused
    · cases refused
    · split at refused <;> cases refused
      rfl

theorem insertAll_refusal {fault : Fault} (refused : t.insertAll i rows = .error fault) :
    fault.failure.isDatabase = true := by
  induction rows generalizing t with
  | nil => cases refused
  | cons first rest ih =>
    unfold insertAll at refused
    split at refused
    next refused' =>
      cases refused
      exact insert_refusal refused'
    next k u _ =>
      cases later : u.insertAll i rest with
      | error fault' =>
        simp only [later,Except.map,Except.error.injEq] at refused
        exact ih (refused ▸ later)
      | ok written => simp [later,Except.map] at refused

theorem insertAll_nil : t.insertAll i [] = .ok (n,t') ↔ n = 0 ∧ t' = t := by
  simp [insertAll,eq_comm]

theorem insertAll_cons {first : Parameters} : t.insertAll i (first :: rows) = .ok (n,t') ↔
    ∃ m k between, t.insert i (stored first) = .ok (m,between) ∧
      between.insertAll i rows = .ok (k,t') ∧ n = m + k := by
  rw [insertAll]
  cases t.insert i (stored first) with
  | error fault => simp
  | ok written =>
    obtain ⟨m,u⟩ := written
    cases later : u.insertAll i rows with
    | error fault =>
      simp only [Except.map,later]
      exact ⟨nofun,fun ⟨_,_,_,head,rest,_⟩ => by cases head; rw [later] at rest; cases rest⟩
    | ok others =>
      obtain ⟨k,v⟩ := others
      simp only [Except.map,later]
      constructor
      · rintro ⟨⟩
        exact ⟨m,k,u,rfl,later,rfl⟩
      · rintro ⟨_,_,_,⟨⟩,rest,rfl⟩
        rw [later] at rest
        cases rest
        rfl

theorem insertAll_append {first second : List Parameters} :
    t.insertAll i (first ++ second) = .ok (n,t') ↔ ∃ m k between,
      t.insertAll i first = .ok (m,between) ∧ between.insertAll i second = .ok (k,t') ∧
        n = m + k := by
  induction first generalizing t n with
  | nil =>
    simp only [List.nil_append,insertAll_nil]
    constructor
    · exact fun done => ⟨0,n,t,⟨rfl,rfl⟩,done,by omega⟩
    · rintro ⟨_,k,_,⟨rfl,rfl⟩,done,rfl⟩
      simpa using done
  | cons row rest ih =>
    simp only [List.cons_append,insertAll_cons,ih]
    constructor
    · rintro ⟨m,_,u,head,⟨k,l,v,early,late,rfl⟩,rfl⟩
      exact ⟨m + k,l,v,⟨m,k,u,head,early,rfl⟩,late,by omega⟩
    · rintro ⟨_,l,v,⟨m,k,u,head,early,rfl⟩,late,rfl⟩
      exact ⟨m,k + l,u,head,⟨k,l,v,early,late,rfl⟩,by omega⟩

theorem insertAll_count (done : t.insertAll i rows = .ok (n,t')) : n ≤ rows.length := by
  induction rows generalizing t n with
  | nil => simp [(insertAll_nil.mp done).1]
  | cons row rest ih =>
    obtain ⟨m,k,u,head,later,rfl⟩ := insertAll_cons.mp done
    have few : m ≤ 1 := by
      obtain ⟨_,_,⟨_,rfl,_⟩ | ⟨_,_,⟨_,rfl,_⟩ | ⟨_,rfl,_⟩⟩⟩ := insert_cases head <;> omega
    have fewer := ih later
    simp only [List.length_cons]
    omega

/-- The table has a row of this key, and would not take over anything more from this one. -/
def Settled (i : Insert) (row : Stored) (t : Table) : Prop :=
  ∃ key old, keyOf i.table row = some key ∧ t.find? key = some old ∧
    (i.policy = .update → old.overwrite i.updateColumns row = old)

theorem insert_settles (done : t.insert i row = .ok (n,t')) : Settled i row t' := by
  obtain ⟨key,keyed,⟨_,_,rfl⟩ | ⟨old,found,⟨_,_,rfl⟩ | ⟨skip,_,rfl⟩⟩⟩ := insert_cases done
  · refine ⟨key,row,keyed,find?_place_same key row t,fun _ => ?_⟩
    funext name
    exact ite_self _
  · exact ⟨key,_,keyed,find?_place_same key _ t,fun _ => Stored.overwrite_overwrite _ _ _⟩
  · exact ⟨key,old,keyed,found,fun update => by rw [skip] at update; cases update⟩

/-- A settled row stays settled, unless a different row has the same key. -/
theorem insert_keeps (done : t.insert i new = .ok (n,t')) (settled : Settled i row t)
    (agree : keyOf i.table new = keyOf i.table row → new = row) : Settled i row t' := by
  by_cases same : keyOf i.table new = keyOf i.table row
  · rw [← agree same]
    exact insert_settles done
  · obtain ⟨key,old,keyed,found,rest⟩ := settled
    obtain ⟨other,keyed',change⟩ := insert_cases done
    have differ : key ≠ other := by
      rintro rfl
      exact same (keyed'.trans keyed.symm)
    have kept : t'.find? key = some old := by
      obtain ⟨_,_,rfl⟩ | ⟨_,_,⟨_,_,rfl⟩ | ⟨_,_,rfl⟩⟩ := change
      · rw [find?_place_other differ,found]
      · rw [find?_place_other differ,found]
      · exact found
    exact ⟨key,old,keyed,kept,rest⟩

theorem insertAll_keeps (done : t.insertAll i rows = .ok (n,t')) (settled : Settled i row t)
    (agree : ∀ new ∈ rows, keyOf i.table (stored new) = keyOf i.table row → stored new = row) :
    Settled i row t' := by
  induction rows generalizing t n with
  | nil =>
    obtain ⟨_,rfl⟩ := insertAll_nil.mp done
    exact settled
  | cons first rest ih =>
    obtain ⟨m,k,u,head,later,_⟩ := insertAll_cons.mp done
    have kept := insert_keeps head settled (agree first (.head _))
    exact ih later kept fun new member => agree new (.tail _ member)

/-- Rows with the same key are the same row. -/
def Agree (i : Insert) (rows : List Parameters) : Prop :=
  ∀ p ∈ rows, ∀ q ∈ rows, keyOf i.table (stored p) = keyOf i.table (stored q) → stored p = stored q

/-- Once they are inserted, rows that agree are settled, all of them. -/
theorem insertAll_settles (done : t.insertAll i rows = .ok (n,t')) (agree : Agree i rows) :
    ∀ row ∈ rows, Settled i (stored row) t' := by
  induction rows generalizing t n with
  | nil => simp
  | cons first rest ih =>
    obtain ⟨m,k,u,head,later,_⟩ := insertAll_cons.mp done
    intro row member
    rcases List.mem_cons.mp member with rfl | member
    · -- What comes later leaves it alone, or is the same row.
      exact insertAll_keeps later (insert_settles head) fun new other =>
        agree new (.tail _ other) row (.head _)
    · exact ih later (fun p one q two => agree p (.tail _ one) q (.tail _ two)) row member

/-- Inserting settled rows once more changes nothing. -/
theorem insertAll_of_settled (settled : ∀ row ∈ rows, Settled i (stored row) t)
    (tolerant : i.policy ≠ .none) :
    ∃ n, t.insertAll i rows = .ok (n,t) ∧ (i.policy = .skip → n = 0) := by
  induction rows with
  | nil => exact ⟨0,rfl,fun _ => rfl⟩
  | cons first rest ih =>
    obtain ⟨n,later,none⟩ := ih fun row member => settled row (.tail _ member)
    obtain ⟨key,old,keyed,found,same⟩ := settled first (.head _)
    cases policy : i.policy with
    | update =>
      have head : t.insert i (stored first) = .ok (1,t) := by
        simp only [insert,keyed,found,policy,same policy,place_found]
      exact ⟨1 + n,insertAll_cons.mpr ⟨1,n,t,head,later,rfl⟩,fun skip => by cases skip⟩
    | skip =>
      have head : t.insert i (stored first) = .ok (0,t) := by
        simp only [insert,keyed,found,policy]
      exact ⟨0 + n,insertAll_cons.mpr ⟨0,n,t,head,later,rfl⟩,fun _ => by rw [none policy]⟩
    | none => exact absurd policy tolerant

/-- Where nothing is overwritten a table only grows, and by given rows only; by all of them where
none may be there already. -/
theorem insertAll_grows (done : t.insertAll i rows = .ok (n,t')) (keeps : i.policy ≠ .update) :
    ∃ more, t'.rows = t.rows ++ more ∧ (∀ entry ∈ more, ∃ row ∈ rows, entry.2 = stored row) ∧
      (i.policy = .none → ∀ row ∈ rows, ∃ entry ∈ more, entry.2 = stored row) := by
  induction rows generalizing t n with
  | nil =>
    obtain ⟨_,rfl⟩ := insertAll_nil.mp done
    exact ⟨[],by simp⟩
  | cons first rest ih =>
    obtain ⟨m,k,u,head,later,_⟩ := insertAll_cons.mp done
    obtain ⟨more,whole,given,all⟩ := ih later
    have given' : ∀ entry ∈ more, ∃ row ∈ first :: rest, entry.2 = stored row := by
      intro entry member
      obtain ⟨row,member,same⟩ := given entry member
      exact ⟨row,.tail _ member,same⟩
    obtain ⟨key,_,⟨absent,_,rfl⟩ | ⟨_,_,⟨update,_⟩ | ⟨skip,_,rfl⟩⟩⟩ := insert_cases head
    · refine ⟨(key,stored first) :: more,?_,?_,?_⟩
      · rw [whole,place_absent absent,List.append_assoc]
        rfl
      · intro entry member
        rcases List.mem_cons.mp member with rfl | member
        · exact ⟨first,.head _,rfl⟩
        · exact given' entry member
      · intro policy row member
        rcases List.mem_cons.mp member with rfl | member
        · exact ⟨_,.head _,rfl⟩
        · obtain ⟨entry,found,same⟩ := all policy row member
          exact ⟨entry,.tail _ found,same⟩
    · exact absurd update keeps
    · exact ⟨more,whole,given',fun policy => by rw [skip] at policy; cases policy⟩

end Table

/-- The moment in a column of a row, if there is one. -/
def Stored.moment (column : String) (row : Stored) : Option Timestamp :=
  match row column with
  | some (.value (.stamp t)) => some t
  | _ => none

/-- When a row was created, if it tells. -/
def Stored.createdAt (row : Stored) : Option Timestamp := row.moment "created_at"

theorem Stored.createdAt_of {row : Stored} {moment : Timestamp}
    (found : row "created_at" = some (.value (.stamp moment))) : row.createdAt = some moment := by
  unfold createdAt Stored.moment
  rw [found]

namespace Table

/-- The newest moment in a column of a table, if there is any. -/
def newestIn (column : String) (t : Table) : Option Timestamp :=
  (t.rows.filterMap fun entry => entry.2.moment column).maxOn? Timestamp.instant

/-- The creation times in a table. -/
def moments (t : Table) : List Timestamp := t.rows.filterMap fun entry => entry.2.createdAt

/-- The newest creation time, if there is any. -/
def newest (t : Table) : Option Timestamp := t.moments.maxOn? Timestamp.instant

/-- The newest creation time, or the first moment of all where there is none. -/
def mark (t : Table) : Timestamp := t.newest.getD .first

variable {t t' : Table} {moment : Timestamp}

theorem mark_of_empty (empty : t.moments = []) : t.mark = .first := by
  rw [mark,newest,empty]
  rfl

theorem le_mark (member : moment ∈ t.moments) : moment.instant ≤ t.mark.instant := by
  have bound : moment.instant ≤ (t.newest.get (List.isSome_maxOn?_of_mem member)).instant :=
    List.le_apply_get_maxOn?_of_mem member
  rw [mark,← Option.get_eq_getD]
  exact bound

theorem mark_mem (found : t.moments ≠ []) : t.mark ∈ t.moments := by
  have isSome : t.newest.isSome = true := List.isSome_maxOn?_iff.mpr found
  obtain ⟨newest,same⟩ := Option.isSome_iff_exists.mp isSome
  unfold mark
  rw [same]
  exact List.maxOn?_mem same

/-- The mark of a table that grows only by what is not before it does not move back. -/
theorem mark_mono {more : List Timestamp} (grown : t'.moments = t.moments ++ more)
    (beyond : ∀ moment ∈ more, t.mark.instant ≤ moment.instant) :
    t.mark.instant ≤ t'.mark.instant := by
  by_cases found : t.moments = []
  · rw [found,List.nil_append] at grown
    cases more with
    | nil =>
      have same : t'.mark = t.mark := by rw [mark_of_empty grown,mark_of_empty found]
      exact Int.le_of_eq (congrArg Timestamp.instant same.symm)
    | cons first rest =>
      have member : first ∈ t'.moments := grown ▸ List.mem_cons_self
      exact Int.le_trans (beyond first (.head _)) (le_mark member)
  · exact le_mark (grown ▸ List.mem_append_left more (mark_mem found))

end Table

end RoomTransfer.Store
