import RoomTransfer.Insert
import RoomTransfer.Proofs.TextReading

/-! The statement of an insert, read back. The reader knows names, quoted names, placeholders and the
words between them, but not which names are reserved. It finds in a statement just what the insert
is made of, so two inserts with one statement write the same. -/
namespace RoomTransfer.Insert

open Text Text.Reader

/-- A name as it stands in a statement. -/
structure Name where
  word : String
  quoted : Bool

/-- What becomes of a row that is there already: it is left alone, or columns are taken over, each
from a column of the refused row. -/
inductive Resolution where
  | leave
  | assign (assignments : List (Name × Name))

/-- What a statement says. The values are the names of their placeholders. -/
structure Statement where
  table : String
  columns : List Name
  values : List String
  conflict : Option (List Name × Resolution)

namespace Statement

section Reading

def word : Reader String := do
  let cs ← span isWord
  return String.ofList cs

def name : Reader Name :=
  (do mark "\""; let s ← word; mark "\""; return ⟨s,true⟩) <|> (do let s ← word; return ⟨s,false⟩)

def placeholder : Reader String := do
  mark "%("
  let s ← word
  mark ")s"
  return s

def assignment : Reader (Name × Name) := do
  let column ← name
  mark " = excluded."
  let source ← name
  return (column,source)

def list {α : Type} (closing : Reader Unit) (item : Reader α) : Reader (List α) :=
  separated closing (mark ", ") item

def resolution : Reader Resolution :=
  (do mark "nothing"; ended; return .leave) <|>
    (do mark "update set "; let assignments ← list ended assignment; return .assign assignments)

def clause : Reader (Option (List Name × Resolution)) :=
  (do ended; return none) <|> (do
    mark " on conflict ("
    let target ← list (mark ") do ") name
    let resolution ← resolution
    return some (target,resolution))

def statement : Reader Statement := do
  mark "insert into "
  let table ← word
  mark " ("
  let columns ← list (mark ") values (") name
  let values ← list (mark ")") placeholder
  let conflict ← clause
  return ⟨table,columns,values,conflict⟩

/-- What a text says as a statement. -/
def ofText? (s : String) : Option Statement := statement.whole? s

end Reading

end Statement

/-- Letters, digits and underscores, at least one. -/
def IsPlainName (s : String) : Prop := s ≠ "" ∧ ∀ c ∈ s.toList, isWord c = true

-- The characters are named, since another instance would run through all that there are.
instance (s : String) : Decidable (IsPlainName s) :=
  @instDecidableAnd _ _ instDecidableNot (List.decidableBAll (fun c => isWord c = true) s.toList)

/-- An insert of plain names, with a placeholder for every column. -/
structure Plain (i : Insert) : Prop where
  table : IsPlainName i.table
  columns : ∀ c ∈ i.columns, IsPlainName c
  conflictTarget : ∀ c ∈ i.conflictTarget, IsPlainName c
  updateColumns : ∀ c ∈ i.updateColumns, IsPlainName c
  expressions : i.expressions = []

/-- A column's name as it has to stand in a statement: quoted exactly if it is reserved. -/
def named (column : String) : Name := ⟨column,reserved.contains column⟩

/-- What an insert of plain names asks for. -/
def statement (i : Insert) : Statement where
  table := i.table
  columns := i.columns.map named
  values := i.columns
  conflict := match i.policy with
    | .none => none
    | .skip => some (i.conflictTarget.map named,.leave)
    | .update => some (i.conflictTarget.map named,
        .assign (i.updateColumns.map fun c => (named c,named c)))

namespace Statement

section Written

variable {s : String} {rest : List Char}

/-- A text at which a name may end. -/
def Stops (rest : List Char) : Prop := rest.takeWhile isWord = []

theorem first_of_plain (plain : IsPlainName s) : ∃ c cs, s.toList = c :: cs ∧ isWord c = true := by
  cases chars : s.toList with
  | nil => exact absurd (String.toList_eq_nil_iff.mp chars) plain.1
  | cons c cs => exact ⟨c,cs,rfl,plain.2 c (by simp [chars])⟩

theorem word_reads (plain : IsPlainName s) (stops : Stops rest) : word.Reads s.toList rest s := by
  obtain ⟨c,cs,chars,_⟩ := first_of_plain plain
  have read := span_reads plain.2 (by simp [chars]) stops
  have whole := read.returns String.ofList
  rwa [String.ofList_toList] at whole

theorem name_reads (plain : IsPlainName s) (stops : Stops rest) :
    name.Reads (quotedName s).toList rest (named s) := by
  unfold quotedName named
  cases reserved : reserved.contains s with
  | true =>
    have inside : word.Reads s.toList ("\"".toList ++ rest) s := word_reads plain rfl
    rw [if_pos rfl,String.toList_append,String.toList_append,List.append_assoc]
    refine Reads.orElse ((mark_reads "\"" _).bind (inside.bind ?_))
    exact (mark_reads "\"" rest).returns fun _ => (⟨s,true⟩ : Name)
  | false =>
    obtain ⟨c,cs,chars,letter⟩ := first_of_plain plain
    have bare : c ≠ '"' := by
      rintro rfl
      exact absurd letter (by decide)
    have plainly := (word_reads plain stops).returns fun s => (⟨s,false⟩ : Name)
    rw [if_neg (by decide)]
    refine Fails.orElse ?_ plainly
    rw [chars]
    exact (mark_fails rfl bare.symm).bind _

theorem placeholder_reads (plain : IsPlainName s) (rest : List Char) :
    placeholder.Reads ("%(" ++ s ++ ")s").toList rest s := by
  have inside : word.Reads s.toList (")s".toList ++ rest) s := word_reads plain rfl
  rw [String.toList_append,String.toList_append,List.append_assoc]
  refine (mark_reads "%(" _).bind (inside.bind ?_)
  exact (mark_reads ")s" rest).returns fun _ => s

theorem assignment_reads (plain : IsPlainName s) (stops : Stops rest) :
    assignment.Reads (Insert.assignment s).toList rest (named s,named s) := by
  have column : name.Reads (quotedName s).toList
      (" = excluded.".toList ++ (quotedName s).toList ++ rest) (named s) := name_reads plain rfl
  unfold Insert.assignment
  rw [String.toList_append,String.toList_append,List.append_assoc]
  refine column.bind ((mark_reads " = excluded." _).bind ?_)
  exact (name_reads plain stops).returns fun source => (named s,source)

/-- A list over some names, up to its end or to a closing parenthesis. -/
theorem list_reads {α : Type} {closing : Reader Unit} {close rest : List Char} {item : Reader α}
    {write : String → String} {found : String → α} {names : List String}
    (closes : closing.Reads close rest ()) (opens : ∀ d more, d ≠ ')' → closing.Fails (d :: more))
    (starts : ∀ s ∈ names, ∃ d more, (write s).toList = d :: more ∧ d ≠ ')')
    (each : ∀ s ∈ names, ∀ more, Stops more → item.Reads (write s).toList more (found s))
    (last : Stops (close ++ rest)) :
    (list closing item).Reads ((listed (names.map write)).toList ++ close) rest (names.map found) := by
  have text : (listed (names.map write)).toList =
      ", ".toList.intercalate (names.map fun s => (write s).toList) := by
    rw [listed,String.toList_intercalate,List.map_map]
    rfl
  rw [text]
  refine separated_reads (by decide) closes ?_ ?_ ?_ each last fun _ => rfl
  · intro s member more
    obtain ⟨d,others,chars,differ⟩ := starts s member
    rw [chars]
    exact opens d _ differ
  · exact fun more => opens ',' _ (by decide)
  · exact fun _ _ _ => mark_reads ", " _

theorem quotedName_starts (plain : IsPlainName s) :
    ∃ d more, (quotedName s).toList = d :: more ∧ d ≠ ')' := by
  unfold quotedName
  split
  · exact ⟨'"',_,by rw [String.toList_append,String.toList_append]; rfl,by decide⟩
  · obtain ⟨c,cs,chars,letter⟩ := first_of_plain plain
    refine ⟨c,cs,chars,?_⟩
    rintro rfl
    exact absurd letter (by decide)

theorem names_read {closing : Reader Unit} {close : List Char} {names : List String}
    (plain : ∀ s ∈ names, IsPlainName s) (closes : closing.Reads close rest ())
    (opens : ∀ d more, d ≠ ')' → closing.Fails (d :: more)) (last : Stops (close ++ rest)) :
    (list closing name).Reads ((listed (names.map quotedName)).toList ++ close) rest
      (names.map named) :=
  list_reads closes opens (fun s member => quotedName_starts (plain s member))
    (fun s member _ stops => name_reads (plain s member) stops) last

theorem placeholders_read {names : List String} (plain : ∀ s ∈ names, IsPlainName s) :
    (list (mark ")") placeholder).Reads ((listed (names.map fun s => "%(" ++ s ++ ")s")).toList ++
      ")".toList) rest names := by
  have read : (list (mark ")") placeholder).Reads
      ((listed (names.map fun s => "%(" ++ s ++ ")s")).toList ++ ")".toList) rest (names.map id) :=
    list_reads (mark_reads ")" rest) (fun d more differ => mark_fails rfl differ.symm)
      (fun s _ => ⟨'%',_,by rw [String.toList_append,String.toList_append]; rfl,by decide⟩)
      (fun s member more _ => placeholder_reads (plain s member) more) rfl
  rwa [List.map_id] at read

theorem assignments_read {names : List String} (plain : ∀ s ∈ names, IsPlainName s) :
    (list ended Statement.assignment).Reads (listed (names.map Insert.assignment)).toList []
      (names.map fun s => (named s,named s)) := by
  have starts (s : String) (member : s ∈ names) :
      ∃ d more, (Insert.assignment s).toList = d :: more ∧ d ≠ ')' := by
    obtain ⟨d,more,chars,differ⟩ := quotedName_starts (plain s member)
    refine ⟨d,more ++ " = excluded.".toList ++ (quotedName s).toList,?_,differ⟩
    rw [Insert.assignment,String.toList_append,String.toList_append,chars]
    rfl
  have read := list_reads ended_reads (fun _ _ _ => rfl) starts
    (fun s member more stops => assignment_reads (plain s member) stops) rfl
  rwa [List.append_nil] at read

end Written

section Whole

variable {i : Insert}

theorem clause_reads (plain : i.Plain) : clause.Reads i.conflictClause.toList [] i.statement.conflict := by
  have target (more : List Char) := names_read plain.conflictTarget
    (mark_reads ") do " more) (fun d more differ => mark_fails rfl differ.symm) rfl
  unfold conflictClause Insert.statement
  cases i.policy with
  | none => exact (ended_reads.returns fun _ => none).orElse
  | skip =>
    have text : (" on conflict (" ++ listed (i.conflictTarget.map quotedName) ++
        ") do nothing").toList = " on conflict (".toList ++ (((listed (i.conflictTarget.map
          quotedName)).toList ++ ") do ".toList) ++ "nothing".toList) := by
      simp only [String.toList_append,List.append_assoc]
      rfl
    dsimp only
    rw [text]
    have left : resolution.Reads "nothing".toList [] .leave := rfl
    exact Fails.orElse rfl ((mark_reads _ _).bind ((target _).bind (left.returns _)))
  | update =>
    have text : (" on conflict (" ++ listed (i.conflictTarget.map quotedName) ++
        ") do update set " ++ listed (i.updateColumns.map Insert.assignment)).toList =
          " on conflict (".toList ++ (((listed (i.conflictTarget.map quotedName)).toList ++
            ") do ".toList) ++ ("update set ".toList ++
              (listed (i.updateColumns.map Insert.assignment)).toList)) := by
      simp only [String.toList_append,List.append_assoc]
      rfl
    dsimp only
    rw [text]
    refine Fails.orElse rfl ((mark_reads _ _).bind ((target _).bind (Reads.returns ?_ _)))
    refine Fails.orElse rfl ((mark_reads _ _).bind ?_)
    exact (assignments_read plain.updateColumns).returns Resolution.assign

/-- The statement of an insert of plain names says what the insert asks for. -/
theorem ofText?_sql (plain : i.Plain) : ofText? i.sql = some i.statement := by
  have values : i.columns.map i.valueOf = i.columns.map fun s => "%(" ++ s ++ ")s" := by
    simp [valueOf,plain.expressions]
  have text : i.sql.toList = "insert into ".toList ++ (i.table.toList ++ (" (".toList ++
      (((listed (i.columns.map quotedName)).toList ++ ") values (".toList) ++
        (((listed (i.columns.map fun s => "%(" ++ s ++ ")s")).toList ++ ")".toList) ++
          i.conflictClause.toList)))) := by
    unfold sql
    simp only [values,String.toList_append,List.append_assoc]
  refine whole?_of_reads ?_
  rw [text]
  have columns (more : List Char) := names_read plain.columns
    (mark_reads ") values (" more) (fun d more differ => mark_fails rfl differ.symm) rfl
  refine (mark_reads _ _).bind (Reads.bind (word_reads plain.table ?_) ((mark_reads _ _).bind ?_))
  · rfl
  refine (columns _).bind ((placeholders_read plain.columns).bind ?_)
  exact (clause_reads plain).returns fun conflict =>
    (⟨i.table,i.columns.map named,i.columns,conflict⟩ : Statement)

end Whole

end Statement

variable {i j : Insert}

/-- An insert that can be built takes over only columns that it inserts. -/
theorem updates_inserted (made : i.check = .ok i) : ∀ c ∈ i.updateColumns, c ∈ i.columns := by
  have sound : i.defect? = none := by
    unfold check at made
    split at made
    · cases made
    · assumption
  have known : i.unknownColumns = [] := by
    unfold defect? at sound
    split at sound
    · cases sound
    · split at sound
      · cases sound
      · split at sound
        · cases sound
        · next none => exact not_not.mp none
  have none : i.updateColumns.filter (fun c => !i.columns.contains c) = [] := by
    have sizes := congrArg List.length known
    unfold unknownColumns at sizes
    cases unknown : i.updateColumns.filter fun c => !i.columns.contains c with
    | nil => rfl
    | cons c others =>
      rw [unknown,List.length_mergeSort,List.eraseDups_cons] at sizes
      cases sizes
  intro c member
  have found := List.filter_eq_nil_iff.mp none c member
  simpa using found

theorem named_injective : Function.Injective named := fun _ _ same => congrArg Name.word same

/-- Inserts with one statement ask for the same. -/
theorem statement_inj (same : i.statement = j.statement) : i.table = j.table ∧
    i.columns = j.columns ∧ i.policy = j.policy ∧
      (i.policy ≠ .none → i.conflictTarget = j.conflictTarget) ∧
        (i.policy = .update → i.updateColumns = j.updateColumns) := by
  obtain ⟨table,_,columns,conflict⟩ := Statement.mk.inj same
  have targets {names names' : List String} (same : names.map named = names'.map named) :
      names = names' := List.map_injective_iff.mpr named_injective same
  refine ⟨table,columns,?_⟩
  cases policy : i.policy with
  | none =>
    cases policy' : j.policy with
    | none => exact ⟨rfl,fun given => absurd rfl given,nofun⟩
    | skip | update => simp [policy,policy'] at conflict
  | skip =>
    cases policy' : j.policy with
    | skip =>
      simp only [policy,policy',Option.some.injEq,Prod.mk.injEq] at conflict
      exact ⟨rfl,fun _ => targets conflict.1,nofun⟩
    | none | update => simp [policy,policy'] at conflict
  | update =>
    cases policy' : j.policy with
    | update =>
      simp only [policy,policy',Option.some.injEq,Prod.mk.injEq,Resolution.assign.injEq] at conflict
      have pairs := congrArg (List.map fun pair : Name × Name => pair.1.word) conflict.2
      refine ⟨rfl,fun _ => targets conflict.1,fun _ => ?_⟩
      simpa [named,Function.comp_def] using pairs
    | none | skip => simp [policy,policy'] at conflict

/-- In the statement of an insert that can be built of plain names every column stands in its place,
quoted exactly if it is reserved, with the placeholder of its own name in the same place among the
values. What becomes of a row that is there already is said exactly where the insert tells, over its
conflict target, and a column that is taken over is taken over from itself and inserted as well. Two
such inserts with one statement differ at most in what their policy has no use for. -/
theorem statement_faithful (i j : Insert) (made : i.check = .ok i) (plain : i.Plain)
    (plain' : j.Plain) :
    (∃ s : Statement, Statement.ofText? i.sql = some s ∧ s.table = i.table ∧
      s.columns.length = i.columns.length ∧ s.values.length = i.columns.length ∧
      (∀ (n : Nat) (c : String), i.columns[n]? = some c →
        s.columns[n]? = some ⟨c,reserved.contains c⟩ ∧ s.values[n]? = some c) ∧
      (i.policy = .none → s.conflict = none) ∧
      (i.policy = .skip → s.conflict = some (i.conflictTarget.map named,.leave)) ∧
      (i.policy = .update → s.conflict = some (i.conflictTarget.map named,
          .assign (i.updateColumns.map fun c => (named c,named c))) ∧
        ∀ c ∈ i.updateColumns, c ∈ i.columns)) ∧
    (i.sql = j.sql → i.table = j.table ∧ i.columns = j.columns ∧ i.policy = j.policy ∧
      (i.policy ≠ .none → i.conflictTarget = j.conflictTarget) ∧
      (i.policy = .update → i.updateColumns = j.updateColumns)) := by
  have read := Statement.ofText?_sql plain
  constructor
  · refine ⟨i.statement,read,rfl,List.length_map _,rfl,?_,?_,?_,?_⟩
    · intro n c found
      have there : (i.columns.map named)[n]? = some (named c) := by
        rw [List.getElem?_map,found,Option.map_some]
      exact ⟨there,found⟩
    · intro policy
      simp only [statement,policy]
    · intro policy
      simp only [statement,policy]
    · intro policy
      exact ⟨by simp only [statement,policy],updates_inserted made⟩
  · intro same
    have read' := Statement.ofText?_sql plain'
    rw [← same,read] at read'
    exact statement_inj (Option.some.inj read')

/-- An insert that takes over a column with a reserved name. -/
def takingOver : Insert where
  table := "adjustment"
  columns := ["room_id","offset"]
  policy := .update
  conflictTarget := ["room_id"]
  updateColumns := ["offset"]

/-- The same of other columns. -/
def takingOverOther : Insert := { takingOver with columns := ["offset","room_id"] }

/-- The order of columns shows in the statement. -/
theorem column_order_told : takingOver.check = .ok takingOver ∧ takingOver.Plain ∧ takingOverOther.Plain ∧
    (∃ s : Statement, Statement.ofText? takingOver.sql = some s ∧
      s.conflict = some ([⟨"room_id",false⟩],.assign [(⟨"offset",true⟩,⟨"offset",true⟩)])) ∧
    takingOver.sql ≠ takingOverOther.sql := by
  have made : takingOver.check = .ok takingOver := by
    simp [check,defect?,unknownColumns,takingOver]
  have plain : takingOver.Plain := ⟨by decide,by decide,by decide,by decide,rfl⟩
  have plain' : takingOverOther.Plain := ⟨by decide,by decide,by decide,by decide,rfl⟩
  obtain ⟨⟨s,read,_,_,_,_,_,_,update⟩,apart⟩ :=
    statement_faithful takingOver takingOverOther made plain plain'
  refine ⟨made,plain,plain',⟨s,read,(update rfl).1⟩,fun same => ?_⟩
  exact absurd (apart same).2.1 (by decide)

end RoomTransfer.Insert
