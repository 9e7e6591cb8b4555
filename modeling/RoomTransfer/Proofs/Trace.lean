import RoomTransfer.Run

/-! Traces with a transaction in them: kinds of items, requests that succeeded, and the one form
of a trace whose transaction began. -/
namespace RoomTransfer

theorem mem_traceOf {item : Store.Item} {effects : List Effect} :
    item ∈ traceOf effects ↔ .item item ∈ effects := by
  simp only [traceOf,List.mem_filterMap]
  constructor
  · rintro ⟨e,member,found⟩
    cases e with
    | item other => obtain rfl := Option.some.inj found; exact member
    | log record => cases found
  · exact fun member => ⟨_,member,rfl⟩

@[simp] theorem traceOf_append (first second : List Effect) :
    traceOf (first ++ second) = traceOf first ++ traceOf second := List.filterMap_append

namespace Store

namespace Item

def isBegin : Item → Bool
  | .request .begin => true
  | _ => false

def isCommit : Item → Bool
  | .request .commit => true
  | _ => false

def isRollback : Item → Bool
  | .rollback _ => true
  | _ => false

/-- What ends a transaction: an attempt to commit it, or a rollback. -/
def endsTransaction (item : Item) : Bool := item.isCommit || item.isRollback

/-- A statement that is executed on the target, with one or with many rows of parameters. -/
def isTargetStatement : Item → Bool
  | .request (.execute .target _ _ _) | .request (.insert _ _) => true
  | _ => false

/-- An item that has nothing to do with a transaction. -/
def isQuiet (item : Item) : Bool :=
  !item.isBegin && !item.endsTransaction && !item.isTargetStatement

/-- Items of a step: reading from both stores, writing to the target, and progress. -/
def isStepItem : Item → Bool
  | .request (.execute _ _ _ _) | .request (.insert _ _) | .request (.fetch _ _ _) => true
  | .failed _ _ | .cursor _ _ | .progressOpen _ _ _ | .progressUpdate _ | .progressClose => true
  | _ => false

end Item

/-- All of a trace, or a part of one, is quiet. -/
def AllQuiet (items : List Item) : Prop := ∀ item ∈ items, item.isQuiet = true

/-- That a request of this side failed, or nothing where it did not. -/
def Refusal (side : Side) (items : List Item) : Prop :=
  items = [] ∨ ∃ label, items = [.failed side label]

/-- What stands before these items was refused by the target. -/
def refused : List Item → Bool
  | .failed .target _ :: _ => true
  | _ => false

/-- An item of this kind is in the trace, and the target did not refuse it. -/
def succeeded (kind : Item → Bool) : List Item → Bool
  | [] => false
  | item :: rest => (kind item && !refused rest) || succeeded kind rest

theorem succeeded_append {kind : Item → Bool} {before : List Item} (after : List Item)
    (absent : ∀ item ∈ before, kind item = false) :
    succeeded kind (before ++ after) = succeeded kind after := by
  induction before with
  | nil => rfl
  | cons item rest ih =>
    have head : kind item = false := absent item (by simp)
    have tail := ih fun other member => absent other (List.mem_cons_of_mem item member)
    simp [succeeded,head,tail]

theorem succeeded_absent {kind : Item → Bool} {trace : List Item}
    (absent : ∀ item ∈ trace, kind item = false) : succeeded kind trace = false := by
  simpa [succeeded] using succeeded_append [] absent

/-- What comes later changes nothing, unless it starts with a refusal. -/
theorem succeeded_append_left {kind : Item → Bool} (before : List Item) {after : List Item}
    (granted : refused after = false) (absent : ∀ item ∈ after, kind item = false) :
    succeeded kind (before ++ after) = succeeded kind before := by
  induction before with
  | nil => exact succeeded_absent absent
  | cons item rest ih =>
    have same : refused (rest ++ after) = refused rest := by
      cases rest with
      | nil => exact granted
      | cons other rest => cases other with
        | failed side label => cases side <;> rfl
        | _ => rfl
    simp [succeeded,ih,same]

theorem any_of_succeeded {kind : Item → Bool} {trace : List Item}
    (found : succeeded kind trace = true) : trace.any kind = true := by
  induction trace with
  | nil => cases found
  | cons item rest ih =>
    simp only [succeeded,Bool.or_eq_true,Bool.and_eq_true] at found
    rcases found with ⟨here,_⟩ | later
    · simp [here]
    · simp [ih later]

/-- Where two divisions of a list meet: before each other, at the same place, or behind. -/
theorem split_cases {α : Type} {l₁ l₂ before after : List α} {x y : α}
    (same : l₁ ++ x :: l₂ = before ++ y :: after) :
    (∃ m, l₁ = before ++ y :: m ∧ after = m ++ x :: l₂) ∨
    (before = l₁ ∧ y = x ∧ after = l₂) ∨
    (∃ m, before = l₁ ++ x :: m ∧ l₂ = m ++ y :: after) := by
  rcases List.append_eq_append_iff.mp same with ⟨m,first,second⟩ | ⟨m,first,second⟩
  · cases m with
    | nil => simp_all
    | cons z m =>
      obtain ⟨rfl,rfl⟩ := List.cons.inj second
      exact .inr (.inr ⟨m,first,rfl⟩)
  · cases m with
    | nil => simp_all
    | cons z m =>
      obtain ⟨rfl,rfl⟩ := List.cons.inj second
      exact .inl ⟨m,first,rfl⟩

theorem Item.isQuiet_iff {item : Item} : item.isQuiet = true ↔ item.isBegin = false ∧
    item.isCommit = false ∧ item.isRollback = false ∧ item.isTargetStatement = false := by
  simp [isQuiet,endsTransaction,and_assoc]

theorem Item.isStepItem_inert {item : Item} (step : item.isStepItem = true) :
    item.isBegin = false ∧ item.isCommit = false ∧ item.isRollback = false := by
  cases item with
  | request request => cases request <;> simp_all [isStepItem,isBegin,isCommit,isRollback]
  | rollback kind => simp [isStepItem] at step
  | _ => exact ⟨rfl,rfl,rfl⟩

/-- A trace with one transaction that began: quiet, the begin, what the steps do, the one item
that ends it, and quiet again. The target did not refuse the begin, for a cursor follows it. -/
structure Bracketed (trace before body : List Item) (last : Item) (after : List Item) : Prop where
  shape : trace = before ++ .request .begin :: (body ++ last :: after)
  quietBefore : AllQuiet before
  steps : ∀ item ∈ body, item.isStepItem = true
  opens : ∃ rest, body = .cursor .target none :: rest
  ends : last.endsTransaction = true
  quietAfter : AllQuiet after

namespace Bracketed

variable {trace before body after front back : List Item} {last item : Item}

/-- From the first item of the steps on, the begin is known to have succeeded. -/
theorem begun_within (whole : Bracketed trace before body last after) {early rest : List Item}
    (part : body = early ++ rest) :
    succeeded Item.isBegin (before ++ .request .begin :: early) = true := by
  obtain ⟨others,opens⟩ := whole.opens
  have granted : refused early = false := by
    cases early with
    | nil => rfl
    | cons item early =>
      obtain ⟨rfl,_⟩ := List.cons.inj (part.symm.trans opens)
      rfl
  rw [succeeded_append _ fun item member => (Item.isQuiet_iff.mp (whole.quietBefore item member)).1]
  simp [succeeded,granted,Item.isBegin]

theorem begun (whole : Bracketed trace before body last after) :
    succeeded Item.isBegin trace = true := by
  obtain ⟨others,opens⟩ := whole.opens
  rw [whole.shape,
    succeeded_append _ fun item member => (Item.isQuiet_iff.mp (whole.quietBefore item member)).1]
  simp [succeeded,opens,refused,Item.isBegin]

/-- Nothing ends the transaction up to the last item of the steps. -/
theorem open_within (whole : Bracketed trace before body last after) {early rest : List Item}
    (part : body = early ++ rest) :
    ∀ item ∈ before ++ .request .begin :: early, item.endsTransaction = false := by
  intro item member
  rcases List.mem_append.mp member with outside | inside
  · have inert := Item.isQuiet_iff.mp (whole.quietBefore item outside)
    simp [Item.endsTransaction,inert]
  · rcases List.mem_cons.mp inside with rfl | step
    · rfl
    · have inert := Item.isStepItem_inert (whole.steps item (by simp [part,step]))
      simp [Item.endsTransaction,inert]

/-- Items of a kind that neither the quiet parts nor the steps have can stand at two places. -/
theorem countP_eq (whole : Bracketed trace before body last after) {kind : Item → Bool}
    (quiet : ∀ item : Item, item.isQuiet = true → kind item = false)
    (steps : ∀ item : Item, item.isStepItem = true → kind item = false) :
    trace.countP kind =
      (if kind (.request .begin) then 1 else 0) + if kind last then 1 else 0 := by
  have none (items : List Item) (absent : ∀ item ∈ items, kind item = false) :
      items.countP kind = 0 := by
    simpa [List.countP_eq_zero] using absent
  rw [whole.shape]
  simp only [List.countP_append,List.countP_cons,
    none before fun item member => quiet item (whole.quietBefore item member),
    none after fun item member => quiet item (whole.quietAfter item member),
    none body fun item member => steps item (whole.steps item member)]
  omega

theorem begins (whole : Bracketed trace before body last after) :
    trace.countP Item.isBegin = 1 := by
  have other : last.isBegin = false := by
    have ends := whole.ends
    cases last with
    | request request => cases request <;> simp_all [Item.endsTransaction,Item.isCommit,
        Item.isRollback,Item.isBegin]
    | _ => rfl
  rw [whole.countP_eq (fun _ quiet => (Item.isQuiet_iff.mp quiet).1)
    (fun _ step => (Item.isStepItem_inert step).1),other]
  rfl

theorem commits (whole : Bracketed trace before body last after) :
    trace.any Item.isCommit = last.isCommit := by
  have count : trace.countP Item.isCommit = 0 + if last.isCommit then 1 else 0 :=
    whole.countP_eq (fun _ quiet => (Item.isQuiet_iff.mp quiet).2.1)
      (fun _ step => (Item.isStepItem_inert step).2.1)
  rw [Bool.eq_iff_iff,List.any_eq_true,← List.countP_pos_iff,count]
  cases last.isCommit <;> simp

theorem rollbacks (whole : Bracketed trace before body last after) :
    trace.countP Item.isRollback = if last.isRollback then 1 else 0 :=
  (whole.countP_eq (fun _ quiet => (Item.isQuiet_iff.mp quiet).2.2.1)
    (fun _ step => (Item.isStepItem_inert step).2.2)).trans (Nat.zero_add _)

theorem statement_inside (whole : Bracketed trace before body last after)
    (place : trace = front ++ item :: back) (statement : item.isTargetStatement = true) :
    ∃ early late, front = before ++ .request .begin :: early ∧ body = early ++ item :: late ∧
      back = late ++ last :: after := by
  have loud {items : List Item} (quiet : AllQuiet items) (member : item ∈ items) : False := by
    have still := (Item.isQuiet_iff.mp (quiet item member)).2.2.2
    rw [statement] at still
    cases still
  have ends : item ≠ last := by
    rintro rfl
    have last := whole.ends
    cases item with
    | request request => cases request <;>
        simp_all [Item.isTargetStatement,Item.endsTransaction,Item.isCommit,Item.isRollback]
    | _ => simp [Item.isTargetStatement] at statement
  rcases split_cases (whole.shape.symm.trans place) with ⟨m,earlier,_⟩ | ⟨_,rfl,_⟩ | ⟨m,behind,rest⟩
  · exact (loud whole.quietBefore (by simp [earlier])).elim
  · simp [Item.isTargetStatement] at statement
  · rcases split_cases rest with ⟨late,inside,outside⟩ | ⟨_,same,_⟩ | ⟨late,_,later⟩
    · exact ⟨m,late,behind,inside,outside⟩
    · exact (ends same).elim
    · exact (loud whole.quietAfter (by simp [later])).elim

/-- What ends the transaction stands behind the steps and before quiet items only. -/
theorem end_place (whole : Bracketed trace before body last after)
    (place : trace = front ++ item :: back) (ends : item.endsTransaction = true) :
    front = before ++ .request .begin :: body ∧ item = last ∧ back = after := by
  have still {items : List Item} (quiet : AllQuiet items) (member : item ∈ items) : False := by
    have inert := Item.isQuiet_iff.mp (quiet item member)
    simp [Item.endsTransaction,inert.2.1,inert.2.2.1] at ends
  rcases split_cases (whole.shape.symm.trans place) with ⟨m,earlier,_⟩ | ⟨_,rfl,_⟩ | ⟨m,behind,rest⟩
  · exact (still whole.quietBefore (by simp [earlier])).elim
  · simp [Item.endsTransaction,Item.isCommit,Item.isRollback] at ends
  · rcases split_cases rest with ⟨late,inside,_⟩ | ⟨rfl,same,rfl⟩ | ⟨late,_,later⟩
    · have inert := Item.isStepItem_inert (whole.steps item (by simp [inside]))
      simp [Item.endsTransaction,inert] at ends
    · exact ⟨behind,same,rfl⟩
    · exact (still whole.quietAfter (by simp [later])).elim

end Bracketed

end Store

end RoomTransfer
