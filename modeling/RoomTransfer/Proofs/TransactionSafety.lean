import RoomTransfer.Proofs.Course
import RoomTransfer.Proofs.Trace

/-! Safety of the target transaction. The trace of a run holds at most one transaction: its begin,
the trace of the three steps, and the one item that ends it. All that is executed on the target
lies inside. -/
namespace RoomTransfer

open Store

/-- The conduct of what goes on around a transaction: nothing of one happens, and a view of the
run's state stays as it is. -/
def Conduct.quietly {σ β : Type} (view : RunState → β) : Conduct σ :=
  .keeping (fun w => view w.state) fun
    | .item item => item.isQuiet = true
    | .log _ => True

section Quiet

variable {σ β : Type}

theorem Store.Item.isQuiet_of_session {item : Item} (session : item.isSessionItem = true) :
    item.isQuiet = true := by
  cases item with
  | request request => cases request <;> first | rfl | cases session
  | _ => first | rfl | cases session

/-- All of a trace, or a part of one, is of the sessions. -/
def Store.OfSessions (items : List Item) : Prop := ∀ item ∈ items, item.isSessionItem = true

theorem Store.OfSessions.quiet {items : List Item} (sessions : OfSessions items) : AllQuiet items :=
  fun item member => Item.isQuiet_of_session (sessions item member)

theorem Store.OfSessions.append {first second : List Item} (one : OfSessions first)
    (two : OfSessions second) : OfSessions (first ++ second) := by
  intro item member
  rcases List.mem_append.mp member with before | after
  · exact one item before
  · exact two item after

theorem Store.Refusal.ofSessions {side : Side} {items : List Item} (refused : Refusal side items) :
    OfSessions items := by
  rcases refused with rfl | ⟨label,rfl⟩ <;> intro item member
  · cases member
  · obtain rfl := List.mem_singleton.mp member
    rfl

theorem Conduct.quietly_admitsSessions [Database σ] {view : RunState → β} :
    (Conduct.quietly view : Conduct σ).AdmitsSessions :=
  ⟨fun _ _ => trivial,fun _ session => Item.isQuiet_of_session session,fun _ _ _ => rfl,fun _ _ => rfl⟩

theorem Conduct.quietly_admitsBooking :
    (Conduct.quietly RunState.dryRun : Conduct σ).AdmitsBooking :=
  ⟨fun _ _ => trivial,fun _ _ => rfl,fun _ _ kept => kept⟩

variable [Database σ]

theorem Migration.preparing_quietly (settings : Settings) :
    (preparing settings : Run σ Unit).Follows (.quietly RunState.dryRun) :=
  preparing_follows Conduct.quietly_admitsBooking Conduct.quietly_admitsSessions settings

/-- The conduct of what goes on around a transaction, as far as its items tell: they are of the
sessions. -/
def Conduct.ofSessions : Conduct σ where
  allows
    | .item item => item.isSessionItem = true
    | .log _ => True
  moves _ _ := True
  refl _ := trivial
  trans _ _ := trivial

omit [Database σ] in
theorem Conduct.ofSessions_admitsBooking : (Conduct.ofSessions : Conduct σ).AdmitsBooking :=
  ⟨fun _ _ => trivial,fun _ _ => trivial,fun _ _ _ => trivial⟩

theorem Conduct.ofSessions_admitsSessions : (Conduct.ofSessions : Conduct σ).AdmitsSessions :=
  ⟨fun _ _ => trivial,fun _ session => session,fun _ _ _ => trivial,fun _ _ => trivial⟩

omit [Database σ] in
theorem Run.Follows.ofSessions {α : Type} {x : Run σ α} (follows : x.Follows .ofSessions)
    (w : World σ) : OfSessions (traceOf (x w).effects) :=
  fun _ member => follows.effects w _ (mem_traceOf.mp member)

/-- All that stands before a transaction is of the sessions. -/
theorem Migration.preparing_items (settings : Settings) (w : World σ) :
    OfSessions (traceOf (preparing settings w).effects) :=
  (preparing_follows Conduct.ofSessions_admitsBooking Conduct.ofSessions_admitsSessions
    settings).ofSessions w

theorem Migration.cleanUp_items (w : World σ) : OfSessions (traceOf (cleanUp w).effects) :=
  (cleanUp_follows Conduct.ofSessions_admitsSessions).ofSessions w

omit [Database σ] in
theorem Migration.ending_items (result : Except Failure Unit) (w : World σ) :
    OfSessions (traceOf (ending result w).effects) :=
  (ending_follows Conduct.ofSessions_admitsBooking (fun _ => trivial) result).ofSessions w

theorem Migration.cleanUp_quietly (view : RunState → β) :
    (cleanUp : Run σ Unit).Follows (.quietly view) :=
  cleanUp_follows Conduct.quietly_admitsSessions

end Quiet

namespace Migration

variable {σ : Type} [Database σ]

/-- All that a run does up to the begin of its transaction, with the begin. -/
def opening (settings : Settings) : Run σ Unit := do
  Run.ofExcept settings.requireLegacy
  Run.ofExcept settings.requireTarget
  preparing settings
  let _ ← Run.ask .begin

/-- How the block inside the transaction of a run went. -/
def block (settings : Settings) (w : World σ) : Outcome σ Unit :=
  steps settings.options (opening settings w).world

/-- A transaction began, and its body was left with the demand to roll it back. -/
def Abandons (body : Run σ Unit) (w : World σ) : Prop :=
  (∃ reply, (Run.ask .begin w).result = .ok reply) ∧
    ∃ failure, (body (Run.ask .begin w).world).result = .error failure ∧ failure.isRollback = true

/-- The block was left with the demand to roll the transaction back, and the run goes on as if it had
returned. The demand is meant for code inside of a block: no database makes it by itself. -/
def Undone (settings : Settings) (w : World σ) : Prop :=
  (opening settings w).result = .ok () ∧
    ∃ failure, (block settings w).result = .error failure ∧ failure.isRollback = true

/-- The three steps, one starting where the one before it ended, each returned normally. -/
structure StepsReturn (options : Options) (w : World σ) : Prop where
  rooms : ∃ n, (transferRooms options w).result = .ok n
  adjustments : ∃ n, (transferAdjustments options (transferRooms options w).world).result = .ok n
  events : ∃ n, (transferEvents options
    (transferAdjustments options (transferRooms options w).world).world).result = .ok n

/-- What a transaction is rolled back by: the kind of the failure that left its block, or the
signal that a completed dry run gives. -/
def rollbackKind : Except Failure Unit → String
  | .error failure => failure.kind.name
  | .ok () => "Rollback"

/-- The item that ends a transaction whose block ended in this way. -/
def endItem (result : Except Failure Unit) (dryRun : Bool) : Item :=
  match result with
  | .error failure => .rollback failure.kind.name
  | .ok () => if dryRun then .rollback "Rollback" else .request .commit

theorem steps_return_iff (options : Options) (w : World σ) :
    (steps options w).result = .ok () ↔ StepsReturn options w := by
  have returns (entity : String) (x : Run σ Nat) (v : World σ) :
      (announced entity x v).result = .ok () ↔ ∃ n, (x v).result = .ok n := by
    rw [announced_apply]
    cases (x v).result <;> simp [Except.map]
  unfold steps
  constructor
  · intro returned
    obtain ⟨_,_,returned⟩ := Run.bind_result_ok.mp returned
    obtain ⟨_,rooms,returned⟩ := Run.bind_result_ok.mp returned
    obtain ⟨_,adjustments,events⟩ := Run.bind_result_ok.mp returned
    simp only [announced_world] at adjustments events
    exact ⟨(returns _ _ _).mp rooms,(returns _ _ _).mp adjustments,(returns _ _ _).mp events⟩
  · intro ⟨rooms,adjustments,events⟩
    refine Run.bind_result_ok.mpr ⟨(),rfl,Run.bind_result_ok.mpr ⟨(),(returns _ _ _).mpr rooms,?_⟩⟩
    rw [announced_world]
    refine Run.bind_result_ok.mpr ⟨(),(returns _ _ _).mpr adjustments,?_⟩
    rw [announced_world]
    exact (returns _ _ _).mpr events

/-- Where all steps return, the last of them leaves the world of the whole. -/
theorem StepsReturn.world {options : Options} {w : World σ} (returned : StepsReturn options w) :
    (steps options w).world = (transferEvents options
      (transferAdjustments options (transferRooms options w).world).world).world := by
  obtain ⟨⟨_,rooms⟩,⟨_,adjustments⟩,_⟩ := returned
  have first : (announced "room" (transferRooms options) w).result = .ok () := by
    rw [announced_apply,rooms]; rfl
  have second : (announced "adjustment" (transferAdjustments options)
      (announced "room" (transferRooms options) w).world).result = .ok () := by
    rw [announced_world,announced_apply,adjustments]; rfl
  have start : (Run.note (.cursor .target none) >>= fun _ =>
      announced "room" (transferRooms options) >>= fun _ =>
        announced "adjustment" (transferAdjustments options) >>= fun _ =>
          announced "event" (transferEvents options) : Run σ Unit) w = steps options w := rfl
  rw [← start,Run.bind_of_ok rfl]
  change ((announced "room" (transferRooms options) >>= fun _ =>
    announced "adjustment" (transferAdjustments options) >>= fun _ =>
      announced "event" (transferEvents options) : Run σ Unit) w).world = _
  rw [Run.bind_of_ok first,Run.bind_of_ok second]
  simp only [announced_world]

/-- Every item of the block is one of a step, and the dry-run flag stays. -/
def within : Conduct σ :=
  .keeping (·.state.dryRun) fun
    | .item item => item.isStepItem = true
    | .log _ => True

theorem steps_within (options : Options) : (steps options : Run σ Unit).Follows within :=
  steps_follows ⟨⟨fun _ _ => trivial,fun _ item => item,fun _ _ => rfl,fun _ _ _ => rfl⟩,
    fun _ _ => rfl⟩ options

theorem block_trace (settings : Settings) (w : World σ) :
    ∃ rest, traceOf (block settings w).effects = .cursor .target none :: rest := by
  have first : ((Run.note (.cursor .target none) : Run σ Unit) (opening settings w).world).result
      = .ok () := rfl
  unfold block steps
  rw [Run.bind_of_ok first]
  exact ⟨_,rfl⟩

section Trace

variable {settings : Settings} {w : World σ}

theorem opening_of_ready (ready : Ready settings) :
    opening settings w = (preparing settings >>= fun _ => Run.ask .begin >>= fun _ => pure ()) w := by
  unfold opening
  rw [ready.1,ready.2]
  simp only [Run.bind_apply,Run.ofExcept,Run.pure_apply,List.nil_append]

theorem opened_iff : (opening settings w).result = .ok () ↔
    Ready settings ∧ (preparing settings w).result = .ok () ∧
      ∃ reply, (Run.ask .begin (preparing settings w).world).result = .ok reply := by
  by_cases ready : Ready settings
  · rw [opening_of_ready ready]
    constructor
    · intro opened
      obtain ⟨_,prepared,rest⟩ := Run.bind_result_ok.mp opened
      obtain ⟨reply,begun,_⟩ := Run.bind_result_ok.mp rest
      exact ⟨ready,prepared,reply,begun⟩
    · rintro ⟨_,prepared,reply,begun⟩
      exact Run.bind_result_ok.mpr ⟨(),prepared,Run.bind_result_ok.mpr ⟨reply,begun,rfl⟩⟩
  · refine ⟨fun opened => absurd ?_ ready,fun both => absurd both.1 ready⟩
    obtain ⟨_,legacy,rest⟩ := Run.bind_result_ok.mp opened
    obtain ⟨_,target,_⟩ := Run.bind_result_ok.mp rest
    cases required : settings.requireLegacy with
    | error failure => simp [required,Run.ofExcept,Run.fail] at legacy
    | ok _ => cases demanded : settings.requireTarget with
      | error failure => simp [demanded,Run.ofExcept,Run.fail] at target
      | ok _ => exact ⟨required,demanded⟩

theorem opening_world (opened : (opening settings w).result = .ok ()) :
    (opening settings w).world = (Run.ask .begin (preparing settings w).world).world := by
  obtain ⟨ready,prepared,reply,begun⟩ := opened_iff.mp opened
  rw [opening_of_ready ready,Run.bind_of_ok prepared,Run.bind_of_ok begun]
  rfl

theorem undone_iff : Undone settings w ↔ Ready settings ∧ (preparing settings w).result = .ok () ∧
    Abandons (steps settings.options) (preparing settings w).world := by
  have world (opened : (opening settings w).result = .ok ()) := opening_world opened
  unfold Undone Abandons block
  constructor
  · rintro ⟨opened,undone⟩
    obtain ⟨ready,prepared,begun⟩ := opened_iff.mp opened
    rw [world opened] at undone
    exact ⟨ready,prepared,begun,undone⟩
  · rintro ⟨ready,prepared,begun,undone⟩
    have opened := opened_iff.mpr ⟨ready,prepared,begun⟩
    rw [← world opened] at undone
    exact ⟨opened,undone⟩

/-- A transaction that began holds the trace of its body and is ended once, behind it; what may
follow is that its commit failed. -/
theorem transaction_trace (body : Run σ Unit) {reply : Reply}
    (begun : (Run.ask .begin w).result = .ok reply) :
    let b := body (Run.ask .begin w).world
    ∃ after, Refusal .target after ∧ traceOf (transaction body w).effects =
      .request .begin :: (traceOf b.effects ++ endItem b.result b.world.state.dryRun :: after) := by
  intro b
  have asked : traceOf (Run.ask .begin w).effects = [.request .begin] := by
    rcases Run.ask_trace .begin w with ⟨_,_,trace⟩ | ⟨_,_,failed,_⟩
    · exact trace
    · rw [begun] at failed; cases failed
  cases left : b.result with
  | error failure =>
    rw [transaction_failed begun left]
    refine ⟨[],.inl rfl,?_⟩
    simp only [traceOf_append,asked]
    rfl
  | ok _ =>
    cases dry : b.world.state.dryRun with
    | true =>
      rw [transaction_dry begun left dry]
      refine ⟨[],.inl rfl,?_⟩
      simp only [traceOf_append,asked]
      rfl
    | false =>
      rw [transaction_committed begun left dry]
      simp only [traceOf_append,asked]
      rcases Run.ask_trace .commit b.world with ⟨_,_,trace⟩ | ⟨_,label,_,trace⟩
      · exact ⟨[],.inl rfl,by rw [trace]; rfl⟩
      · exact ⟨[.failed .target label],.inr ⟨label,rfl⟩,by rw [trace]; rfl⟩

theorem writing_effects :
    (writing settings w).effects = (transaction (steps settings.options) w).effects := by
  unfold writing
  rw [Run.bind_apply]
  cases (transaction (steps settings.options) w).result <;> simp [Run.modifyState]

theorem cleanUp_trace :
    ∃ rest, traceOf (cleanUp w).effects = .request (.close .target) :: rest := by
  unfold cleanUp closeTarget
  rw [Run.ensuring_apply,Run.bind_apply]
  rcases Run.ask_trace (.close .target) w with ⟨_,closed,trace⟩ | ⟨_,_,failed,trace⟩
  · simp only [closed,traceOf_append,trace]
    exact ⟨_,rfl⟩
  · simp only [failed,traceOf_append,trace]
    exact ⟨_,rfl⟩

/-- Once both sessions are open, the trace is that of the transaction between parts of the sessions;
what follows does not refuse its last item. -/
theorem trace_prepared (ready : Ready settings) (prepared : (preparing settings w).result = .ok ()) :
    ∃ after, refused after = false ∧ OfSessions after ∧ traceOf (migrate settings w).effects =
      traceOf (preparing settings w).effects ++
        (traceOf (transaction (steps settings.options) (preparing settings w).world).effects ++
          after) := by
  have granted (v u : World σ) (result : Except Failure Unit) :
      refused (traceOf (cleanUp v).effects ++ traceOf (ending result u).effects) = false := by
    obtain ⟨rest,closes⟩ := cleanUp_trace (w := v)
    rw [closes]
    rfl
  rw [migrate_of_ready ready,session_of_prepared prepared]
  simp only [Run.ensuring_apply,traceOf_append,writing_effects,List.append_assoc]
  exact ⟨_,granted _ _ _,(cleanUp_items _).append (ending_items _ _),rfl⟩

theorem block_dryRun (opened : (opening settings w).result = .ok ()) :
    (block settings w).world.state.dryRun = w.state.dryRun := by
  have opening : (opening settings w).world.state.dryRun = w.state.dryRun := by
    rw [opening_world opened,Run.ask_world]
    exact (preparing_quietly settings).world w
  exact ((steps_within settings.options).world _).trans opening

/-- The trace of a run whose transaction began: the preparation, one transaction, the sessions
closed. -/
theorem trace_begun (opened : (opening settings w).result = .ok ()) :
    ∃ after, OfSessions after ∧ traceOf (migrate settings w).effects =
      traceOf (preparing settings w).effects ++
        .request .begin :: (traceOf (block settings w).effects ++
          endItem (block settings w).result w.state.dryRun :: after) := by
  obtain ⟨ready,prepared,reply,begun⟩ := opened_iff.mp opened
  obtain ⟨after,refused,shape⟩ := transaction_trace (steps settings.options) begun
  rw [← opening_world opened] at shape
  change traceOf _ = .request .begin :: (traceOf (block settings w).effects ++
    endItem (block settings w).result (block settings w).world.state.dryRun :: after) at shape
  rw [block_dryRun opened] at shape
  obtain ⟨rest,_,still,course⟩ := trace_prepared ready prepared
  refine ⟨after ++ rest,refused.ofSessions.append still,?_⟩
  rw [course,shape]
  simp only [List.append_assoc,List.cons_append]

theorem trace_unprepared {failure : Failure} (ready : Ready settings)
    (unprepared : (preparing settings w).result = .error failure) :
    OfSessions (traceOf (migrate settings w).effects) := by
  have follows := (preparing_follows Conduct.ofSessions_admitsBooking
    Conduct.ofSessions_admitsSessions settings).ensuring
      (Link.release_follows (σ := σ) Conduct.ofSessions_admitsSessions)
  rw [migrate_of_ready ready,session_of_unprepared unprepared,traceOf_append]
  exact (follows.ofSessions w).append (ending_items _ _)

/-- The trace of a run whose transaction did not begin: all of it is of the sessions, but for a
begin that was refused. -/
theorem trace_unopened {failure : Failure} (unopened : (opening settings w).result = .error failure) :
    OfSessions (traceOf (migrate settings w).effects) ∨
    ∃ before label after, OfSessions before ∧ OfSessions after ∧
      traceOf (migrate settings w).effects =
        before ++ .request .begin :: .failed .target label :: after := by
  by_cases ready : Ready settings
  · cases prepared : (preparing settings w).result with
    | error cause => exact .inl (trace_unprepared ready prepared)
    | ok _ =>
      have refused : ∃ cause, (Run.ask .begin (preparing settings w).world).result = .error cause := by
        cases begun : (Run.ask .begin (preparing settings w).world).result with
        | error cause => exact ⟨cause,rfl⟩
        | ok reply =>
          rw [opened_iff.mpr ⟨ready,prepared,reply,begun⟩] at unopened
          cases unopened
      obtain ⟨cause,begun⟩ := refused
      obtain ⟨rest,_,still,course⟩ := trace_prepared ready prepared
      rcases Run.ask_trace .begin (preparing settings w).world with ⟨_,replied,_⟩ | ⟨_,label,_,trace⟩
      · rw [begun] at replied; cases replied
      · refine .inr ⟨_,label,rest,preparing_items settings w,still,?_⟩
        rw [course,transaction_refused begun,trace]
        rfl
  · obtain ⟨_,run⟩ := migrate_of_unready (w := w) ready
    rw [run]
    exact .inl (by simp [OfSessions,traceOf])

theorem bracketed (opened : (opening settings w).result = .ok ()) :
    ∃ after, Bracketed (traceOf (migrate settings w).effects)
      (traceOf (preparing settings w).effects) (traceOf (block settings w).effects)
      (endItem (block settings w).result w.state.dryRun) after := by
  obtain ⟨after,outside,shape⟩ := trace_begun opened
  refine ⟨after,shape,(preparing_items settings w).quiet,?_,block_trace settings w,?_,outside.quiet⟩
  · intro item member
    exact (steps_within settings.options).effects _ _ (mem_traceOf.mp member)
  · cases (block settings w).result with
    | error failure => rfl
    | ok _ => cases w.state.dryRun <;> rfl

/-- Where the transaction did not begin, no begin succeeded and nothing else of one happened. -/
theorem unopened_inert {failure : Failure} (unopened : (opening settings w).result = .error failure) :
    succeeded Item.isBegin (traceOf (migrate settings w).effects) = false ∧
    (traceOf (migrate settings w).effects).countP Item.isBegin ≤ 1 ∧
    ∀ item ∈ traceOf (migrate settings w).effects,
      item.endsTransaction = false ∧ item.isTargetStatement = false := by
  have calm {items : List Item} (quiet : AllQuiet items) :
      (∀ item ∈ items, item.isBegin = false) ∧ items.countP Item.isBegin = 0 ∧
      ∀ item ∈ items, item.endsTransaction = false ∧ item.isTargetStatement = false := by
    have inert item member := Item.isQuiet_iff.mp (quiet item member)
    refine ⟨fun item member => (inert item member).1,?_,fun item member => ?_⟩
    · simpa [List.countP_eq_zero] using fun item member => (inert item member).1
    · obtain ⟨_,commit,rollback,statement⟩ := inert item member
      simp [Item.endsTransaction,commit,rollback,statement]
  rcases trace_unopened unopened with outside | ⟨before,label,after,front,back,shape⟩
  · obtain ⟨absent,count,others⟩ := calm outside.quiet
    exact ⟨succeeded_absent absent,by omega,others⟩
  · obtain ⟨absent,count,others⟩ := calm front.quiet
    obtain ⟨absent',count',others'⟩ := calm back.quiet
    rw [shape]
    refine ⟨?_,?_,?_⟩
    · rw [succeeded_append _ absent]
      simp [succeeded,refused,succeeded_absent absent',Item.isBegin]
    · simp [List.countP_append,List.countP_cons,count,count',Item.isBegin]
    · intro item member
      rcases List.mem_append.mp member with early | late
      · exact others item early
      · rcases List.mem_cons.mp late with rfl | late
        · exact ⟨rfl,rfl⟩
        · rcases List.mem_cons.mp late with rfl | late
          · exact ⟨rfl,rfl⟩
          · exact others' item late

end Trace

/-- How the target transaction of a run stands in its trace. -/
structure TransactionSafety (settings : Settings) (w : World σ) (trace : List Item) : Prop where
  /-- At most one transaction is begun. -/
  once : trace.countP Item.isBegin ≤ 1
  /-- What the target executes lies after a begin that succeeded and before what ends it. -/
  inside : ∀ front item back, trace = front ++ item :: back → item.isTargetStatement = true →
    succeeded Item.isBegin front = true ∧ (∀ other ∈ front, other.endsTransaction = false) ∧
      ∃ other ∈ back, other.endsTransaction = true
  /-- What follows the begin of a transaction is what the three steps do. -/
  steps : succeeded Item.isBegin trace = true → ∃ front back, trace =
    front ++ .request .begin :: (traceOf (block settings w).effects ++ back)
  /-- A commit is attempted exactly at the end of a real run whose steps all returned. -/
  commit_iff : trace.any Item.isCommit = true ↔ succeeded Item.isBegin trace = true ∧
    StepsReturn settings.options (opening settings w).world ∧ w.state.dryRun = false
  /-- Otherwise one rollback follows the begin, and it tells what left the block. -/
  rollback : succeeded Item.isBegin trace = true → trace.any Item.isCommit = false →
    trace.countP Item.isRollback = 1 ∧ ∃ front back,
      trace = front ++ .rollback (rollbackKind (block settings w).result) :: back ∧
        succeeded Item.isBegin front = true
  /-- No transaction is both committed and rolled back. -/
  exclusive : ¬ (trace.any Item.isRollback = true ∧ succeeded Item.isCommit trace = true)
  /-- Once a transaction has ended, the target executes nothing more. -/
  final : ∀ front item back, trace = front ++ item :: back → item.endsTransaction = true →
    ∀ other ∈ back, other.isTargetStatement = false

theorem safe_of_unopened {settings : Settings} {w : World σ} {failure : Failure}
    (unopened : (opening settings w).result = .error failure) :
    TransactionSafety settings w (traceOf (migrate settings w).effects) := by
  obtain ⟨notBegun,once,inert⟩ := unopened_inert unopened
  have noEnd (kind : Item → Bool) (ends : ∀ item, kind item = true → item.endsTransaction = true) :
      (traceOf (migrate settings w).effects).any kind = false := by
    simp only [List.any_eq_false,Bool.not_eq_true]
    intro item member
    cases found : kind item with
    | false => rfl
    | true => exact absurd (ends item found) (by simp [(inert item member).1])
  have noCommit := noEnd Item.isCommit fun item found => by simp [Item.endsTransaction,found]
  have noRollback := noEnd Item.isRollback fun item found => by simp [Item.endsTransaction,found]
  refine ⟨once,?_,?_,?_,?_,?_,?_⟩
  · intro front item back place statement
    have quiet := (inert item (by simp [place])).2
    rw [statement] at quiet
    cases quiet
  · simp [notBegun]
  · simp [noCommit,notBegun]
  · simp [notBegun]
  · simp [noRollback]
  · intro front item back place _ other member
    exact (inert other (by simp [place,member])).2

theorem safe_of_opened {settings : Settings} {w : World σ}
    (opened : (opening settings w).result = .ok ()) :
    TransactionSafety settings w (traceOf (migrate settings w).effects) := by
  obtain ⟨after,whole⟩ := bracketed opened
  have returned : (block settings w).result = .ok () ↔
      StepsReturn settings.options (opening settings w).world := steps_return_iff _ _
  refine ⟨Nat.le_of_eq whole.begins,?_,?_,?_,?_,?_,?_⟩
  · intro front item back place statement
    obtain ⟨early,late,rfl,body,rfl⟩ := whole.statement_inside place statement
    exact ⟨whole.begun_within body,whole.open_within body,_,by simp,whole.ends⟩
  · exact fun _ => ⟨_,_,whole.shape⟩
  · rw [whole.commits,whole.begun,← returned]
    cases left : (block settings w).result with
    | error failure => simp [endItem,Item.isCommit]
    | ok _ => cases w.state.dryRun <;> simp [endItem,Item.isCommit]
  · intro _ uncommitted
    rw [whole.commits] at uncommitted
    have last : endItem (block settings w).result w.state.dryRun =
        .rollback (rollbackKind (block settings w).result) := by
      cases left : (block settings w).result with
      | error failure => rfl
      | ok _ => cases dry : w.state.dryRun <;> simp_all [endItem,Item.isCommit,rollbackKind]
    rw [last] at whole
    exact ⟨whole.rollbacks,_,after,by rw [whole.shape,List.append_assoc]; rfl,
      whole.begun_within (List.append_nil _).symm⟩
  · rintro ⟨rolledBack,committed⟩
    have attempted := any_of_succeeded committed
    rw [whole.commits] at attempted
    have count : 0 < (traceOf (migrate settings w).effects).countP Item.isRollback :=
      List.countP_pos_iff.mpr (List.any_eq_true.mp rolledBack)
    rw [whole.rollbacks] at count
    cases last : endItem (block settings w).result w.state.dryRun <;>
      simp_all [Item.isCommit,Item.isRollback]
  · intro front item back place ends other member
    obtain ⟨_,_,rfl⟩ := whole.end_place place ends
    exact (Item.isQuiet_iff.mp (whole.quietAfter other member)).2.2.2

/-- Every run keeps its target transaction safe, whatever the databases answer. -/
theorem transaction_safety (settings : Settings) (w : World σ) :
    TransactionSafety settings w (traceOf (migrate settings w).effects) := by
  cases opened : (opening settings w).result with
  | ok _ => exact safe_of_opened opened
  | error failure => exact safe_of_unopened opened

end Migration

end RoomTransfer
