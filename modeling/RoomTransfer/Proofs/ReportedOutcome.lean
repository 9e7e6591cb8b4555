import RoomTransfer.Proofs.TransactionSafety
import RoomTransfer.Store.Script

/-! The outcome that a run reports. Its flag for a commit tells whether the target transaction was
committed, unless the sessions fail to close after that: then the failure is booked as the outcome
of the run, and the commit is denied. -/
namespace RoomTransfer

open Store

def Failure.isBooked (failure : Failure) : Bool :=
  failure.isOwn || failure.isInterrupt || failure.isDatabase

namespace Migration

section Booking

variable {σ : Type} {w : World σ}

theorem conclude_committed (failure : Failure) :
    (conclude failure w).world.state.committed = false := by
  obtain ⟨_,_,state⟩ := conclude_state failure w
  rw [state]

theorem settle_committed (failure : Failure) : (settle failure w).world.state.committed =
    (!failure.isBooked && w.state.committed) := by
  have booked (named thrown : Failure) :
      ((conclude named >>= fun _ => Run.fail thrown : Run σ Unit) w).world.state.committed = false := by
    rw [Run.bind_fail_world]
    exact conclude_committed named
  unfold settle Failure.isBooked
  cases own : failure.isOwn <;> cases interrupt : failure.isInterrupt <;>
    cases database : failure.isDatabase <;> simp [booked,Run.fail]

theorem ending_committed (result : Except Failure Unit) :
    (ending result w).world.state.committed = true ↔ w.state.committed = true ∧
      ¬ ∃ failure, result = .error failure ∧ failure.isBooked = true := by
  cases result with
  | ok _ => simp [ending,finish_keeps RunState.committed fun _ _ => rfl]
  | error failure => simp [ending,settle_committed,and_comm]

end Booking

section Transaction

variable {σ : Type} [Database σ] {settings : Settings} {w : World σ}

theorem steps_no_commit (options : Options) :
    ∀ item ∈ traceOf (steps options w).effects, item.isCommit = false := by
  intro item member
  have step := (steps_within options).effects w _ (mem_traceOf.mp member)
  exact (Item.isStepItem_inert step).2.1

theorem transaction_flags (options : Options) :
    (transaction (steps options) w).world.state.committed = w.state.committed ∧
      (transaction (steps options) w).world.state.dryRun = w.state.dryRun := by
  have kept : (transaction (steps options) : Run σ Unit).Follows
      (.keeping (fun w => (w.state.committed,w.state.dryRun)) fun _ => True) :=
    transaction_follows (steps_follows ⟨⟨fun _ _ => trivial,fun _ _ => trivial,fun _ _ => rfl,
      fun _ _ _ => rfl⟩,fun _ _ => rfl⟩ _) (fun _ => trivial) fun _ _ => rfl
  exact Prod.mk.inj (kept.world w)

/-- A commit succeeds in a real transaction that returns because its steps have. -/
theorem transaction_succeeded (options : Options) :
    succeeded Item.isCommit (traceOf (transaction (steps options) w).effects) = true ↔
      ((Run.ask .begin >>= fun _ => steps options : Run σ Unit) w).result = .ok () ∧
        w.state.dryRun = false ∧ (transaction (steps options) w).result = .ok () := by
  have skip (v : World σ) (tail : List Item) : succeeded Item.isCommit ([.request .begin] ++
      (traceOf (steps options v).effects ++ tail)) = succeeded Item.isCommit tail := by
    rw [succeeded_append _ (by simp [Item.isCommit]),succeeded_append _ (steps_no_commit _)]
  have flag : (steps options (Run.ask .begin w).world).world.state.dryRun = w.state.dryRun := by
    have asked : (Run.ask .begin w).world.state = w.state := by rw [Run.ask_world]
    rw [← asked]
    exact (steps_within options).world _
  rcases Run.ask_trace .begin w with ⟨reply,begun,opened⟩ | ⟨_,label,begun,refusal⟩
  · rw [Run.bind_of_ok begun]
    cases left : (steps options (Run.ask .begin w).world).result with
    | error failure =>
      rw [transaction_failed begun left]
      simp only [traceOf_append,opened,skip]
      simp [traceOf,succeeded,Item.isCommit]
    | ok _ =>
      cases dry : (steps options (Run.ask .begin w).world).world.state.dryRun with
      | true =>
        rw [transaction_dry begun left dry]
        simp only [traceOf_append,opened,skip]
        simp [← flag,dry,traceOf,succeeded,Item.isCommit]
      | false =>
        rw [transaction_committed begun left dry]
        rcases Run.ask_trace .commit (steps options (Run.ask .begin w).world).world with
          ⟨_,done,trace⟩ | ⟨_,label,failed,trace⟩
        · simp only [traceOf_append,opened,skip,trace,done,Except.map]
          simp [← flag,dry,succeeded,Item.isCommit,refused]
        · simp only [traceOf_append,opened,skip,trace,failed,Except.map]
          simp [succeeded,Item.isCommit,refused,Request.side]
  · rw [Run.bind_of_error begun,transaction_refused begun,refusal]
    simp [succeeded,Item.isCommit]

theorem transaction_returned {body : Run σ Unit} (returned : (transaction body w).result = .ok ()) :
    ((Run.ask .begin >>= fun _ => body : Run σ Unit) w).result = .ok () ∨ Abandons body w := by
  cases begun : (Run.ask .begin w).result with
  | error failure =>
    rw [transaction_refused begun] at returned
    cases returned
  | ok reply =>
    rw [Run.bind_of_ok begun]
    cases left : (body (Run.ask .begin w).world).result with
    | ok _ => exact .inl rfl
    | error failure =>
      refine .inr ⟨⟨reply,begun⟩,failure,left,?_⟩
      cases demanded : failure.isRollback with
      | true => rfl
      | false => simp [transaction_failed begun left,passOn,demanded] at returned

theorem Abandons.returns {body : Run σ Unit} (abandons : Abandons body w) :
    (transaction body w).result = .ok () ∧
      ((Run.ask .begin >>= fun _ => body : Run σ Unit) w).result ≠ .ok () := by
  obtain ⟨⟨reply,begun⟩,failure,left,demanded⟩ := abandons
  rw [transaction_failed begun left,Run.bind_of_ok begun,left]
  exact ⟨if_pos demanded,nofun⟩

/-- The flag for a commit is set by a real transaction that returns. -/
theorem writing_flag (fresh : w.state.committed = false) :
    (writing settings w).world.state.committed = true ↔
      (transaction (steps settings.options) w).result = .ok () ∧ w.state.dryRun = false := by
  obtain ⟨kept,dry⟩ := transaction_flags (w := w) settings.options
  unfold writing
  cases left : (transaction (steps settings.options) w).result with
  | error failure =>
    rw [Run.bind_of_error left]
    simp [kept,fresh]
  | ok _ =>
    rw [Run.bind_of_ok left]
    simp [Run.modifyState,dry]

/-- The flag is set by a commit that succeeds, and by a real transaction that is rolled back on
demand. -/
theorem writing_committed (fresh : w.state.committed = false) :
    (writing settings w).world.state.committed = true ↔
      succeeded Item.isCommit (traceOf (transaction (steps settings.options) w).effects) = true ∨
        (Abandons (steps settings.options) w ∧ w.state.dryRun = false) := by
  rw [writing_flag fresh,transaction_succeeded]
  constructor
  · rintro ⟨returned,real⟩
    rcases transaction_returned returned with left | abandons
    · exact .inl ⟨left,real,returned⟩
    · exact .inr ⟨abandons,real⟩
  · rintro (⟨_,real,returned⟩ | ⟨abandons,real⟩)
    · exact ⟨returned,real⟩
    · exact ⟨abandons.returns.1,real⟩

/-- How the sessions of a run were closed after its transaction. -/
def closing (settings : Settings) (w : World σ) : Except Failure Unit :=
  (cleanUp (writing settings (preparing settings w).world).world).result

/-- The run denies what became of its transaction: it could not close its sessions after it, in a way
that is booked as its outcome. -/
def Disowns (settings : Settings) (w : World σ) : Prop :=
  ∃ failure, closing settings w = .error failure ∧ failure.isBooked = true

/-- The notice that nothing was committed is among these effects. -/
def GivesNotice (effects : List Effect) : Prop :=
  ∃ record ∈ logsOf effects, record.IsNotice

instance (effects : List Effect) : Decidable (GivesNotice effects) :=
  inferInstanceAs (Decidable (∃ record ∈ logsOf effects, record.IsNotice))

/-- How the reported outcome of a run relates to what became of its target transaction. -/
structure ReportedOutcome (settings : Settings) (w : World σ) (o : Outcome σ Unit) : Prop where
  /-- The flag is set exactly by a commit that succeeds, or by a real transaction that is rolled back
  on demand of its block, unless the closing of the sessions makes the run deny it. -/
  committed_iff : o.world.state.committed = true ↔
    (succeeded Item.isCommit (traceOf o.effects) = true ∨
      (Undone settings w ∧ w.state.dryRun = false)) ∧ ¬ Disowns settings w
  /-- The notice is given in spite of a commit only where the commit is denied. -/
  notice : GivesNotice o.effects → succeeded Item.isCommit (traceOf o.effects) = true →
    Disowns settings w

/-- Opening the sessions leaves the state as the start of the run has made it. -/
theorem preparing_keeps {β : Type} (view : RunState → β) :
    view (preparing settings w).world.state = view (start w).world.state := by
  have kept : (Link.acquire settings.legacy >>= fun _ => openTarget settings : Run σ Unit).Follows
      (.quietly view) :=
    (Link.acquire_follows Conduct.quietly_admitsSessions _).bind fun _ =>
      openTarget_follows Conduct.quietly_admitsSessions settings
  unfold preparing
  rw [Run.bind_of_ok start_result]
  exact kept.world _

theorem preparing_committed : (preparing settings w).world.state.committed = false := by
  rw [preparing_keeps RunState.committed]
  obtain ⟨stores,state,clock,linkOpen⟩ := w
  rcases clock with _ | ⟨t,_ | ⟨u,rest⟩⟩ <;> rfl

theorem cleanUp_state : (cleanUp w).world.state = w.state :=
  (cleanUp_quietly id).world w

theorem writing_returned (fresh : w.state.committed = false)
    (committed : (writing settings w).world.state.committed = true) :
    (writing settings w).result = .ok () := by
  obtain ⟨left,_⟩ := (writing_flag fresh).mp committed
  unfold writing
  rw [Run.bind_of_ok left]
  rfl

def silent : Conduct σ where
  allows
    | .item _ => True
    | .log record => ¬ record.IsNotice
  moves _ _ := True
  refl _ := trivial
  trans _ _ := trivial

theorem session_silent (record : Log.Record) (logged : .log record ∈ (session settings w).effects) :
    ¬ record.IsNotice := by
  have sessions : (silent : Conduct σ).AdmitsSessions :=
    ⟨fun _ other => other,fun _ _ => trivial,fun _ _ _ => trivial,fun _ _ => trivial⟩
  have booking : (silent : Conduct σ).AdmitsBooking :=
    ⟨fun _ other => other,fun _ _ => trivial,fun _ _ _ => trivial⟩
  have stepping : (silent : Conduct σ).AdmitsSteps :=
    ⟨⟨fun _ low => Log.Record.not_isNotice_of_level low,fun _ _ => trivial,fun _ _ => trivial,
      fun _ _ _ => trivial⟩,fun _ _ => trivial⟩
  have written : (writing settings : Run σ Unit).Follows silent :=
    (transaction_follows (steps_follows stepping _) (fun _ => trivial) fun _ _ => trivial).bind
      fun _ => Run.follows_modifyState fun _ => trivial
  have prepared := preparing_follows booking sessions settings
  cases result : (preparing settings w).result with
  | error failure =>
    rw [session_of_unprepared result] at logged
    exact (prepared.ensuring (Link.release_follows sessions)).effects w _ logged
  | ok _ =>
    rw [session_of_prepared result] at logged
    rcases List.mem_append.mp logged with early | late
    · exact prepared.effects w _ early
    · exact (written.ensuring (cleanUp_follows sessions)).effects _ _ late

theorem mem_logsOf {record : Log.Record} {effects : List Effect} :
    record ∈ logsOf effects ↔ .log record ∈ effects := by
  simp only [logsOf,List.mem_filterMap]
  constructor
  · rintro ⟨e,member,found⟩
    cases e with
    | item item => cases found
    | log other => obtain rfl := Option.some.inj found; exact member
  · exact fun member => ⟨_,member,rfl⟩

/-- The notice is given only in booking a failure. -/
theorem notice_booked (ready : Ready settings) (given : GivesNotice (migrate settings w).effects) :
    ∃ failure, (session settings w).result = .error failure ∧ failure.isBooked = true := by
  obtain ⟨record,logged,notice⟩ := given
  rw [mem_logsOf,migrate_of_ready ready] at logged
  rcases List.mem_append.mp logged with early | late
  · exact absurd notice (session_silent record early)
  · cases left : (session settings w).result with
    | ok _ =>
      have booking : (silent : Conduct σ).AdmitsBooking :=
        ⟨fun _ other => other,fun _ _ => trivial,fun _ _ _ => trivial⟩
      rw [left] at late
      exact absurd notice ((finish_follows booking).effects _ _ late)
    | error failure =>
      refine ⟨failure,rfl,?_⟩
      cases booked : failure.isBooked with
      | true => rfl
      | false =>
        simp only [Failure.isBooked,Bool.or_eq_false_iff] at booked
        simp [left,ending,settle,booked,Run.fail] at late

/-- Once the flag is set the session ends as the closing of the sessions does. -/
theorem session_result (prepared : (preparing settings w).result = .ok ())
    (committed : (writing settings (preparing settings w).world).world.state.committed = true) :
    (session settings w).result = closing settings w := by
  rw [session_of_prepared prepared]
  simp only [Run.ensuring_apply,writing_returned preparing_committed committed]
  unfold closing
  cases (cleanUp (writing settings (preparing settings w).world).world).result <;> rfl

theorem succeeded_commit (ready : Ready settings) (prepared : (preparing settings w).result = .ok ()) :
    succeeded Item.isCommit (traceOf (migrate settings w).effects) = succeeded Item.isCommit
      (traceOf (transaction (steps settings.options) (preparing settings w).world).effects) := by
  obtain ⟨after,granted,sessions,trace⟩ := trace_prepared ready prepared
  have absent {items : List Item} (quiet : AllQuiet items) : ∀ item ∈ items, item.isCommit = false :=
    fun item member => (Item.isQuiet_iff.mp (quiet item member)).2.1
  rw [trace,succeeded_append _ (absent (preparing_items settings w).quiet),
    succeeded_append_left _ granted (absent sessions.quiet)]

/-- Whether the flag is set behind the transaction shows in the trace of the run, or the transaction was
rolled back on demand. -/
theorem flag_iff (ready : Ready settings) (prepared : (preparing settings w).result = .ok ()) :
    (writing settings (preparing settings w).world).world.state.committed = true ↔
      succeeded Item.isCommit (traceOf (migrate settings w).effects) = true ∨
        (Undone settings w ∧ w.state.dryRun = false) := by
  have dry : (preparing settings w).world.state.dryRun = w.state.dryRun :=
    (preparing_quietly settings).world w
  rw [writing_committed preparing_committed,succeeded_commit ready prepared,dry,undone_iff]
  simp [ready,prepared]

theorem unprepared_committed {failure : Failure}
    (unprepared : (preparing settings w).result = .error failure) :
    (session settings w).world.state.committed = false := by
  have kept := (Link.release_follows (c := .quietly RunState.committed)
    Conduct.quietly_admitsSessions).world (preparing settings w).world
  rw [session_of_unprepared unprepared,Run.ensuring_apply]
  exact kept.trans preparing_committed

theorem prepared_committed (prepared : (preparing settings w).result = .ok ()) :
    (session settings w).world.state.committed =
      (writing settings (preparing settings w).world).world.state.committed := by
  rw [session_of_prepared prepared]
  simp only [Run.ensuring_apply,cleanUp_state]

/-- The reported outcome is the real one, unless the run denies its commit or was told to roll back. -/
theorem reported_outcome (settings : Settings) (w : World σ) (ready : Ready settings) :
    ReportedOutcome settings w (migrate settings w) := by
  have final : (migrate settings w).world.state.committed = true ↔
      (session settings w).world.state.committed = true ∧
        ¬ ∃ failure, (session settings w).result = .error failure ∧ failure.isBooked = true := by
    rw [migrate_of_ready ready]
    exact ending_committed _
  cases prepared : (preparing settings w).result with
  | error failure =>
    have none : succeeded Item.isCommit (traceOf (migrate settings w).effects) = false :=
      succeeded_absent fun item member =>
        (Item.isQuiet_iff.mp ((trace_unprepared ready prepared).quiet item member)).2.1
    have kept : ¬ Undone settings w := by simp [undone_iff,prepared]
    constructor
    · simp [final,unprepared_committed prepared,none,kept]
    · simp [none]
  | ok _ =>
    have flag := flag_iff ready prepared
    constructor
    · rw [final,prepared_committed prepared,← flag]
      -- The two results are the same where it matters, once the flag is set.
      refine and_congr_right fun committed => ?_
      rw [session_result prepared committed]
      rfl
    · intro given committed
      obtain ⟨failure,left,booked⟩ := notice_booked ready given
      exact ⟨failure,(session_result prepared (flag.mpr (.inl committed))).symm.trans left,booked⟩

end Transaction

def lostTarget : World Scripts where
  stores := { target := { traps := [⟨"close",0,.raised (.database "OperationalError") "connection lost"⟩] } }
  clock := [Timestamp.first]

theorem lost_target_reported : Ready connected ∧
    ReportedOutcome connected lostTarget (migrate connected lostTarget) :=
  ⟨⟨rfl,rfl⟩,reported_outcome connected lostTarget ⟨rfl,rfl⟩⟩

/-- Neither the flag nor the notice is always that of the transaction. -/
theorem lost_target_commit_denied :
    (¬ ∀ (settings : Settings) (w : World Scripts), Ready settings →
      ((migrate settings w).world.state.committed = true ↔
        succeeded Item.isCommit (traceOf (migrate settings w).effects) = true)) ∧
    ¬ ∀ (settings : Settings) (w : World Scripts), Ready settings →
      GivesNotice (migrate settings w).effects →
        succeeded Item.isCommit (traceOf (migrate settings w).effects) = false := by
  have unset : (migrate connected lostTarget).world.state.committed = false := by decide +kernel
  have committed : succeeded Item.isCommit (traceOf (migrate connected lostTarget).effects) = true := by
    decide +kernel
  have notice : GivesNotice (migrate connected lostTarget).effects := by decide +kernel
  constructor
  · intro always
    have flag := (always connected lostTarget ⟨rfl,rfl⟩).mpr committed
    exact absurd (unset.symm.trans flag) Bool.false_ne_true
  · intro never
    have refused := never connected lostTarget ⟨rfl,rfl⟩ notice
    exact absurd (refused.symm.trans committed) Bool.false_ne_true

/-- Two empty stores, of which the target has the transaction undone when it is asked for the
watermark. -/
def demandingTarget : World Scripts where
  stores := { target := { traps := [⟨"max(created_at)",0,.raised (.foreign "Rollback") ""⟩] } }
  clock := [Timestamp.first]

-- The run goes on, and takes the transaction for one that was committed.
example : (migrate connected demandingTarget).world.state.committed = true ∧
    succeeded Item.isCommit (traceOf (migrate connected demandingTarget).effects) = false := by
  decide +kernel

end Migration

end RoomTransfer
