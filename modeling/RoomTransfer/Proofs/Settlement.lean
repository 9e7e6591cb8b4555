import RoomTransfer.Proofs.Passage
import RoomTransfer.Proofs.ReportedOutcome

/-! How a run over any two databases ends. Its session decides: where that returns the run returns,
a failure of the transfer, of a database or by the user is booked and raised, and any other failure
is raised without a word. -/
namespace RoomTransfer

open Store

theorem Failure.foreign_of_isDatabase {failure : Failure} (database : failure.isDatabase = true) :
    (failure.isOwn || failure.isInterrupt) = false := by
  unfold isDatabase at database
  unfold isOwn isInterrupt
  cases kind : failure.kind <;> simp_all [FailureKind.isDatabase,FailureKind.isOwn]

/-- A failure that is booked demands nothing. -/
theorem Failure.undemanded_of_isBooked {failure : Failure} (booked : failure.isBooked = true) :
    failure.isRollback = false := by
  unfold isBooked isOwn isInterrupt isDatabase at booked
  unfold isRollback
  cases kind : failure.kind <;>
    simp_all [FailureKind.isOwn,FailureKind.isDatabase,FailureKind.isRollback]

theorem Run.ensuring_result_ok {σ α : Type} {x : Run σ α} {cleanup : Run σ Unit} {w : World σ}
    {a : α} : (ensuring x cleanup w).result = .ok a ↔
      (cleanup (x w).world).result = .ok () ∧ (x w).result = .ok a := by
  rw [ensuring_apply]
  cases (cleanup (x w).world).result <;> simp [Except.bind]

namespace Migration

/-- A failure is raised as the outcome of the run, and the state tells of it. -/
structure Booked {σ : Type} (failure : Failure) (o : Outcome σ Unit) : Prop where
  raised : o.result = .error failure
  error : o.world.state.error = .text failure.message
  finished : ∃ t, o.world.state.finishedAt = .stamp t
  uncommitted : o.world.state.committed = false

/-- A failure is raised that the state tells nothing of. -/
structure Unbooked {σ : Type} (failure : Failure) (o : Outcome σ Unit) : Prop where
  raised : o.result = .error failure
  error : o.world.state.error = .null
  finished : o.world.state.finishedAt = .null

section Booking

variable {σ : Type} {w : World σ}

/-- A failure that is booked is booked under the name that it is raised by. -/
theorem settle_world {failure : Failure} (booked : failure.isBooked = true) :
    (settle failure w).world = (conclude (failure.classified .transactionFailed) w).world := by
  unfold settle Failure.classified
  cases database : failure.isDatabase with
  | false =>
    have own : (failure.isOwn || failure.isInterrupt) = true := by
      simpa [Failure.isBooked,database] using booked
    simp only [own,if_true,Bool.false_eq_true,if_false]
    exact Run.bind_fail_world _ _ w
  | true =>
    simp only [Failure.foreign_of_isDatabase database,if_true,Bool.false_eq_true,if_false]
    exact Run.bind_fail_world _ _ w

theorem settle_booked (clock : Universal w.clock) (started : w.state.startedAt.IsInstant)
    {failure : Failure} (booked : failure.isBooked = true) :
    Booked (failure.classified .transactionFailed) (settle failure w) := by
  have raised (named : Failure) :
      Booked named ((conclude named >>= fun _ => Run.fail named : Run σ Unit) w) := by
    obtain ⟨t,_,state⟩ := conclude_state named w
    rw [Run.bind_of_ok (conclude_returns clock started named)]
    constructor
    · rfl
    · exact congrArg RunState.error state
    · exact ⟨t,congrArg RunState.finishedAt state⟩
    · exact congrArg RunState.committed state
  unfold settle Failure.classified
  cases database : failure.isDatabase with
  | false =>
    have own : (failure.isOwn || failure.isInterrupt) = true := by
      simpa [Failure.isBooked,database] using booked
    simp only [own,if_true,Bool.false_eq_true,if_false]
    exact raised failure
  | true =>
    simp only [Failure.foreign_of_isDatabase database,if_true,Bool.false_eq_true,if_false]
    exact raised _

theorem settle_unbooked {failure : Failure} (unbooked : failure.isBooked = false) :
    settle failure w = ⟨.error failure,w,[]⟩ := by
  simp only [Failure.isBooked,Bool.or_eq_false_iff] at unbooked
  simp [settle,unbooked,Run.fail]

end Booking

section Session

variable {σ : Type} [Database σ] {settings : Settings} {w : World σ}

/-- Opening, writing and closing keep a conduct that admits them and the flag for a commit. -/
theorem within_follows {c : Conduct σ} (sessions : c.AdmitsSessions) (stepping : c.AdmitsSteps)
    (items : ∀ item, c.allows (.item item))
    (flag : ∀ (w : World σ) committed, c.moves w
      { w with state := { w.state with committed } }) :
    (Link.within settings.legacy (writeAll settings) : Run σ Unit).Follows c := by
  have written : (writing settings : Run σ Unit).Follows c :=
    (transaction_follows (steps_follows stepping _) items stepping.ask).bind fun _ =>
      Run.follows_modifyState fun w => flag w _
  have whole : (writeAll settings : Run σ Unit).Follows c :=
    (openTarget_follows sessions settings).bind fun _ =>
      written.ensuring (closeTarget_follows sessions)
  exact (Link.acquire_follows sessions _).bind fun _ =>
    whole.ensuring (Link.release_follows sessions)

/-- A whole run keeps a conduct that admits all of its parts and every record. -/
theorem migrate_follows {c : Conduct σ} (sessions : c.AdmitsSessions) (stepping : c.AdmitsSteps)
    (booking : c.AdmitsBooking) (items : ∀ item, c.allows (.item item))
    (logs : ∀ record, c.allows (.log record)) : (migrate settings : Run σ Unit).Follows c := by
  have within : (Link.within settings.legacy (writeAll settings) : Run σ Unit).Follows c :=
    within_follows sessions stepping items fun w _ => booking.state w _ rfl
  refine (Run.follows_ofExcept _).bind fun _ => (Run.follows_ofExcept _).bind fun _ =>
    (start_follows booking).bind fun _ => within.attempt.bind fun result => ?_
  exact ending_follows booking logs result

theorem migrate_keeps_flag : (migrate settings w).world.state.dryRun = w.state.dryRun := by
  have kept : (migrate settings : Run σ Unit).Follows (.keeping (·.state.dryRun) fun _ => True) :=
    migrate_follows ⟨fun _ _ => trivial,fun _ _ => trivial,fun _ _ _ => rfl,fun _ _ => rfl⟩
      ⟨⟨fun _ _ => trivial,fun _ _ => trivial,fun _ _ => rfl,fun _ _ _ => rfl⟩,fun _ _ => rfl⟩
      ⟨fun _ _ => trivial,fun _ _ => rfl,fun _ _ same => same⟩ (fun _ => trivial) fun _ => trivial
  exact kept.world w

omit [Database σ] in
/-- Of the state that a run finds, only the dry-run flag matters to it. -/
theorem start_of_state (state : RunState) (flag : state.dryRun = w.state.dryRun) :
    start { w with state } = start w := by
  have reset : state.reset = w.state.reset := by rw [RunState.reset,flag,RunState.reset]
  simp only [start,Run.bind_apply,Run.modifyState,reset]

theorem preparing_of_state (state : RunState) (flag : state.dryRun = w.state.dryRun) :
    preparing settings { w with state } = preparing settings w :=
  Run.bind_same (start_of_state state flag)

theorem opening_of_state (ready : Ready settings) (state : RunState)
    (flag : state.dryRun = w.state.dryRun) :
    opening settings { w with state } = opening settings w := by
  rw [opening_of_ready ready,opening_of_ready ready]
  exact Run.bind_same (preparing_of_state state flag)

theorem migrate_of_state (ready : Ready settings) (state : RunState)
    (flag : state.dryRun = w.state.dryRun) :
    migrate settings { w with state } = migrate settings w := by
  have opened : session settings { w with state } = session settings w :=
    Run.bind_same (start_of_state state flag)
  rw [migrate_of_ready ready,migrate_of_ready ready,opened]

/-- The times and the error are told at the start and at the end of a run, and nowhere between. -/
theorem session_told (settings : Settings) (clock : Universal w.clock) :
    Universal (session settings w).world.clock ∧
      (session settings w).world.state.startedAt.IsInstant ∧
      (session settings w).world.state.error = .null ∧
      (session settings w).world.state.finishedAt = .null := by
  have kept : (Link.within settings.legacy (writeAll settings) : Run σ Unit).Follows
      (.keeping (fun w => (w.clock,w.state.startedAt,w.state.error,w.state.finishedAt))
        fun _ => True) :=
    within_follows ⟨fun _ _ => trivial,fun _ _ => trivial,fun _ _ _ => rfl,fun _ _ => rfl⟩
      ⟨⟨fun _ _ => trivial,fun _ _ => trivial,fun _ _ => rfl,fun _ _ _ => rfl⟩,fun _ _ => rfl⟩
      (fun _ => trivial) fun _ _ => rfl
  obtain ⟨t,rest,started,aware,universal⟩ := start_smooth clock
  have whole : session settings w = _ := Run.bind_of_ok start_result
  have same := kept.world (start w).world
  rw [started] at whole same
  rw [whole]
  obtain ⟨times,same⟩ := Prod.mk.inj same
  obtain ⟨startedAt,same⟩ := Prod.mk.inj same
  obtain ⟨error,finishedAt⟩ := Prod.mk.inj same
  exact ⟨times ▸ universal,⟨t,startedAt,aware⟩,error,finishedAt⟩

/-- A transaction that returns has read a watermark, or was told to roll back without one. -/
theorem transaction_marked (marked : w.state.Marked)
    (returned : (transaction (steps settings.options) w).result = .ok ()) :
    (transaction (steps settings.options) w).world.state.Marked := by
  have begin' : (Run.ask .begin w).world.state.Marked := by
    rw [Run.ask_world]
    exact marked
  rcases transaction_returned returned with whole | ⟨⟨reply,begun⟩,failure,left,demanded⟩
  · obtain ⟨reply,begun,left⟩ := Run.bind_result_ok.mp whole
    have mark := steps_watermark left
    cases real : (steps settings.options (Run.ask .begin w).world).world.state.dryRun with
    | true =>
      rw [transaction_dry begun left real]
      exact .inr mark
    | false =>
      rw [transaction_committed begun left real,Run.ask_world]
      exact .inr mark
  · rw [transaction_failed begun left]
    exact steps_marked begin' left demanded

theorem preparing_unmarked : (preparing settings w).world.state.watermark = .null := by
  rw [preparing_keeps RunState.watermark]
  obtain ⟨stores,state,clock,linkOpen⟩ := w
  rcases clock with _ | ⟨t,_ | ⟨u,rest⟩⟩ <;> rfl

theorem session_marked (returned : (session settings w).result = .ok ()) :
    (session settings w).world.state.Marked := by
  cases prepared : (preparing settings w).result with
  | error failure =>
    rw [session_of_unprepared prepared,Run.ensuring_result_ok,prepared] at returned
    cases returned.2
  | ok _ =>
    rw [session_of_prepared prepared] at returned ⊢
    obtain ⟨_,written⟩ := Run.ensuring_result_ok.mp returned
    obtain ⟨_,ended,_⟩ := Run.bind_result_ok.mp written
    have marked := transaction_marked (.inl preparing_unmarked) ended
    have whole : writing settings (preparing settings w).world = _ := Run.bind_of_ok ended
    simp only [Run.ensuring_apply,cleanUp_state,whole]
    exact marked

variable {failure : Failure}

theorem migrate_stores (ready : Ready settings) : (migrate settings w).world.stores =
    (sessionPassage settings w.linkOpen w.state.dryRun w.stores).stores := by
  rw [migrate_of_ready ready,← session_passage]
  exact ending_stores _ _

theorem session_result_passage : (session settings w).result =
    (sessionPassage settings w.linkOpen w.state.dryRun w.stores).result := by
  rw [← session_passage]
  rfl

/-- Where the session returns, so does the run. -/
theorem migrate_returned (ready : Ready settings) (clock : Universal w.clock)
    (left : (sessionPassage settings w.linkOpen w.state.dryRun w.stores).result = .ok ()) :
    (migrate settings w).result = .ok () := by
  rw [← session_result_passage] at left
  obtain ⟨clock',started,_,_⟩ := session_told settings clock
  rw [migrate_of_ready ready,left]
  exact finish_returns clock' started (session_marked left)

theorem migrate_booked (ready : Ready settings) (clock : Universal w.clock)
    (left : (sessionPassage settings w.linkOpen w.state.dryRun w.stores).result = .error failure)
    (booked : failure.isBooked = true) :
    Booked (failure.classified .transactionFailed) (migrate settings w) := by
  rw [← session_result_passage] at left
  obtain ⟨clock',started,_,_⟩ := session_told settings clock
  have settled := settle_booked clock' started booked
  rw [migrate_of_ready ready,left]
  exact ⟨settled.raised,settled.error,settled.finished,settled.uncommitted⟩

theorem migrate_unbooked (ready : Ready settings) (clock : Universal w.clock)
    (left : (sessionPassage settings w.linkOpen w.state.dryRun w.stores).result = .error failure)
    (unbooked : failure.isBooked = false) : Unbooked failure (migrate settings w) := by
  rw [← session_result_passage] at left
  obtain ⟨_,_,error,finished⟩ := session_told settings clock
  rw [migrate_of_ready ready,left]
  simp only [ending,settle_unbooked unbooked]
  exact ⟨rfl,error,finished⟩

end Session

end Migration

end RoomTransfer
