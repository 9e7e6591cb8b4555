import RoomTransfer.Proofs.Settlement

/-! Runs whose steps all return. A run that returns is one of them, unless it was told to undo its
steps, and what comes after the steps keeps what they have counted. -/
namespace RoomTransfer.Migration

open Store

variable {σ : Type} [Database σ] {settings : Settings} {w : World σ}

/-- The transaction of a run begins, and all three steps return inside it. -/
def Completes (settings : Settings) (w : World σ) : Prop :=
  (opening settings w).result = .ok () ∧ StepsReturn settings.options (opening settings w).world

theorem completes_iff : Completes settings w ↔
    (opening settings w).result = .ok () ∧ (block settings w).result = .ok () :=
  and_congr_right fun _ => (steps_return_iff settings.options _).symm

omit [Database σ] in
/-- A failure of the sessions is never a success of the run. -/
theorem settle_raises (failure : Failure) : ∃ raised, (settle failure w).result = .error raised := by
  have raised (named thrown : Failure) : ∃ raised,
      ((conclude named >>= fun _ => Run.fail thrown : Run σ Unit) w).result = .error raised := by
    rw [Run.bind_apply]
    cases (conclude named w).result with
    | ok _ => exact ⟨thrown,rfl⟩
    | error cause => exact ⟨cause,rfl⟩
  unfold settle
  split
  · exact raised _ _
  · split
    · exact raised _ _
    · exact ⟨failure,rfl⟩

/-- A transaction that returns has run all of its steps, or was told to undo them. -/
theorem transacted_completes (ready : Ready settings) (prepared : (preparing settings w).result = .ok ())
    (returned : (transaction (steps settings.options) (preparing settings w).world).result = .ok ()) :
    Completes settings w ∨ Undone settings w := by
  rcases transaction_returned returned with whole | abandons
  · obtain ⟨reply,begun,left⟩ := Run.bind_result_ok.mp whole
    have opened := opened_iff.mpr ⟨ready,prepared,reply,begun⟩
    refine .inl (completes_iff.mpr ⟨opened,?_⟩)
    unfold block
    rw [opening_world opened]
    exact left
  · exact .inr (undone_iff.mpr ⟨ready,prepared,abandons⟩)

theorem session_completes (ready : Ready settings) (returned : (session settings w).result = .ok ()) :
    Completes settings w ∨ Undone settings w := by
  cases prepared : (preparing settings w).result with
  | error failure =>
    rw [session_of_unprepared prepared] at returned
    obtain ⟨_,kept⟩ := Run.ensuring_result_ok.mp returned
    exact absurd (prepared.symm.trans kept) nofun
  | ok _ =>
    rw [session_of_prepared prepared] at returned
    obtain ⟨_,written⟩ := Run.ensuring_result_ok.mp returned
    obtain ⟨_,ended,_⟩ := Run.bind_result_ok.mp written
    exact transacted_completes ready prepared ended

/-- A run that returns has run all of its steps, or was told to undo them. -/
theorem completes_of_returned (returned : (migrate settings w).result = .ok ()) :
    Completes settings w ∨ Undone settings w := by
  by_cases ready : Ready settings
  · rw [migrate_of_ready ready] at returned
    cases left : (session settings w).result with
    | ok _ => exact session_completes ready left
    | error failure =>
      rw [left] at returned
      obtain ⟨raised,failed⟩ := settle_raises (w := (session settings w).world) failure
      exact absurd (failed.symm.trans returned) nofun
  · obtain ⟨failure,run⟩ := migrate_of_unready (w := w) ready
    rw [run] at returned
    cases returned

theorem Undone.not_completes (undone : Undone settings w) : ¬ Completes settings w := by
  intro completes
  obtain ⟨_,failure,left,_⟩ := undone
  rw [(completes_iff.mp completes).2] at left
  cases left

omit [Database σ] in
theorem start_counters (w : World σ) : (start w).world.state.counters = Counters.zero := by
  obtain ⟨stores,state,clock,linkOpen⟩ := w
  rcases clock with _ | ⟨t,_ | ⟨u,rest⟩⟩ <;> rfl

theorem opening_counters (opened : (opening settings w).result = .ok ()) :
    (opening settings w).world.state.counters = Counters.zero := by
  rw [opening_world opened,Run.ask_world]
  exact (preparing_keeps RunState.counters).trans (start_counters w)

section Keeping

variable {β : Type} (view : World σ → β)
  (flag : ∀ (v : World σ) committed,
    view { v with state := { v.state with committed } } = view v)
  (commit : ∀ v, view (Run.ask .commit v).world = view v)

include flag commit

/-- After steps that returned, a transaction does no more than commit and set the flag. -/
theorem writing_keeps {reply : Reply} (begun : (Run.ask .begin w).result = .ok reply)
    (left : (steps settings.options (Run.ask .begin w).world).result = .ok ()) :
    view (writing settings w).world =
      view (steps settings.options (Run.ask .begin w).world).world := by
  unfold writing
  cases dry : (steps settings.options (Run.ask .begin w).world).world.state.dryRun with
  | true =>
    rw [Run.bind_apply,transaction_dry begun left dry]
    exact flag _ _
  | false =>
    rw [Run.bind_apply,transaction_committed begun left dry]
    dsimp only
    have after := commit (steps settings.options (Run.ask .begin w).world).world
    cases (Run.ask .commit (steps settings.options (Run.ask .begin w).world).world).result with
    | error failure => exact after
    | ok _ => exact (flag _ _).trans after

theorem migrate_keeps (closed : ∀ v, view (cleanUp v).world = view v)
    (ended : ∀ result v, view (ending result v).world = view v) (completes : Completes settings w) :
    view (migrate settings w).world = view (block settings w).world := by
  obtain ⟨opened,left⟩ := completes_iff.mp completes
  obtain ⟨ready,prepared,reply,begun⟩ := opened_iff.mp opened
  unfold block at left ⊢
  rw [opening_world opened] at left ⊢
  rw [migrate_of_ready ready,ended,session_of_prepared prepared]
  simp only [Run.ensuring_apply,closed]
  exact writing_keeps view flag commit begun left

end Keeping

omit [Database σ] in
theorem ending_keeps {β : Type} {view : RunState → β}
    (blind : ∀ s finishedAt error committed, view { s with finishedAt, error, committed } = view s)
    (result : Except Failure Unit) (v : World σ) :
    view (ending result v).world.state = view v.state := by
  cases result with
  | ok _ => exact finish_keeps view (fun s t => blind s t s.error s.committed)
  | error failure =>
    change view (settle failure v).world.state = view v.state
    cases booked : failure.isBooked with
    | true =>
      obtain ⟨_,_,state⟩ := conclude_state (failure.classified .transactionFailed) v
      rw [settle_world booked,state]
      exact blind _ _ _ _
    | false => rw [settle_unbooked booked]

/-- What is not told of the end of a run is at its end as the steps left it. -/
theorem migrate_state_keeps {β : Type} {view : RunState → β}
    (blind : ∀ s finishedAt error committed, view { s with finishedAt, error, committed } = view s)
    (completes : Completes settings w) :
    view (migrate settings w).world.state = view (block settings w).world.state := by
  refine migrate_keeps (fun v => view v.state) (fun v committed => ?_) (fun v => ?_) (fun v => ?_)
    (ending_keeps blind) completes
  · exact blind v.state v.state.finishedAt v.state.error committed
  · rw [Run.ask_world]
  · exact congrArg view cleanUp_state

end RoomTransfer.Migration
