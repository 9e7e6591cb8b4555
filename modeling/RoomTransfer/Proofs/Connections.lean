import RoomTransfer.Proofs.Passage
import RoomTransfer.Proofs.Sessions

/-! The connections of a run. However its parts end, their traces make up those of two sessions, one
inside the other, and the run leaves no connection open. -/
namespace RoomTransfer

open Store

section Steps

variable {σ : Type} [Database σ] {options : Options} {step : Step}

theorem Step.query_known (known : Step.Of options step) : step.query ∈ legacyQueries options := by
  cases known <;> simp [legacyQueries,Step.events]

namespace Step.Issues

variable {item : Item}

theorem inner (issued : step.Issues item) : item.bounds = false := by
  cases item with
  | request request => cases request <;> first | rfl | exact issued.elim
  | _ => rfl

theorem reads (issued : step.Issues item) (known : Step.Of options step)
    (legacy : item.session? = some .legacy) : item.ReadsLegacy options := by
  cases item with
  | request request =>
    cases request with
    | execute side cursor sql parameters =>
      obtain ⟨_,_,rfl,_⟩ := issued
      exact Step.query_known known
    | insert sql rows => cases legacy
    | fetch cursor size served => trivial
    | _ => exact issued.elim
  | failed side label => trivial
  | cursor side name => trivial
  | progressUpdate rows => cases legacy
  | _ => exact issued.elim

end Step.Issues

/-- The progress of a step is opened first and closed last, and is open while it is told. -/
theorem Step.Bar.inside {disabled : Bool} {inner trace : List Item}
    (bar : step.Bar disabled inner trace) (known : Step.Of options step) : Inside options trace := by
  have told : inner.foldlM Item.turns true = some true := by
    refine turns_still fun item member => ?_
    have issued := bar.issued item member
    cases item <;> first | rfl | exact issued.elim
  refine ⟨bar.each rfl (fun _ issued => issued.inner) rfl,
    bar.each nofun (fun _ issued => issued.reads known) nofun,?_⟩
  rw [bar.shape]
  change (inner ++ [Item.progressClose]).foldlM Item.turns true = some false
  rw [List.foldlM_append,told]
  rfl

theorem transferEvents_inside (options : Options) (w : World σ) :
    Inside options (traceOf (transferEvents options w).effects) := by
  have asked : Inside options [watermarkItem] := inside_target rfl rfl
  rcases transferEvents_trace options w with ⟨_,trace | ⟨label,trace⟩⟩ | ⟨watermark,_,_,_,bar,trace⟩
  · rw [trace]
    exact asked
  · rw [trace]
    exact asked.append (inside_target rfl rfl)
  · rw [trace]
    exact asked.append (bar.inside (.events watermark))

theorem steps_inside (options : Options) (w : World σ) :
    Inside options (traceOf (Migration.steps options w).effects) := by
  have head : Inside options [.cursor .target none] := inside_target rfl rfl
  obtain ⟨_,first⟩ := Step.run_trace (Step.rooms options) options w
  obtain ⟨_,second⟩ := Step.run_trace Step.adjustments options (transferRooms options w).world
  have rooms : Inside options _ := first.inside .rooms
  have adjustments : Inside options _ := second.inside .adjustments
  obtain ⟨rest,rest',whole,⟨_,rfl⟩ | ⟨_,rfl,⟨_,rfl⟩ | rfl⟩⟩ := steps_trace options w
  · rw [whole]
    exact head.append (rooms.append inside_nil)
  · rw [whole]
    exact head.append (rooms.append (adjustments.append inside_nil))
  · rw [whole]
    exact head.append (rooms.append (adjustments.append (transferEvents_inside options _)))

end Steps

namespace Migration

section Booking

variable {σ : Type}

/-- The conduct that leaves the link and the trace as they are. -/
def booking : Conduct σ := .keeping (·.linkOpen) fun
  | .item _ => False
  | .log _ => True

theorem booking_admitsBooking : (booking : Conduct σ).AdmitsBooking :=
  ⟨fun _ _ => trivial,fun _ _ => rfl,fun _ _ _ => rfl⟩

theorem booking_trace {x : Run σ Unit} (follows : x.Follows booking) (w : World σ) :
    traceOf (x w).effects = [] := by
  refine List.eq_nil_iff_forall_not_mem.mpr fun item member => ?_
  exact follows.effects w _ (mem_traceOf.mp member)

end Booking

variable {σ : Type} [Database σ] {settings : Settings} {w : World σ}

theorem endItem_ends (result : Except Failure Unit) (dryRun : Bool) :
    (endItem result dryRun).endsTransaction = true := by
  cases result with
  | error failure => rfl
  | ok _ => cases dryRun <;> rfl

theorem endItem_inside {options : Options} (result : Except Failure Unit) (dryRun : Bool) :
    Inside options [endItem result dryRun] := by
  cases result with
  | error failure => exact inside_target rfl rfl
  | ok _ => cases dryRun <;> exact inside_target rfl rfl

/-- A transaction that began is ended in its trace. -/
theorem transaction_work (options : Options) (w : World σ) :
    Work options (traceOf (transaction (steps options) w).effects) := by
  have head : Inside options [.request .begin] := inside_target rfl rfl
  rcases Run.ask_trace .begin w with ⟨reply,begun,_⟩ | ⟨_,label,begun,refusal⟩
  · obtain ⟨after,refused,trace⟩ := transaction_trace (steps options) begun
    let b := steps options (Run.ask .begin w).world
    have last : Inside options (endItem b.result b.world.state.dryRun :: after) :=
      (endItem_inside b.result b.world.state.dryRun).append refused.inside
    rw [trace]
    refine ⟨head.append ((steps_inside options _).append last),⟨_,rfl⟩,fun _ => ?_⟩
    simp [endItem_ends]
  · rw [transaction_refused begun,refusal]
    refine ⟨head.append (inside_target rfl rfl),⟨_,rfl⟩,fun found => ?_⟩
    simp [succeeded,Item.isBegin,refused,Request.side] at found

theorem ask_closing (side : Side) (w : World σ) :
    Closing side (traceOf (Run.ask (.close side) w).effects) := by
  rcases Run.ask_trace (.close side) w with ⟨_,_,trace⟩ | ⟨_,label,_,trace⟩
  · exact ⟨[],trace,.inl rfl⟩
  · exact ⟨[.failed side label],trace,.inr ⟨label,rfl⟩⟩

theorem closeTarget_closing (w : World σ) : Closing .target (traceOf (closeTarget w).effects) := by
  unfold closeTarget
  rw [Run.trace_bind_silent fun _ _ => rfl]
  exact ask_closing .target w

/-- An open link is closed, and what that ends in is only logged or raised. -/
theorem release_closing (isOpen : w.linkOpen = true) :
    Closing .legacy (traceOf (Link.release w).effects) := by
  have same : traceOf (Link.release w).effects =
      traceOf (Run.ask (.close .legacy) { w with linkOpen := false }).effects := by
    simp only [Link.release,Run.bind_apply,Run.world,isOpen,if_true,Run.setLink,Run.attempt,
      List.nil_append,traceOf_append]
    cases (Run.ask (.close .legacy) { w with linkOpen := false }).result with
    | ok _ => exact List.append_nil _
    | error failure =>
      dsimp only
      split <;> exact List.append_nil _
  rw [same]
  exact ask_closing .legacy _

theorem openTarget_trace (settings : Settings) (w : World σ) : ∃ address keywords,
    ((∃ failure, (openTarget settings w).result = .error failure) ∧ ∃ label,
      traceOf (openTarget settings w).effects =
        [.request (.connect .target address keywords),.failed .target label]) ∨
    (openTarget settings w).result = .ok () ∧
      traceOf (openTarget settings w).effects = [.request (.connect .target address keywords)] := by
  refine ⟨some settings.targetAddress,[("autocommit",.bool true),namedRows],?_⟩
  unfold openTarget Run.classify
  rw [Run.trace_bind_silent fun _ _ => rfl,Run.bind_apply,Run.mapFailure_apply]
  rcases Run.ask_trace (.connect .target (some settings.targetAddress)
    [("autocommit",.bool true),namedRows]) w with ⟨_,answered,trace⟩ | ⟨_,label,answered,trace⟩
  · rw [answered]
    exact .inr ⟨rfl,trace⟩
  · rw [answered]
    exact .inl ⟨⟨_,rfl⟩,label,trace⟩

theorem writeAll_visit (settings : Settings) (w : World σ) :
    Visit settings.options (traceOf (writeAll settings w).effects) := by
  obtain ⟨address,keywords,⟨⟨_,refused⟩,label,trace⟩ | ⟨made,trace⟩⟩ := openTarget_trace settings w
  · unfold writeAll
    rw [Run.bind_of_error refused,trace]
    exact visit_refused label
  · have whole : writeAll settings w = _ := Run.bind_of_ok made
    have body : Run.ensuring (writing settings) closeTarget (openTarget settings w).world = _ :=
      Run.ensuring_apply _ _ _
    rw [whole,traceOf_append,trace]
    change Visit settings.options ([_] ++
      traceOf (Run.ensuring (writing settings) closeTarget (openTarget settings w).world).effects)
    rw [body,traceOf_append,writing_effects,List.singleton_append]
    exact visit_made (transaction_work _ _) (closeTarget_closing _)

/-- A link that is closed is opened and set up, or refused. -/
theorem acquire_trace (credentials : Credentials) (closed : w.linkOpen = false) :
    ∃ address keywords, 
    ((∃ failure, (Link.acquire credentials w).result = .error failure) ∧ ∃ label,
      traceOf (Link.acquire credentials w).effects =
        [.request (.connect .legacy address keywords),.failed .legacy label]) ∨
    (Link.acquire credentials w).result = .ok () ∧
      traceOf (Link.acquire credentials w).effects =
        [.request (.connect .legacy address keywords),repeatableRead,readOnly] := by
  refine ⟨none,credentials.keywords ++ [namedRows],?_⟩
  simp only [Link.acquire,Run.bind_apply,Run.world,closed,Bool.false_eq_true,if_false,Run.log,
    Run.effect,Run.classify,Run.mapFailure_apply]
  rcases Run.ask_trace (.connect .legacy none (credentials.keywords ++ [namedRows])) w with
    ⟨_,answered,trace⟩ | ⟨_,label,answered,trace⟩
  · refine .inr ⟨?_,?_⟩
    · rw [answered]
      rfl
    · rw [answered]
      simp only [mapError_ok,traceOf_append,trace]
      rfl
  · refine .inl ⟨?_,label,?_⟩
    · rw [answered]
      exact ⟨_,rfl⟩
    · rw [answered]
      simp only [mapError_error,traceOf_append,trace]
      rfl

theorem within_disciplined (settings : Settings) (closed : w.linkOpen = false) :
    Disciplined settings.options
      (traceOf (Link.within settings.legacy (writeAll settings) w).effects) := by
  obtain ⟨address,keywords,⟨⟨_,refused⟩,label,trace⟩ | ⟨acquired,trace⟩⟩ :=
    acquire_trace settings.legacy closed
  · unfold Link.within
    rw [Run.bind_of_error refused,trace]
    exact disciplined_refused label
  · have isOpen : (writeAll settings (Link.acquire settings.legacy w).world).world.linkOpen = true :=
      (Prod.mk.inj ((writeAll_steady settings).world _)).1.trans (acquire_opens acquired)
    unfold Link.within
    rw [Run.bind_of_ok acquired,traceOf_append,trace]
    change Disciplined settings.options (_ ++ traceOf (Run.ensuring (writeAll settings) Link.release
      (Link.acquire settings.legacy w).world).effects)
    rw [Run.ensuring_apply,traceOf_append]
    exact disciplined_enclosed (writeAll_visit settings _) (release_closing isOpen)

theorem release_closed : (Link.release w).world.linkOpen = false := by
  have asked (v : World σ) : (Run.ask (.close .legacy) v).world.linkOpen = v.linkOpen := by
    rw [Run.ask_world]
  cases isOpen : w.linkOpen with
  | false =>
    simp only [Link.release,Run.bind_apply,Run.world,isOpen,Bool.false_eq_true,if_false]
    exact isOpen
  | true =>
    simp only [Link.release,Run.bind_apply,Run.world,isOpen,if_true,Run.setLink,Run.attempt]
    cases (Run.ask (.close .legacy) { w with linkOpen := false }).result with
    | ok _ => exact asked _
    | error failure =>
      dsimp only
      split <;> exact asked _

/-- A link that was left is closed, whatever was done with it and however its close ended. -/
theorem within_left {α : Type} {credentials : Credentials} (body : Run σ α) :
    (Link.within credentials body w).world.linkOpen = false := by
  cases acquired : (Link.acquire credentials w).result with
  | error failure =>
    unfold Link.within
    rw [Run.bind_of_error acquired]
    exact acquire_failed acquired
  | ok _ =>
    unfold Link.within
    rw [Run.bind_of_ok acquired]
    change (Run.ensuring body Link.release _).world.linkOpen = false
    rw [Run.ensuring_apply]
    exact release_closed

theorem within_closed (settings : Settings) (w : World σ) :
    (Link.within settings.legacy (writeAll settings) w).world.linkOpen = false :=
  within_left (writeAll settings)

/-- However a run goes, its connections are kept in order, and none is left open. -/
theorem connection_discipline (settings : Settings) (w : World σ) (closed : w.linkOpen = false) :
    Disciplined settings.options (traceOf (migrate settings w).effects) ∧
      (migrate settings w).world.linkOpen = false := by
  by_cases ready : Ready settings
  · have started : (start : Run σ Unit).Follows booking := start_follows booking_admitsBooking
    have ended (result : Except Failure Unit) : (ending result : Run σ Unit).Follows booking :=
      ending_follows booking_admitsBooking (fun _ => trivial) result
    -- What is done before the link is opened and behind its close leaves no items.
    have whole : session settings w = _ := Run.bind_of_ok start_result
    have still : (start w).world.linkOpen = false := (started.world w).trans closed
    rw [migrate_of_ready ready]
    simp only [traceOf_append,booking_trace (ended _),List.append_nil]
    refine ⟨?_,((ended _).world _).trans ?_⟩
    · rw [whole,traceOf_append,booking_trace started]
      exact within_disciplined settings still
    · rw [whole]
      exact within_closed settings _
  · obtain ⟨_,run⟩ := migrate_of_unready (w := w) ready
    rw [run]
    exact ⟨disciplined_nil,closed⟩

/-- A target that fails to close is closed once all the same, and so is the link behind it. -/
theorem lost_target_disciplined : lostTarget.linkOpen = false ∧
    Disciplined connected.options (traceOf (migrate connected lostTarget).effects) ∧
      (migrate connected lostTarget).world.linkOpen = false :=
  ⟨rfl,connection_discipline connected lostTarget rfl⟩

end Migration

end RoomTransfer
