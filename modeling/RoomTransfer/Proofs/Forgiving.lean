import RoomTransfer.Proofs.Settlement

/-! Failing to close the legacy session. A run over databases that report no failure of their own
there ends as it does over databases that do; only what it tells of the closing differs. -/
namespace RoomTransfer

open Store

namespace Store

/-- An answer that is never a failure of the database itself. -/
def forgive : Except Fault Reply → Except Fault Reply
  | .ok reply => .ok reply
  | .error fault => if fault.failure.isDatabase then .ok {} else .error fault

/-- A database that never reports a failure of its own to close the legacy session. -/
@[reducible] def forgiving {σ : Type} (d : Database σ) : Database σ where
  answer
    | .close .legacy,s => (forgive (d.answer (.close .legacy) s).1,(d.answer (.close .legacy) s).2)
    | request,s => d.answer request s

end Store

section Alike

variable {σ : Type} {d : Database σ}

theorem Insert.write_forgiving (insert : Insert) (rows : List Parameters) :
    @Insert.write σ (forgiving d) insert rows = @Insert.write σ d insert rows := by
  cases rows <;> rfl

theorem Step.transfer_forgiving (step : Step) :
    @Step.transfer σ (forgiving d) step = @Step.transfer σ d step := by
  funext written batch
  simp only [Step.transfer,Insert.write_forgiving]

theorem Link.consume_forgiving {α : Type} (q : Link.Query) (each : α → List Row → Run σ α) (a : α)
    (batches : List (List Row)) : @Link.consume σ α (forgiving d) q each a batches =
      @Link.consume σ α d q each a batches := by
  have served (rows : Nat) : @Link.serve σ (forgiving d) q rows = @Link.serve σ d q rows := rfl
  induction batches generalizing a with
  | nil => simp only [Link.consume,served]
  | cons batch rest ih => simp only [Link.consume,served,ih]

theorem Step.run_forgiving (step : Step) (options : Options) :
    @Step.run σ (forgiving d) step options = @Step.run σ d step options := by
  have asked : @Run.ask σ (forgiving d) (.execute .legacy step.cursor step.query step.parameters) =
      @Run.ask σ d (.execute .legacy step.cursor step.query step.parameters) := rfl
  simp only [Step.run,Link.fetch,Link.consume_forgiving,Step.transfer_forgiving,asked]

namespace Migration

theorem writeAll_forgiving (settings : Settings) :
    @writeAll σ (forgiving d) settings = @writeAll σ d settings := by
  have stepped : @steps σ (forgiving d) settings.options = @steps σ d settings.options := by
    have read : @readWatermark σ (forgiving d) = @readWatermark σ d := rfl
    simp only [steps,transferRooms,transferAdjustments,transferEvents,Step.run_forgiving,read]
  have written : @transaction σ (forgiving d) (@steps σ (forgiving d) settings.options) =
      @transaction σ d (@steps σ d settings.options) := by rw [stepped]; rfl
  have opened : @openTarget σ (forgiving d) settings = @openTarget σ d settings := rfl
  have closed : @closeTarget σ (forgiving d) = @closeTarget σ d := rfl
  simp only [writeAll,written,opened,closed]

/-- What is left behind where the legacy session is closed, and where that fails. -/
def closedEffects : List Effect :=
  [.item (.request (.close .legacy)),.log (.about Log.info Link.entity "Legacy link closed")]

def unclosedEffects (fault : Fault) : List Effect :=
  [.item (.request (.close .legacy)),.item (.failed .legacy fault.label),
    .log (.about Log.warning Link.entity
      ("Error while closing legacy link: " ++ fault.failure.message))]

/-- Two outcomes are the same, but for how the legacy session was closed: the second outcome tells
that it was, the first that a database failed to. -/
def SameButClosing {σ : Type} (o p : Outcome σ Unit) : Prop :=
  o.result = p.result ∧ o.world = p.world ∧ (o.effects = p.effects ∨
    ∃ fault before after, fault.failure.isDatabase = true ∧
      o.effects = before ++ unclosedEffects fault ++ after ∧
        p.effects = before ++ closedEffects ++ after)

namespace SameButClosing

variable {o p : Outcome σ Unit}

theorem refl (o : Outcome σ Unit) : SameButClosing o o := ⟨rfl,rfl,.inl rfl⟩

theorem behind (same : SameButClosing o p) (before : List Effect)
    (f : Except Failure Unit → Except Failure Unit) :
    SameButClosing ⟨f o.result,o.world,before ++ o.effects⟩
      ⟨f p.result,p.world,before ++ p.effects⟩ := by
  obtain ⟨ended,world,effects⟩ := same
  refine ⟨congrArg f ended,world,?_⟩
  rcases effects with alike | ⟨fault,first,last,database,one,two⟩
  · exact .inl (congrArg (before ++ ·) alike)
  · exact .inr ⟨fault,before ++ first,last,database,by simp [one],by simp [two]⟩

/-- What comes next goes on from the same result and the same world. -/
theorem followed (same : SameButClosing o p) (next : Except Failure Unit → Run σ Unit) :
    SameButClosing
      ⟨(next o.result o.world).result,(next o.result o.world).world,
        o.effects ++ (next o.result o.world).effects⟩
      ⟨(next p.result p.world).result,(next p.result p.world).world,
        p.effects ++ (next p.result p.world).effects⟩ := by
  obtain ⟨ended,world,effects⟩ := same
  rw [ended,world]
  refine ⟨rfl,rfl,?_⟩
  rcases effects with alike | ⟨fault,first,last,database,one,two⟩
  · exact .inl (congrArg (· ++ _) alike)
  · exact .inr ⟨fault,first,last ++ (next p.result p.world).effects,database,by simp [one],by simp [two]⟩

end SameButClosing

/-- What becomes of an open link, by the answer to closing it. -/
def released (w : World σ) (stores : σ) : Except Fault Reply → Outcome σ Unit
  | .ok _ => ⟨.ok (),{ w with stores, linkOpen := false },closedEffects⟩
  | .error fault =>
    if fault.failure.isDatabase then
      ⟨.ok (),{ w with stores, linkOpen := false },unclosedEffects fault⟩
    else ⟨.error fault.failure,{ w with stores, linkOpen := false },
      [.item (.request (.close .legacy)),.item (.failed .legacy fault.label)]⟩

theorem release_open {w : World σ} (isOpen : w.linkOpen = true) : @Link.release σ d w =
    released w (d.answer (.close .legacy) w.stores).2 (d.answer (.close .legacy) w.stores).1 := by
  simp only [Link.release,Run.bind_apply,Run.world,isOpen,if_true,Run.setLink,Run.attempt,Run.ask]
  cases (d.answer (.close .legacy) w.stores).1 with
  | ok reply => rfl
  | error fault =>
    cases database : fault.failure.isDatabase with
    | true => simp [released,database,Run.log,Run.effect,unclosedEffects,Request.side]
    | false => simp [released,database,Run.fail,Request.side]

theorem release_forgiving (w : World σ) :
    SameButClosing (@Link.release σ d w) (@Link.release σ (forgiving d) w) := by
  cases isOpen : w.linkOpen with
  | false =>
    have closed (d : Database σ) : @Link.release σ d w = ⟨.ok (),w,[]⟩ := by
      simp [Link.release,Run.bind_apply,Run.world,isOpen]
    rw [closed,closed]
    exact .refl _
  | true =>
    rw [release_open isOpen,release_open isOpen]
    change SameButClosing (released w _ (d.answer (.close .legacy) w.stores).1)
      (released w _ (forgive (d.answer (.close .legacy) w.stores).1))
    cases (d.answer (.close .legacy) w.stores).1 with
    | ok reply => exact .refl _
    | error fault =>
      cases database : fault.failure.isDatabase with
      | false =>
        simp only [forgive,database,Bool.false_eq_true,if_false]
        exact .refl _
      | true =>
        simp only [forgive,released,database,if_true]
        exact ⟨rfl,rfl,.inr ⟨fault,[],[],database,rfl,rfl⟩⟩

theorem within_forgiving (settings : Settings) (w : World σ) :
    SameButClosing (@Link.within σ Unit d settings.legacy (@writeAll σ d settings) w)
      (@Link.within σ Unit (forgiving d) settings.legacy (@writeAll σ (forgiving d) settings) w) := by
  have acquired : @Link.acquire σ (forgiving d) settings.legacy = @Link.acquire σ d settings.legacy :=
    rfl
  unfold Link.within
  rw [acquired,writeAll_forgiving]
  cases result : (@Link.acquire σ d settings.legacy w).result with
  | error failure =>
    rw [Run.bind_of_error result,Run.bind_of_error result]
    exact .refl _
  | ok _ =>
    rw [Run.bind_of_ok result,Run.bind_of_ok result,Run.ensuring_apply,Run.ensuring_apply]
    exact ((release_forgiving _).behind _ fun r => r.bind fun _ => _).behind _ id

/-- A run ends in the same way whether or not a database fails to close the legacy session: the
result and the world are the same, and so is all that it tells but for the closing. -/
theorem migrate_forgiving {settings : Settings} (ready : Ready settings) (w : World σ) :
    SameButClosing (@migrate σ d settings w) (@migrate σ (forgiving d) settings w) := by
  have sessions : SameButClosing (@session σ d settings w) (@session σ (forgiving d) settings w) := by
    have whole (d : Database σ) : @session σ d settings w = _ := Run.bind_of_ok start_result
    rw [whole d,whole (forgiving d)]
    exact (within_forgiving settings (start w).world).behind _ id
  have whole (d : Database σ) := @migrate_of_ready σ settings w d ready
  rw [whole d,whole (forgiving d)]
  exact sessions.followed ending

end Migration

end Alike

end RoomTransfer
