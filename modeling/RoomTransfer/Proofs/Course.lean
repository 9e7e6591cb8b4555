import RoomTransfer.Proofs.Conduct

/-! The course of a run: preparation, one target transaction, clean-up, and the booking of how it
all ended. Whatever fails, a run is one of three sequences of these parts. -/
namespace RoomTransfer

@[simp] theorem mapError_ok {ε ε' α : Type} (f : ε → ε') (a : α) :
    (Except.ok a : Except ε α).mapError f = .ok a := rfl

@[simp] theorem mapError_error {ε ε' α : Type} (f : ε → ε') (e : ε) :
    (Except.error e : Except ε α).mapError f = .error (f e) := rfl

namespace Run

variable {σ α β : Type}

theorem bind_of_ok {x : Run σ α} {f : α → Run σ β} {w : World σ} {a : α}
    (result : (x w).result = .ok a) :
    (x >>= f) w = ⟨(f a (x w).world).result,(f a (x w).world).world,
      (x w).effects ++ (f a (x w).world).effects⟩ := by
  rw [bind_apply,result]

theorem bind_of_error {x : Run σ α} {f : α → Run σ β} {w : World σ} {failure : Failure}
    (result : (x w).result = .error failure) :
    (x >>= f) w = ⟨.error failure,(x w).world,(x w).effects⟩ := by
  rw [bind_apply,result]

/-- What a first part makes the same of two worlds, the whole does. -/
theorem bind_same {x : Run σ α} {f : α → Run σ β} {w v : World σ} (same : x w = x v) :
    (x >>= f) w = (x >>= f) v := by
  rw [bind_apply,same,← bind_apply]

theorem bind_result_ok {x : Run σ α} {f : α → Run σ β} {w : World σ} {b : β} :
    ((x >>= f) w).result = .ok b ↔
      ∃ a, (x w).result = .ok a ∧ (f a (x w).world).result = .ok b := by
  rw [bind_apply]
  cases (x w).result <;> simp

theorem ensuring_apply (x : Run σ α) (cleanup : Run σ Unit) (w : World σ) :
    ensuring x cleanup w = ⟨(cleanup (x w).world).result.bind fun _ => (x w).result,
      (cleanup (x w).world).world,(x w).effects ++ (cleanup (x w).world).effects⟩ := by
  simp only [ensuring,attempt,bind_apply,Except.bind]
  cases (cleanup (x w).world).result <;> cases (x w).result <;> simp [ofExcept,fail]

theorem mapFailure_apply (f : Failure → Failure) (x : Run σ α) (w : World σ) :
    mapFailure f x w = ⟨(x w).result.mapError f,(x w).world,(x w).effects⟩ := by
  simp only [mapFailure,attempt,bind_apply]
  cases (x w).result <;> simp [fail]

/-- What is asked is in the trace, and where it fails its failure stands right behind it. -/
theorem ask_trace [Store.Database σ] (request : Store.Request) (w : World σ) :
    (∃ reply, (ask request w).result = .ok reply ∧
      traceOf (ask request w).effects = [.request request]) ∨
    ∃ failure label, (ask request w).result = .error failure ∧
      traceOf (ask request w).effects = [.request request,.failed request.side label] := by
  unfold ask
  dsimp only
  split
  next reply _ => exact .inl ⟨reply,rfl,rfl⟩
  next fault _ => exact .inr ⟨fault.failure,fault.label,rfl,rfl⟩

theorem ask_world [Store.Database σ] (request : Store.Request) (w : World σ) :
    (ask request w).world = { w with stores := (Store.Database.answer request w.stores).2 } := by
  unfold ask
  dsimp only
  split <;> rfl

/-- What is replied is the answer of the database. -/
theorem ask_answered [Store.Database σ] {request : Store.Request} {w : World σ} {reply : Store.Reply}
    (replied : (ask request w).result = .ok reply) :
    (Store.Database.answer request w.stores).1 = .ok reply := by
  unfold ask at replied
  dsimp only at replied
  split at replied
  next answered =>
    cases replied
    exact answered
  next => cases replied

/-- Two clean-ups around a body are one clean-up that itself ends with the second. -/
theorem ensuring_assoc (x : Run σ α) (first second : Run σ Unit) :
    ensuring (ensuring x first) second = ensuring x (ensuring first second) := by
  funext w
  simp only [ensuring_apply,List.append_assoc]
  congr 1
  cases (second (first (x w).world).world).result <;> rfl

theorem now_returns (w : World σ) : ∃ t, (now w).result = .ok t := by
  obtain ⟨_,_,clock,_⟩ := w
  rcases clock with _ | ⟨t,_ | ⟨u,rest⟩⟩ <;> exact ⟨_,rfl⟩

theorem bind_fail_world (x : Run σ Unit) (failure : Failure) (w : World σ) :
    ((x >>= fun _ => fail failure : Run σ Unit) w).world = (x w).world := by
  rw [bind_apply]
  cases (x w).result <;> rfl

/-- The state is stamped with a moment, and then it stays as it is. -/
theorem stamped_state (stamp : Timestamp → RunState → RunState) {x : Run σ Unit}
    (quiet : x.Follows (.keeping (·.state) fun _ => True)) (w : World σ) :
    ∃ t, (now w).result = .ok t ∧ ((now >>= fun t => modifyState (stamp t) >>= fun _ => x :
      Run σ Unit) w).world.state = stamp t w.state := by
  obtain ⟨t,looked⟩ := now_returns w
  have looking : (now : Run σ Timestamp).Follows (.keeping (·.state) fun _ => True) :=
    follows_now fun _ _ => rfl
  refine ⟨t,looked,?_⟩
  rw [bind_of_ok looked]
  exact (quiet.world _).trans (congrArg (stamp t) (looking.world w))

end Run

namespace Migration

variable {σ : Type} {settings : Settings} {w : World σ}

theorem start_result : (start w).result = .ok () := by
  obtain ⟨stores,state,clock,linkOpen⟩ := w
  rcases clock with _ | ⟨t,_ | ⟨u,rest⟩⟩ <;> rfl

/-- The end of a run that succeeds changes nothing of the state but its time. -/
theorem finish_state (w : World σ) : ∃ t, (Run.now w).result = .ok t ∧
    (finish w).world.state = { w.state with finishedAt := .stamp t } :=
  Run.stamped_state (fun t s => { s with finishedAt := .stamp t })
    (Run.follows_state.bind fun _ => Run.follows_logParts fun _ _ _ _ => trivial) w

theorem finish_keeps {β : Type} (view : RunState → β)
    (blind : ∀ s finishedAt, view { s with finishedAt } = view s) :
    view (finish w).world.state = view w.state := by
  obtain ⟨t,_,state⟩ := finish_state w
  rw [state]
  exact blind _ _

theorem conclude_state (failure : Failure) (w : World σ) : ∃ t, (Run.now w).result = .ok t ∧
    (conclude failure w).world.state = { w.state with
      finishedAt := .stamp t, error := .text failure.message, committed := false } :=
  Run.stamped_state (fun t s => { s with
      finishedAt := .stamp t, error := .text failure.message, committed := false })
    (Run.follows_state.bind fun _ => (Run.follows_ofExcept _).bind fun _ =>
      Run.follows_logAll fun _ _ => trivial) w

theorem announced_apply (entity : String) (x : Run σ Nat) (w : World σ) :
    announced entity x w = ⟨(x w).result.map fun _ => (),(x w).world,
      .log (.about Log.debug entity ("Running " ++ entity ++ " step")) :: (x w).effects⟩ := by
  simp only [announced,Run.bind_apply,Run.log,Run.effect]
  cases (x w).result <;> simp [Except.map]

theorem announced_world (entity : String) (x : Run σ Nat) (w : World σ) :
    (announced entity x w).world = (x w).world := by rw [announced_apply]

variable [Store.Database σ]

/-- Both sessions opened: all that a run does before its transaction. -/
def preparing (settings : Settings) : Run σ Unit := do
  start
  Link.acquire settings.legacy
  openTarget settings

/-- The transaction of a run, and its success booked. -/
def writing (settings : Settings) : Run σ Unit := do
  transaction (steps settings.options)
  Run.modifyState fun s => { s with committed := !s.dryRun }

/-- Both sessions closed, the target first. -/
def cleanUp : Run σ Unit := Run.ensuring closeTarget Link.release

theorem preparing_follows {c : Conduct σ} (booking : c.AdmitsBooking)
    (sessions : c.AdmitsSessions) (settings : Settings) :
    (preparing settings : Run σ Unit).Follows c :=
  (start_follows booking).bind fun _ => (Link.acquire_follows sessions _).bind fun _ =>
    openTarget_follows sessions settings

theorem cleanUp_follows {c : Conduct σ} (sessions : c.AdmitsSessions) :
    (cleanUp : Run σ Unit).Follows c :=
  (closeTarget_follows sessions).ensuring (Link.release_follows sessions)

/-- Everything between the check of the credentials and the booking of the result. -/
def session (settings : Settings) : Run σ Unit := do
  start
  Link.within settings.legacy (writeAll settings)

/-- What a run does with the way its sessions ended. -/
def ending : Except Failure Unit → Run σ Unit
  | .error failure => settle failure
  | .ok () => finish

omit [Store.Database σ] in
theorem ending_follows {c : Conduct σ} (booking : c.AdmitsBooking)
    (logs : ∀ record, c.allows (.log record)) (result : Except Failure Unit) :
    (ending result : Run σ Unit).Follows c := by
  cases result with
  | ok _ => exact finish_follows booking
  | error failure => exact settle_follows booking logs failure

/-- Credentials for both stores are there. -/
def Ready (settings : Settings) : Prop :=
  settings.requireLegacy = .ok () ∧ settings.requireTarget = .ok ()

/-- Settings with credentials for both stores. -/
def connected : Settings where
  options := default
  legacy := { host := "legacy.internal", database := "conference", user := "reader" }
  targetAddress := "postgresql://writer@target/event"

/-- Without credentials a run fails before it touches anything. -/
theorem migrate_of_unready (unready : ¬ Ready settings) :
    ∃ failure, migrate settings w = ⟨.error failure,w,[]⟩ := by
  unfold migrate
  cases legacy : settings.requireLegacy with
  | error failure => exact ⟨failure,rfl⟩
  | ok _ =>
    cases target : settings.requireTarget with
    | error failure => exact ⟨failure,rfl⟩
    | ok _ => exact absurd ⟨legacy,target⟩ unready

theorem migrate_of_ready (ready : Ready settings) :
    let s := session settings w
    let e := ending s.result s.world
    migrate settings w = ⟨e.result,e.world,s.effects ++ e.effects⟩ := by
  intro s e
  have head : session settings w = _ := Run.bind_of_ok start_result
  have run : migrate settings w = (start >>= fun _ =>
      Run.attempt (Link.within settings.legacy (writeAll settings)) >>= ending) w := by
    unfold migrate
    rw [ready.1,ready.2]
    simp only [Run.bind_apply,Run.ofExcept,Run.pure_apply,List.nil_append]
    rfl
  rw [run,Run.bind_of_ok start_result]
  simp only [Run.bind_apply,Run.attempt,e,s,head,List.append_assoc]

theorem acquire_failed {credentials : Credentials} {failure : Failure}
    (failed : (Link.acquire credentials w).result = .error failure) :
    (Link.acquire credentials w).world.linkOpen = false := by
  cases isOpen : w.linkOpen with
  | true => simp [Link.acquire,Run.world,Run.bind_apply,isOpen] at failed
  | false =>
    have kept : (Run.ask (.connect .legacy none (credentials.keywords ++ [namedRows])) :
        Run σ Store.Reply).Follows (.keeping World.linkOpen fun _ => True) :=
      Run.follows_ask trivial (fun _ => trivial) fun _ => rfl
    simp only [Link.acquire,Run.world,Run.bind_apply,isOpen,Bool.false_eq_true,if_false,
      Run.classify,Run.mapFailure_apply,Run.log,Run.effect] at failed ⊢
    cases asked : (Run.ask (.connect .legacy none (credentials.keywords ++ [namedRows])) w).result with
    | error cause =>
      simp only [mapError_error]
      exact (kept.world w).trans isOpen
    | ok reply => simp [asked,Run.note,Run.effect,Run.setLink] at failed

/-- The session that is prepared is one body with one clean-up. -/
theorem session_of_prepared (prepared : (preparing settings w).result = .ok ()) :
    let p := preparing settings w
    let s := Run.ensuring (writing settings) cleanUp p.world
    session settings w = ⟨s.result,s.world,p.effects ++ s.effects⟩ := by
  intro p s
  obtain ⟨_,_,rest⟩ := Run.bind_result_ok.mp prepared
  obtain ⟨_,acquired,opened⟩ := Run.bind_result_ok.mp rest
  have body : writeAll settings (Link.acquire settings.legacy (start w).world).world = _ :=
    Run.bind_of_ok opened
  have within : Link.within settings.legacy (writeAll settings) (start w).world = _ :=
    Run.bind_of_ok acquired
  have whole : session settings w = _ := Run.bind_of_ok start_result
  have before : preparing settings w = _ := Run.bind_of_ok start_result
  rw [Run.bind_of_ok acquired] at before
  have split : s = Run.ensuring (Run.ensuring (writing settings) closeTarget) Link.release p.world := by
    rw [Run.ensuring_assoc]; rfl
  rw [whole,within,split]
  simp only [Run.ensuring_apply,body,p,before,List.append_assoc]
  rfl

/-- Where a session cannot be prepared, the link is closed and nothing is written. -/
theorem session_of_unprepared {failure : Failure}
    (unprepared : (preparing settings w).result = .error failure) :
    session settings w = Run.ensuring (preparing settings) Link.release w := by
  have whole : session settings w = _ := Run.bind_of_ok start_result
  have before : preparing settings w = _ := Run.bind_of_ok start_result
  rw [whole,Run.ensuring_apply,before]
  cases acquired : (Link.acquire settings.legacy (start w).world).result with
  | error cause =>
    have closed := acquire_failed acquired
    rw [Run.bind_of_error acquired]
    rw [show Link.within settings.legacy (writeAll settings) (start w).world = _ from
      Run.bind_of_error acquired]
    simp [Link.release,Run.world,Run.bind_apply,closed,Except.bind]
  | ok _ =>
    have opened : (openTarget settings (Link.acquire settings.legacy (start w).world).world).result
        = .error failure := by
      rw [before,Run.bind_of_ok acquired] at unprepared
      exact unprepared
    have body : writeAll settings (Link.acquire settings.legacy (start w).world).world = _ :=
      Run.bind_of_error opened
    rw [Run.bind_of_ok acquired]
    rw [show Link.within settings.legacy (writeAll settings) (start w).world = _ from
      Run.bind_of_ok acquired]
    simp only [Run.ensuring_apply,body,opened,List.append_assoc]

section Transaction

variable {body : Run σ Unit}

theorem transaction_refused {failure : Failure}
    (begun : (Run.ask .begin w).result = .error failure) :
    transaction body w = ⟨.error failure,(Run.ask .begin w).world,(Run.ask .begin w).effects⟩ :=
  Run.bind_of_error begun

theorem transaction_failed {reply : Store.Reply} {failure : Failure}
    (begun : (Run.ask .begin w).result = .ok reply)
    (left : (body (Run.ask .begin w).world).result = .error failure) :
    transaction body w = ⟨passOn failure,(body (Run.ask .begin w).world).world,
      (Run.ask .begin w).effects ++ ((body (Run.ask .begin w).world).effects ++
        [.item (.rollback failure.kind.name)])⟩ := by
  unfold transaction passOn
  rw [Run.bind_of_ok begun]
  cases rollback : failure.isRollback <;>
    simp [Run.bind_apply,Run.attempt,left,Run.note,Run.effect,Run.ofExcept,Run.fail,rollback]

theorem transaction_dry {reply : Store.Reply} (begun : (Run.ask .begin w).result = .ok reply)
    (returned : (body (Run.ask .begin w).world).result = .ok ())
    (dry : (body (Run.ask .begin w).world).world.state.dryRun = true) :
    transaction body w = ⟨.ok (),(body (Run.ask .begin w).world).world,
      (Run.ask .begin w).effects ++ ((body (Run.ask .begin w).world).effects ++
        [.item (.rollback "Rollback")])⟩ := by
  unfold transaction
  rw [Run.bind_of_ok begun]
  simp [Run.bind_apply,Run.attempt,returned,Run.state,dry,Run.note,Run.effect]

theorem transaction_committed {reply : Store.Reply} (begun : (Run.ask .begin w).result = .ok reply)
    (returned : (body (Run.ask .begin w).world).result = .ok ())
    (real : (body (Run.ask .begin w).world).world.state.dryRun = false) :
    let c := Run.ask .commit (body (Run.ask .begin w).world).world
    transaction body w = ⟨c.result.map fun _ => (),c.world,
      (Run.ask .begin w).effects ++ ((body (Run.ask .begin w).world).effects ++ c.effects)⟩ := by
  intro c
  unfold transaction
  rw [Run.bind_of_ok begun]
  simp only [Run.bind_apply,Run.attempt,returned,Run.state,real,Bool.false_eq_true,if_false,c,
    List.nil_append]
  cases (Run.ask .commit (body (Run.ask .begin w).world).world).result <;> simp [Except.map]

end Transaction

end Migration

end RoomTransfer
