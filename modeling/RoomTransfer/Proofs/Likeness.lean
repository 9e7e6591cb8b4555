import RoomTransfer.Proofs.Completion
import RoomTransfer.Proofs.Watched

/-! Worlds seen as other worlds. Where the databases behind two worlds give the same answers and
the states differ at most in the dry-run flag and in the claim of a commit, a run goes alike in
both: it ends in the same way, with the same trace. Only its records may tell the flag. -/
namespace RoomTransfer

open Store

/-- Databases seen as others that answer alike, and what becomes of the dry-run flag and of the flag
for a commit, which a run that is not dry claims. -/
structure Likeness (σ τ : Type) [Database σ] [Database τ] where
  stores : σ → τ
  flag : Bool → Bool
  claim : Bool → Bool
  unclaimed : claim false = false
  claimed : ∀ dryRun, claim (!dryRun) = !flag dryRun
  answers : ∀ request s, Database.answer request (stores s) =
    ((Database.answer request s).1,stores (Database.answer request s).2)

namespace Likeness

variable {σ τ : Type} [Database σ] [Database τ]

def state (l : Likeness σ τ) (s : RunState) : RunState :=
  { s with dryRun := l.flag s.dryRun, committed := l.claim s.committed }

def world (l : Likeness σ τ) (w : World σ) : World τ :=
  { stores := l.stores w.stores, state := l.state w.state, clock := w.clock, linkOpen := w.linkOpen }

/-- Watched databases seen without their record. -/
def unwatched : Likeness (Watched σ) σ := ⟨Watched.stores,id,id,rfl,fun _ => rfl,fun _ _ => rfl⟩

/-- The same databases in a dry run. -/
def dry : Likeness σ σ :=
  ⟨id,fun _ => true,fun _ => false,rfl,fun _ => rfl,fun _ _ => rfl⟩

/-- Where the dry-run flag is seen as it is, so is the whole state. -/
theorem state_eq {l : Likeness σ τ} (flag : ∀ dryRun, l.flag dryRun = dryRun)
    (s : RunState) : l.state s = s := by
  have claim : l.claim s.committed = s.committed := by
    have same := l.claimed (!s.committed)
    rwa [flag,Bool.not_not] at same
  simp [state,flag,claim]

end Likeness

/-- What came of one run is what came of another, seen so. -/
structure Outcome.Like {σ τ α : Type} [Database σ] [Database τ] (l : Likeness σ τ)
    (o : Outcome σ α) (p : Outcome τ α) : Prop where
  result : p.result = o.result
  world : p.world = l.world o.world
  trace : traceOf p.effects = traceOf o.effects

namespace Run

variable {σ τ α β : Type} [Database σ] [Database τ] {l : Likeness σ τ} {w : World σ}

/-- One run goes as the other does, from wherever it starts. -/
def Alike (l : Likeness σ τ) (x : Run σ α) (y : Run τ α) : Prop :=
  ∀ w, (x w).Like l (y (l.world w))

theorem alike_pure (a : α) : (pure a : Run σ α).Alike l (pure a) := fun _ => ⟨rfl,rfl,rfl⟩

theorem alike_fail (failure : Failure) : (fail failure : Run σ α).Alike l (fail failure) :=
  fun _ => ⟨rfl,rfl,rfl⟩

theorem alike_ofExcept (result : Except Failure α) :
    (ofExcept result : Run σ α).Alike l (ofExcept result) := by
  cases result with
  | ok a => exact alike_pure a
  | error failure => exact alike_fail failure

theorem alike_note (item : Item) : (note item : Run σ Unit).Alike l (note item) :=
  fun _ => ⟨rfl,rfl,rfl⟩

/-- Records are not compared. -/
theorem alike_log (first second : Log.Record) : (log first : Run σ Unit).Alike l (log second) :=
  fun _ => ⟨rfl,rfl,rfl⟩

/-- What comes next has to go alike only from where the first part leads. -/
theorem like_bind {x : Run σ α} {y : Run τ α} {f : α → Run σ β} {g : α → Run τ β} {v : World τ}
    (first : (x w).Like l (y v))
    (rest : ∀ a, (x w).result = .ok a → (f a (x w).world).Like l (g a (l.world (x w).world))) :
    ((x >>= f) w).Like l ((y >>= g) v) := by
  rw [bind_apply,bind_apply,first.result,first.world]
  cases left : (x w).result with
  | error failure => exact ⟨rfl,rfl,first.trace⟩
  | ok a =>
    have later := rest a left
    refine ⟨later.result,later.world,?_⟩
    simp only [traceOf_append]
    rw [first.trace,later.trace]

theorem Alike.bind {x : Run σ α} {y : Run τ α} {f : α → Run σ β} {g : α → Run τ β}
    (first : x.Alike l y) (rest : ∀ a, (f a).Alike l (g a)) : (x >>= f).Alike l (y >>= g) :=
  fun w => like_bind (first w) fun a _ => rest a _

theorem like_attempt {x : Run σ α} {y : Run τ α} {v : World τ} (body : (x w).Like l (y v)) :
    (attempt x w).Like l (attempt y v) :=
  ⟨congrArg Except.ok body.result,body.world,body.trace⟩

theorem like_ensuring {x : Run σ α} {y : Run τ α} {v : World τ} {cleanup : Run σ Unit}
    {cleanup' : Run τ Unit} (body : (x w).Like l (y v)) (after : cleanup.Alike l cleanup') :
    (ensuring x cleanup w).Like l (ensuring y cleanup' v) :=
  like_bind (like_attempt body) fun result _ => after.bind (fun _ => alike_ofExcept result) _

theorem Alike.ensuring {x : Run σ α} {y : Run τ α} {cleanup : Run σ Unit}
    {cleanup' : Run τ Unit} (body : x.Alike l y) (after : cleanup.Alike l cleanup') :
    (ensuring x cleanup).Alike l (ensuring y cleanup') := fun w => like_ensuring (body w) after

theorem Alike.mapFailure {x : Run σ α} {y : Run τ α} (f : Failure → Failure)
    (body : x.Alike l y) : (mapFailure f x).Alike l (mapFailure f y) := by
  intro w
  refine like_bind (like_attempt (body w)) fun result _ => ?_
  cases result with
  | ok a => exact alike_pure a _
  | error failure => exact alike_fail (f failure) _

theorem Alike.classify {x : Run σ α} {y : Run τ α} (f : String → Failure)
    (body : x.Alike l y) : (classify f x).Alike l (classify f y) := body.mapFailure _

/-- The two runs see states that differ in the flags. -/
theorem alike_state_bind {f : RunState → Run σ α} {g : RunState → Run τ α}
    (rest : ∀ s, (f s).Alike l (g (l.state s))) : (state >>= f).Alike l (state >>= g) := by
  intro w
  obtain ⟨result,world,trace⟩ := rest w.state w
  exact ⟨result,world,trace⟩

theorem alike_world_bind {f : World σ → Run σ α} {g : World τ → Run τ α}
    (rest : ∀ w : World σ, (f w).Alike l (g (l.world w))) : (Run.world >>= f).Alike l (Run.world >>= g) := by
  intro w
  obtain ⟨result,world,trace⟩ := rest w w
  exact ⟨result,world,trace⟩

theorem alike_modifyState {f g : RunState → RunState} (same : ∀ s, g (l.state s) = l.state (f s)) :
    (modifyState f : Run σ Unit).Alike l (modifyState g) := by
  intro w
  refine ⟨rfl,?_,rfl⟩
  simp [modifyState,Likeness.world,same]

theorem alike_setLink (isOpen : Bool) : (setLink isOpen : Run σ Unit).Alike l (setLink isOpen) :=
  fun _ => ⟨rfl,rfl,rfl⟩

theorem alike_now : (now : Run σ Timestamp).Alike l now := by
  intro w
  obtain ⟨stores,state,clock,linkOpen⟩ := w
  rcases clock with _ | ⟨t,_ | ⟨u,rest⟩⟩ <;> exact ⟨rfl,rfl,rfl⟩

theorem alike_record (key : Counter) (count : Int) :
    (record key count : Run σ Unit).Alike l (record key count) := by
  refine alike_state_bind fun s => ?_
  by_cases negative : count < 0
  · simp only [RunState.record,negative,if_true]
    exact alike_fail _
  · simp only [RunState.record,negative,if_false]
    exact alike_modifyState fun _ => rfl

theorem alike_ask (request : Request) : (ask request : Run σ Reply).Alike l (ask request) := by
  intro w
  have answers : Database.answer request (l.world w).stores = _ := l.answers request w.stores
  unfold ask
  rw [answers]
  dsimp only
  cases (Database.answer request w.stores).1 <;> exact ⟨rfl,rfl,rfl⟩

theorem alike_askRows (request : Request) :
    (askRows request : Run σ Unit).Alike l (askRows request) := by
  intro w
  have answers : Database.answer request (l.world w).stores = _ := l.answers request w.stores
  unfold askRows
  rw [answers]
  dsimp only
  cases (Database.answer request w.stores).1 <;> exact ⟨rfl,rfl,rfl⟩

theorem alike_logAll (first second : List Log.Record) :
    (logAll first : Run σ Unit).Alike l (logAll second) := by
  have silent (records : List Log.Record) : traceOf (records.map Effect.log) = [] := by
    induction records with
    | nil => rfl
    | cons record rest ih => exact ih
  intro w
  rw [logAll_apply,logAll_apply]
  exact ⟨rfl,rfl,(silent second).trans (silent first).symm⟩

end Run

section Steps

variable {σ τ : Type} [Database σ] [Database τ] {l : Likeness σ τ}

open Run

theorem Step.prepare_alike (step : Step) (rows : List Row) :
    (step.prepare rows : Run σ _).Alike l (step.prepare rows) := by
  induction rows with
  | nil => exact alike_pure []
  | cons row rest ih =>
    refine (alike_ofExcept _).bind fun made => ?_
    cases made with
    | some parameters => exact ih.bind fun others => alike_pure _
    | none =>
      have dropped : (step.drop row : Run σ Unit).Alike l (step.drop row) :=
        (alike_log _ _).bind fun _ => alike_record _ _
      exact dropped.bind fun _ => ih

theorem Step.recordAll_alike (counts : List (Counter × Int)) :
    (recordAll counts : Run σ Unit).Alike l (recordAll counts) := by
  induction counts with
  | nil => exact alike_pure ()
  | cons count rest ih => exact (alike_record _ _).bind fun _ => ih

theorem Insert.write_alike (insert : Insert) (rows : List Parameters) :
    (insert.write rows : Run σ Nat).Alike l (insert.write rows) := by
  cases rows with
  | nil => exact alike_pure 0
  | cons row rest => exact ((alike_ask _).classify _).bind fun _ => alike_pure _

theorem Step.transfer_alike (step : Step) (written : Nat) (batch : List Row) :
    (step.transfer written batch : Run σ Nat).Alike l (step.transfer written batch) :=
  (step.prepare_alike batch).bind fun rows => (step.insert.write_alike rows).bind fun _ =>
    (Step.recordAll_alike _).bind fun _ => (alike_note _).bind fun _ => alike_pure _

theorem Link.consume_alike {α : Type} (q : Link.Query) {each : α → List Row → Run σ α}
    {each' : α → List Row → Run τ α} (batched : ∀ a batch, (each a batch).Alike l (each' a batch))
    (a : α) (batches : List (List Row)) :
    (Link.consume q each a batches).Alike l (Link.consume q each' a batches) := by
  have served (rows : Nat) : (Link.serve q rows : Run σ Unit).Alike l (Link.serve q rows) :=
    (alike_askRows _).mapFailure _
  induction batches generalizing a with
  | nil => exact (served 0).bind fun _ => alike_pure a
  | cons batch rest ih =>
    exact (served batch.length).bind fun _ => (batched a batch).bind fun next => ih next

theorem Step.run_alike (step : Step) (options : Options) :
    (step.run options : Run σ Nat).Alike l (step.run options) := by
  have connected : (Link.connection : Run σ Unit).Alike l Link.connection := by
    refine alike_world_bind fun w => ?_
    cases isOpen : w.linkOpen <;> simp only [Likeness.world,isOpen]
    · exact alike_fail _
    · exact alike_pure ()
  have opened : (Link.openCursor step.cursor : Run σ Unit).Alike l (Link.openCursor step.cursor) :=
    connected.bind fun _ => alike_note _
  have fetched := opened.bind fun _ => ((alike_ask (σ := σ) (τ := τ) (l := l)
    (.execute .legacy step.cursor step.query step.parameters)).mapFailure Link.fetchFailure).bind
      fun reply => Link.consume_alike
        ⟨step.query,step.parameters,options.batchSize,step.cursor⟩ step.transfer_alike 0
          (batches options.batchSize reply.rows)
  exact (alike_note _).bind fun _ => (fetched.ensuring (alike_note _)).bind fun written =>
    alike_state_bind fun _ => (alike_log _ _).bind fun _ => alike_pure written

theorem transferEvents_alike (options : Options) :
    (transferEvents options : Run σ Nat).Alike l (transferEvents options) := by
  have read : (readWatermark : Run σ Value).Alike l readWatermark :=
    (alike_ask _).bind fun _ => alike_ofExcept _
  refine read.bind fun watermark => ?_
  have kept : (modifyState fun s => { s with watermark } : Run σ Unit).Alike l
      (modifyState fun s => { s with watermark }) := alike_modifyState fun _ => rfl
  exact kept.bind fun _ => (alike_ofExcept _).bind fun _ => (alike_log _ _).bind fun _ =>
    Step.run_alike _ options

namespace Migration

/-- The steps go alike: none of them looks at the flag. -/
theorem steps_alike (options : Options) : (steps options : Run σ Unit).Alike l (steps options) := by
  have told (entity : String) {x : Run σ Nat} {y : Run τ Nat} (alike : x.Alike l y) :
      (announced entity x).Alike l (announced entity y) :=
    (alike_log _ _).bind fun _ => alike.bind fun _ => alike_pure ()
  exact (alike_note _).bind fun _ => (told _ (Step.run_alike _ options)).bind fun _ =>
    (told _ (Step.run_alike _ options)).bind fun _ => told _ (transferEvents_alike options)

theorem start_alike : (start : Run σ Unit).Alike l start := by
  refine Alike.bind (alike_modifyState fun s => ?_) fun _ => alike_now.bind fun t =>
    Alike.bind (alike_modifyState fun s => ?_) fun _ => alike_state_bind fun _ => alike_log _ _
  · simp [Likeness.state,RunState.reset,l.unclaimed]
  · rfl

theorem acquire_alike (credentials : Credentials) :
    (Link.acquire credentials : Run σ Unit).Alike l (Link.acquire credentials) := by
  refine alike_world_bind fun w => ?_
  cases isOpen : w.linkOpen <;> simp only [Likeness.world,isOpen]
  · exact (alike_log _ _).bind fun _ => ((alike_ask _).classify _).bind fun _ =>
      (alike_note _).bind fun _ => (alike_note _).bind fun _ => alike_setLink true
  · exact alike_pure ()

theorem openTarget_alike (settings : Settings) :
    (openTarget settings : Run σ Unit).Alike l (openTarget settings) :=
  ((alike_ask _).classify _).bind fun _ => alike_pure ()

theorem preparing_alike (settings : Settings) :
    (preparing settings : Run σ Unit).Alike l (preparing settings) :=
  start_alike.bind fun _ => (acquire_alike _).bind fun _ => openTarget_alike settings

theorem opening_alike (settings : Settings) :
    (opening settings : Run σ Unit).Alike l (opening settings) :=
  (Run.alike_ofExcept _).bind fun _ => (Run.alike_ofExcept _).bind fun _ =>
    (preparing_alike settings).bind fun _ => (Run.alike_ask _).bind fun _ => Run.alike_pure ()

theorem block_like (settings : Settings) (w : World σ) :
    (block settings w).Like l (block settings (l.world w)) := by
  unfold block
  rw [(opening_alike settings w).world]
  exact steps_alike settings.options _

theorem completes_alike {settings : Settings} {w : World σ} :
    Completes settings (l.world w) ↔ Completes settings w := by
  rw [completes_iff,completes_iff,(opening_alike settings w).result,(block_like settings w).result]

theorem release_alike : (Link.release : Run σ Unit).Alike l Link.release := by
  refine alike_world_bind fun w => ?_
  cases isOpen : w.linkOpen <;> simp only [Likeness.world,isOpen]
  · exact alike_pure ()
  · refine (alike_setLink false).bind fun _ =>
      Alike.bind (fun w => like_attempt (alike_ask _ w)) fun result => ?_
    cases result with
    | ok _ => exact alike_log _ _
    | error failure =>
      dsimp only
      split
      · exact alike_log _ _
      · exact alike_fail failure

theorem closeTarget_alike : (closeTarget : Run σ Unit).Alike l closeTarget :=
  (alike_ask _).bind fun _ => alike_pure ()

theorem cleanUp_alike : (cleanUp : Run σ Unit).Alike l cleanUp :=
  closeTarget_alike.ensuring release_alike

theorem settle_alike (failure : Failure) :
    (settle failure : Run σ Unit).Alike l (settle failure) := by
  have concluded (failure : Failure) :
      (conclude failure : Run σ Unit).Alike l (conclude failure) := by
    refine alike_now.bind fun t => Alike.bind (alike_modifyState fun s => ?_) fun _ =>
      alike_state_bind fun s => ?_
    · simp [Likeness.state,l.unclaimed]
    have same : (l.state s).duration = s.duration := rfl
    unfold Summary.ofFailure
    rw [same]
    cases s.duration with
    | error cause => exact (alike_fail cause).bind fun _ => alike_logAll _ _
    | ok _ => exact alike_logAll _ _
  unfold settle
  split
  · exact (concluded failure).bind fun _ => alike_fail failure
  · split
    · exact (concluded _).bind fun _ => alike_fail _
    · exact alike_fail failure

/-- Parts that are shown and fail at the same places, whatever their records. -/
theorem logParts_alike {parts parts' : List (Except Failure (List Log.Record))}
    (same : parts'.map (Except.map fun _ => ()) = parts.map (Except.map fun _ => ())) :
    (logParts parts : Run σ Unit).Alike l (logParts parts') := by
  induction parts generalizing parts' with
  | nil =>
    obtain rfl := List.map_eq_nil_iff.mp same
    exact alike_pure ()
  | cons part rest ih =>
    obtain ⟨part',rest',rfl,head,later⟩ := List.map_eq_cons_iff.mp same
    cases part <;> cases part' <;> cases head
    · exact fun _ => ⟨rfl,rfl,rfl⟩
    · exact (alike_logAll _ _).bind fun _ => ih later

theorem finish_alike : (finish : Run σ Unit).Alike l finish := by
  refine alike_now.bind fun t => Alike.bind (alike_modifyState fun s => rfl) fun _ =>
    alike_state_bind fun s => logParts_alike ?_
  have same : (l.state s).duration = s.duration := rfl
  unfold Summary.ofSuccess
  rw [same]
  cases s.duration with
  | error cause => rfl
  | ok _ => rfl

theorem ending_alike (result : Except Failure Unit) :
    (ending result : Run σ Unit).Alike l (ending result) := by
  cases result with
  | error failure => exact settle_alike failure
  | ok _ => exact finish_alike

/-- What a transaction that returned is booked as. -/
theorem claim_alike : (modifyState fun s => { s with committed := !s.dryRun } : Run σ Unit).Alike l
    (modifyState fun s => { s with committed := !s.dryRun }) :=
  alike_modifyState fun s => by simp [Likeness.state,l.claimed]

/-- Where the flag is seen as it is, whole runs go alike. -/
theorem migrate_alike (flag : ∀ dryRun, l.flag dryRun = dryRun) (settings : Settings) :
    (migrate settings : Run σ Unit).Alike l (migrate settings) := by
  have transacted : (transaction (steps settings.options) : Run σ Unit).Alike l
      (transaction (steps settings.options)) := by
    refine (alike_ask _).bind fun _ =>
      Alike.bind (fun w => like_attempt (steps_alike _ w)) fun result => ?_
    cases result with
    | error failure => exact (alike_note _).bind fun _ => alike_ofExcept _
    | ok _ =>
      refine alike_state_bind fun s => ?_
      rw [Likeness.state_eq flag]
      cases s.dryRun
      · exact (alike_ask _).bind fun _ => alike_pure ()
      · exact alike_note _
  have written : (writeAll settings : Run σ Unit).Alike l (writeAll settings) :=
    (openTarget_alike settings).bind fun _ =>
      (transacted.bind fun _ => claim_alike).ensuring closeTarget_alike
  exact (alike_ofExcept _).bind fun _ => (alike_ofExcept _).bind fun _ => start_alike.bind fun _ =>
    Alike.bind (fun w => like_attempt (((acquire_alike _).bind fun _ =>
      written.ensuring release_alike) w)) ending_alike

/-- A run over watched databases is the run over the databases themselves. -/
theorem migrate_watched (settings : Settings) (w : World σ) :
    (migrate settings (watched w)).Like .unwatched (migrate settings w) :=
  migrate_alike (fun _ => rfl) settings (watched w)

end Migration

end Steps

end RoomTransfer
