import RoomTransfer.Proofs.SmoothRun

/-! What passes between a run and any two databases, as a function of the databases alone. The
link and the dry-run flag come in as they are at the start, and every request stands in its place:
each batch is asked for after the one before it was written, and each clean-up after what it cleans
up. -/
namespace RoomTransfer

open Store

/-- Gives the failure of a database another meaning. -/
def Failure.classified (f : String → Failure) (failure : Failure) : Failure :=
  if failure.isDatabase then f failure.message else failure

namespace Traffic

variable {σ α β : Type}

def mapFailure (f : Failure → Failure) (t : Traffic σ α) : Traffic σ α :=
  { t with result := t.result.mapError f }

theorem mapFailure_ends {t : Traffic σ α} {f : Failure → Failure} {a : α} {s : σ} :
    (t.mapFailure f).Ends a s ↔ t.Ends a s := by
  obtain ⟨result,stores,writes⟩ := t
  cases result <;> simp [Ends,mapFailure]

def ensuring (t : Traffic σ α) (cleanup : σ → Traffic σ Unit) : Traffic σ α :=
  ⟨(cleanup t.stores).result.bind fun _ => t.result,(cleanup t.stores).stores,
    t.writes ++ (cleanup t.stores).writes⟩

/-- What comes next does not happen where the first part failed; what becomes of that failure is
told. -/
def catching (first : Traffic σ α) (caught : Failure → Except Failure β)
    (next : α → σ → Traffic σ β) : Traffic σ β :=
  match first.result with
  | .error failure => ⟨caught failure,first.stores,first.writes⟩
  | .ok a => ⟨(next a first.stores).result,(next a first.stores).stores,
      first.writes ++ (next a first.stores).writes⟩

theorem catching_stores (first : Traffic σ α) (caught : Failure → Except Failure β)
    (next : α → σ → Traffic σ β) : (first.catching caught next).stores = (first.bind next).stores := by
  obtain ⟨result,stores,writes⟩ := first
  cases result <;> rfl

end Traffic

section Passage

variable {σ : Type} [Database σ]

/-- One request and its answer. -/
def Store.dealing (request : Request) (s : σ) : Traffic σ Reply :=
  ⟨(Database.answer request s).1.mapError Fault.failure,(Database.answer request s).2,
    writesOf [.request request]⟩

namespace Step

/-- A batch is asked for; how many rows it has is known. -/
def draw (step : Step) (options : Options) (rows : Nat) (s : σ) : Traffic σ Reply :=
  (dealing (.fetch step.cursor options.batchSize rows) s).mapFailure Link.fetchFailure

def drain (step : Step) (options : Options) (written : Nat) : List (List Row) → σ → Traffic σ Nat
  | [],s => (step.draw options 0 s).bind fun _ => .pure written
  | batch :: rest,s => (step.draw options batch.length s).bind fun _ s =>
      (step.pourBatch batch s).bind fun count => step.drain options (written + count) rest

def passage (step : Step) (options : Options) (linkOpen : Bool) (s : σ) : Traffic σ Nat :=
  if linkOpen then
    ((dealing (.execute .legacy step.cursor step.query step.parameters) s).mapFailure
      Link.fetchFailure).bind fun reply =>
        step.drain options 0 (batches options.batchSize reply.rows)
  else .fail .linkClosed s

end Step

def eventsPassage (options : Options) (linkOpen : Bool) (s : σ) : Traffic σ Nat :=
  (dealing (.execute .target "" watermarkQuery .null) s).bind fun reply s =>
    (Traffic.ofExcept (watermarkOf reply.one) s).bind fun watermark s =>
      (Traffic.ofExcept (watermarkMessage watermark options.watermarkMode) s).bind fun _ =>
        (Step.events options watermark).passage options linkOpen

def stepsPassage (options : Options) (linkOpen : Bool) (s : σ) : Traffic σ Unit :=
  ((Step.rooms options).passage options linkOpen s).bind fun _ s =>
    (Step.adjustments.passage options linkOpen s).bind fun _ s =>
      (eventsPassage options linkOpen s).bind fun _ => .pure ()

namespace Migration

def transactionPassage (body : σ → Traffic σ Unit) (dryRun : Bool) (s : σ) : Traffic σ Unit :=
  (dealing .begin s).bind fun _ s => (body s).catching passOn fun _ s =>
    if dryRun then .pure () s else (dealing .commit s).bind fun _ => .pure ()

section Block

variable {body : σ → Traffic σ Unit} {dryRun : Bool} {s : σ}

/-- Where the body returns, what comes next is the end of the transaction. -/
theorem transactionPassage_of_returned (returned : ((dealing .begin s).bind fun _ => body).result = .ok ()) :
    transactionPassage body dryRun s = ((dealing .begin s).bind fun _ => body).bind fun _ s =>
      if dryRun then .pure () s else (dealing .commit s).bind fun _ => .pure () := by
  unfold transactionPassage
  rw [Traffic.bind_assoc]
  unfold Traffic.bind at returned ⊢
  cases begun : (dealing .begin s).result with
  | error failure => rfl
  | ok reply =>
    simp only [begun] at returned
    simp only [Traffic.catching,returned]

/-- Where it fails, the databases are as it has left them. -/
theorem transactionPassage_of_failed {failure : Failure}
    (failed : ((dealing .begin s).bind fun _ => body).result = .error failure) :
    (transactionPassage body dryRun s).stores = ((dealing .begin s).bind fun _ => body).stores := by
  unfold transactionPassage
  unfold Traffic.bind at failed ⊢
  cases begun : (dealing .begin s).result with
  | error failure => rfl
  | ok reply =>
    simp only [begun] at failed
    simp only [Traffic.catching,failed]

end Block

def acquirePassage (credentials : Credentials) (linkOpen : Bool) (s : σ) : Traffic σ Unit :=
  if linkOpen then .pure () s
  else ((dealing (.connect .legacy none (credentials.keywords ++ [namedRows])) s).mapFailure
    (Failure.classified (.legacyRefused credentials.location))).bind fun _ => .pure ()

def openPassage (settings : Settings) (s : σ) : Traffic σ Unit :=
  ((dealing (.connect .target (some settings.targetAddress)
    [("autocommit",.bool true),namedRows]) s).mapFailure
      (Failure.classified .targetRefused)).bind fun _ => .pure ()

def closePassage (s : σ) : Traffic σ Unit := (dealing (.close .target) s).bind fun _ => .pure ()

/-- Of what becomes of closing the link only what is no failure of a database matters. -/
def releasePassage (s : σ) : Traffic σ Unit :=
  ⟨match (dealing (.close .legacy) s).result with
    | .ok _ => .ok ()
    | .error failure => if failure.isDatabase then .ok () else .error failure,
    (dealing (.close .legacy) s).stores,[]⟩

/-- The session of a run: both connections, one transaction, and both closed again. -/
def sessionPassage (settings : Settings) (linkOpen dryRun : Bool) (s : σ) : Traffic σ Unit :=
  (acquirePassage settings.legacy linkOpen s).bind fun _ s =>
    ((openPassage settings s).bind fun _ s =>
      (transactionPassage (stepsPassage settings.options true) dryRun s).ensuring
        closePassage).ensuring releasePassage

end Migration

end Passage

section Parts

variable {σ α : Type} {w : World σ}

theorem Run.mapFailure_traffic (f : Failure → Failure) (x : Run σ α) :
    (mapFailure f x w).traffic = (x w).traffic.mapFailure f := by
  rw [mapFailure_apply]
  rfl

theorem Run.classify_traffic (f : String → Failure) (x : Run σ α) :
    (classify f x w).traffic = (x w).traffic.mapFailure (Failure.classified f) :=
  mapFailure_traffic _ x

theorem Run.ensuring_traffic {x : Run σ α} {cleanup : Run σ Unit} {after : σ → Traffic σ Unit}
    (cleaned : (cleanup (x w).world).traffic = after (x w).world.stores) :
    (ensuring x cleanup w).traffic = (x w).traffic.ensuring after := by
  obtain ⟨result,stores,writes⟩ := Traffic.mk.inj cleaned
  simp only [Outcome.traffic,Traffic.ensuring,ensuring_apply,traceOf_append,writesOf_append]
  rw [result,stores,writes]

theorem Run.world_bind_traffic {β : Type} {f : World σ → Run σ β} :
    ((world >>= f) w).traffic = (f w w).traffic := rfl

theorem Run.state_bind_traffic {β : Type} {f : RunState → Run σ β} :
    ((state >>= f) w).traffic = (f w.state w).traffic := rfl

theorem Run.setLink_bind_traffic {β : Type} {isOpen : Bool} {f : Unit → Run σ β} :
    ((setLink isOpen >>= f) w).traffic = (f () { w with linkOpen := isOpen }).traffic := rfl

theorem Run.attempt_bind_traffic {β : Type} {x : Run σ α} {f : Except Failure α → Run σ β} :
    let next := (f (x w).result (x w).world).traffic
    ((attempt x >>= f) w).traffic =
      ⟨next.result,next.stores,(x w).traffic.writes ++ next.writes⟩ := by
  simp [bind_apply,attempt,Outcome.traffic]

/-- A part that is tried, where what comes next makes a result of its failure and no more. -/
theorem Run.attempt_traffic {β : Type} {x : Run σ α} {f : Except Failure α → Run σ β}
    {caught : Failure → Except Failure β} (next : α → σ → Traffic σ β)
    (failed : ∀ failure, (x w).result = .error failure →
      (f (.error failure) (x w).world).traffic = .ofExcept (caught failure) (x w).world.stores)
    (rest : ∀ a, (x w).result = .ok a →
      (f (.ok a) (x w).world).traffic = next a (x w).world.stores) :
    ((attempt x >>= f) w).traffic = (x w).traffic.catching caught next := by
  rw [attempt_bind_traffic]
  cases result : (x w).result with
  | error failure =>
    simp only [failed failure result]
    simp [Outcome.traffic,Traffic.catching,Traffic.ofExcept,result]
  | ok a =>
    simp only [rest a result]
    simp [Outcome.traffic,Traffic.catching,result]

variable [Database σ]

theorem Run.ask_traffic (request : Request) :
    (ask request w).traffic = dealing request w.stores := by
  unfold ask dealing
  cases answered : (Database.answer request w.stores).1 <;>
    cases request <;> simp [answered,Outcome.traffic,traceOf,writesOf]

theorem Link.serve_traffic (step : Step) (options : Options) (rows : Nat) :
    (Link.serve ⟨step.query,step.parameters,options.batchSize,step.cursor⟩ rows w).traffic =
      (step.draw options rows w.stores).bind fun _ => .pure () := by
  unfold Link.serve Step.draw dealing
  rw [Run.mapFailure_traffic]
  unfold Run.askRows
  cases answered : (Database.answer (.fetch step.cursor options.batchSize rows) w.stores).1 <;>
    simp [answered,Outcome.traffic,Traffic.mapFailure,Traffic.bind,Traffic.pure,
      traceOf,writesOf]

theorem Link.consume_passage (step : Step) (options : Options) (batches : List (List Row))
    (written : Nat) :
    (Link.consume ⟨step.query,step.parameters,options.batchSize,step.cursor⟩ step.transfer written
      batches w).traffic = step.drain options written batches w.stores := by
  induction batches generalizing written w with
  | nil =>
    have last (v : World σ) : ((pure written : Run σ Nat) v).traffic = .pure written v.stores := rfl
    unfold Link.consume Step.drain
    rw [Run.traffic_bind (fun _ => .pure written) fun _ _ => last _,Link.serve_traffic,
      Traffic.bind_assoc]
    rfl
  | cons batch rest ih =>
    unfold Link.consume Step.drain
    rw [Run.traffic_bind (fun _ s => (step.pourBatch batch s).bind fun count =>
      step.drain options (written + count) rest),Link.serve_traffic,Traffic.bind_assoc]
    · rfl
    · intro _ _
      rw [Run.traffic_bind (fun next => step.drain options next rest) fun next _ => ih next,
        Step.transfer_traffic,Traffic.bind_assoc]
      rfl

theorem Step.run_passage (step : Step) (options : Options) :
    (step.run options w).traffic = step.passage options w.linkOpen w.stores := by
  have told (written : Nat) (v : World σ) : ((Run.state >>= fun s => Run.log (.about Log.info
      step.entity (step.closing written s.counters) [("count",.int written)]) >>= fun _ =>
        pure written : Run σ Nat) v).traffic = .pure written v.stores := rfl
  have closed (v : World σ) : (Run.note .progressClose v).traffic = .pure () v.stores := rfl
  unfold Step.run Run.note
  rw [Run.traffic_effect_bind rfl]
  refine (Run.traffic_bind .pure fun written _ => told written _).trans ?_
  rw [Traffic.bind_pure]
  refine (Run.traffic_ensuring closed).trans ?_
  unfold Link.fetch Step.passage
  cases isOpen : w.linkOpen with
  | false =>
    have refused : (Link.openCursor step.cursor w).result = .error .linkClosed := by
      simp [Link.openCursor,Link.connection,Run.bind_apply,Run.world,isOpen,Run.fail]
    rw [Run.bind_of_error refused]
    simp [Link.openCursor,Link.connection,Run.bind_apply,Run.world,isOpen,Run.fail,Outcome.traffic,
      Traffic.fail,traceOf,writesOf]
  | true =>
    have opened : (Link.openCursor step.cursor w).traffic = .pure () w.stores := by
      simp only [Link.openCursor,Link.connection,Run.bind_apply,Run.world,isOpen]
      rfl
    refine Run.traffic_bind_of_pure opened fun v same => ?_
    refine (Run.traffic_bind (fun reply : Reply => step.drain options 0
      (batches options.batchSize reply.rows)) fun reply _ =>
        Link.consume_passage step options _ 0).trans ?_
    rw [Run.mapFailure_traffic,Run.ask_traffic,same]
    rfl

theorem transferEvents_passage (options : Options) :
    (transferEvents options w).traffic = eventsPassage options w.linkOpen w.stores := by
  have read : (readWatermark w).traffic = (dealing (.execute .target "" watermarkQuery .null)
      w.stores).bind fun reply => Traffic.ofExcept (watermarkOf reply.one) := by
    rw [← Run.ask_traffic]
    exact Run.traffic_bind _ fun reply _ => Run.traffic_ofExcept _
  have kept : (readWatermark w).world.linkOpen = w.linkOpen :=
    (readWatermark_follows linked_admitsSteps.toAdmitsStep).world w
  unfold transferEvents eventsPassage
  rw [Run.traffic_bind (fun watermark s =>
    (Traffic.ofExcept (watermarkMessage watermark options.watermarkMode) s).bind fun _ =>
      (Step.events options watermark).passage options w.linkOpen),read,Traffic.bind_assoc]
  intro watermark _
  rw [Run.traffic_modifyState_bind,
    Run.traffic_bind (fun _ => (Step.events options watermark).passage options w.linkOpen),
    Run.traffic_ofExcept]
  intro message _
  unfold Run.log
  rw [Run.traffic_effect_bind rfl,Run.ofExcept_world,Step.run_passage,← kept]

theorem Step.run_linked (step : Step) (options : Options) :
    (step.run options w).world.linkOpen = w.linkOpen :=
  (step.run_follows linked_admitsSteps.toAdmitsStep options).world w

namespace Migration

theorem steps_passage (options : Options) :
    (steps options w).traffic = stepsPassage options w.linkOpen w.stores := by
  unfold steps stepsPassage Run.note
  rw [Run.traffic_effect_bind rfl,Run.traffic_bind (fun _ s =>
    (Step.adjustments.passage options w.linkOpen s).bind fun _ s =>
      (eventsPassage options w.linkOpen s).bind fun _ => .pure ()),announced_traffic,transferRooms,
    Step.run_passage,Traffic.bind_assoc]
  · rfl
  · intro _ _
    rw [announced_world,Run.traffic_bind (fun _ s =>
      (eventsPassage options w.linkOpen s).bind fun _ => .pure ()),announced_traffic,
      transferAdjustments,transferRooms,Step.run_passage,Step.run_linked,Traffic.bind_assoc]
    · rfl
    · intro _ _
      have kept : (transferAdjustments options (transferRooms options w).world).world.linkOpen =
          w.linkOpen := (Step.run_linked _ options).trans (Step.run_linked _ options)
      rw [announced_world,announced_traffic,transferEvents_passage,kept]

theorem steps_kept (options : Options) : (steps options w).world.linkOpen = w.linkOpen ∧
    (steps options w).world.state.dryRun = w.state.dryRun :=
  ⟨(steps_follows linked_admitsSteps options).world w,(steps_within options).world w⟩

theorem transaction_passage (options : Options) :
    (transaction (steps options) w).traffic =
      transactionPassage (stepsPassage options w.linkOpen) w.state.dryRun w.stores := by
  have begun : (Run.ask .begin w).world.linkOpen = w.linkOpen ∧
      (Run.ask .begin w).world.state = w.state := by
    rw [Run.ask_world]
    exact ⟨rfl,rfl⟩
  obtain ⟨link,state⟩ := begun
  have committed (u : World σ) : ((Run.ask .commit >>= fun _ => pure () : Run σ Unit) u).traffic =
      (dealing .commit u.stores).bind fun _ => .pure () := by
    rw [← Run.ask_traffic]
    exact Run.traffic_bind (fun _ => .pure ()) fun _ _ => rfl
  unfold transaction transactionPassage
  rw [Run.traffic_bind (fun _ s => (stepsPassage options w.linkOpen s).catching passOn fun _ s =>
    if w.state.dryRun then .pure () s else (dealing .commit s).bind fun _ => .pure ()),
    Run.ask_traffic]
  intro _ _
  generalize (Run.ask .begin w).world = v at link state
  have body := steps_passage (w := v) options
  obtain ⟨_,dry⟩ := steps_kept (w := v) options
  rw [link] at body
  rw [state] at dry
  rw [← body]
  refine Run.attempt_traffic (fun _ s =>
    if w.state.dryRun then .pure () s else (dealing .commit s).bind fun _ => .pure ()) ?_ ?_
  · intro failure _
    exact (Run.traffic_effect_bind rfl).trans (Run.traffic_ofExcept _)
  · intro _ _
    rw [← dry,← committed]
    refine Run.state_bind_traffic.trans ?_
    cases (steps options v).world.state.dryRun <;> rfl

section Sessions

variable {settings : Settings}

theorem acquire_passage (credentials : Credentials) :
    (Link.acquire credentials w).traffic = acquirePassage credentials w.linkOpen w.stores := by
  have set (v : World σ) : ((Run.note (.assign "isolation_level" (.text "REPEATABLE_READ")) >>=
      fun _ => Run.note (.assign "read_only" (.bool true)) >>= fun _ => Run.setLink true :
        Run σ Unit) v).traffic = .pure () v.stores := rfl
  unfold Link.acquire acquirePassage
  rw [Run.world_bind_traffic]
  cases w.linkOpen with
  | true => rfl
  | false =>
    rw [if_neg Bool.false_ne_true,if_neg Bool.false_ne_true]
    unfold Run.log
    rw [Run.traffic_effect_bind rfl]
    refine (Run.traffic_bind (fun _ => .pure ()) fun _ _ => set _).trans ?_
    rw [Run.classify_traffic,Run.ask_traffic]

theorem acquire_opens {credentials : Credentials}
    (acquired : (Link.acquire credentials w).result = .ok ()) :
    (Link.acquire credentials w).world.linkOpen = true := by
  cases isOpen : w.linkOpen with
  | true => simp [Link.acquire,Run.world,Run.bind_apply,isOpen]
  | false =>
    simp only [Link.acquire,Run.world,Run.bind_apply,isOpen,Bool.false_eq_true,if_false,
      Run.classify,Run.mapFailure_apply,Run.log,Run.effect] at acquired ⊢
    cases asked : (Run.ask (.connect .legacy none (credentials.keywords ++ [namedRows])) w).result with
    | error failure => simp [asked] at acquired
    | ok reply => simp [Run.note,Run.effect,Run.setLink]

theorem release_passage (isOpen : w.linkOpen = true) :
    (Link.release w).traffic = releasePassage w.stores := by
  have asked : (Run.ask (.close .legacy) { w with linkOpen := false }).traffic =
      dealing (.close .legacy) w.stores := Run.ask_traffic _
  have quiet : (dealing (.close .legacy) w.stores).writes = [] := rfl
  unfold Link.release releasePassage
  rw [Run.world_bind_traffic,if_pos isOpen,Run.setLink_bind_traffic,Run.attempt_bind_traffic,asked,
    quiet,← asked]
  change _ = Traffic.mk (match (Run.ask (.close .legacy) { w with linkOpen := false }).result with
    | .ok _ => .ok ()
    | .error failure => if failure.isDatabase then .ok () else .error failure) _ _
  cases (Run.ask (.close .legacy) { w with linkOpen := false }).result with
  | ok _ => rfl
  | error failure =>
    cases database : failure.isDatabase <;> simp [database] <;> exact ⟨rfl,rfl,rfl⟩

theorem openTarget_passage (settings : Settings) :
    (openTarget settings w).traffic = openPassage settings w.stores := by
  refine (Run.traffic_bind (fun _ => .pure ()) fun _ _ => rfl).trans ?_
  rw [Run.classify_traffic,Run.ask_traffic]
  rfl

theorem closeTarget_passage : (closeTarget w).traffic = closePassage w.stores := by
  refine (Run.traffic_bind (fun _ => .pure ()) fun _ _ => rfl).trans ?_
  rw [Run.ask_traffic]
  rfl

/-- The conduct that leaves the link and the dry-run flag as they are. -/
def steady : Conduct σ := .keeping (fun w => (w.linkOpen,w.state.dryRun)) fun _ => True

theorem openTarget_steady (settings : Settings) : (openTarget settings : Run σ Unit).Follows steady :=
  ((Run.follows_ask trivial (fun _ => trivial) fun _ => rfl).classify _).bind fun _ =>
    Run.follows_pure ()

theorem writing_steady (settings : Settings) : (writing settings : Run σ Unit).Follows steady :=
  (transaction_follows (steps_follows ⟨⟨fun _ _ => trivial,fun _ _ => trivial,fun _ _ => rfl,
    fun _ _ _ => rfl⟩,fun _ _ => rfl⟩ _) (fun _ => trivial) fun _ _ => rfl).bind
      fun _ => Run.follows_modifyState fun _ => rfl

theorem writeAll_steady (settings : Settings) : (writeAll settings : Run σ Unit).Follows steady := by
  have closes : (closeTarget : Run σ Unit).Follows steady :=
    (Run.follows_ask trivial (fun _ => trivial) fun _ => rfl).bind fun _ => Run.follows_pure ()
  exact (openTarget_steady settings).bind fun _ => (writing_steady settings).ensuring closes

theorem writing_passage (isOpen : w.linkOpen = true) : (writing settings w).traffic =
    transactionPassage (stepsPassage settings.options true) w.state.dryRun w.stores := by
  refine (Run.traffic_bind .pure fun _ _ => rfl).trans ?_
  rw [Traffic.bind_pure,transaction_passage,isOpen]

theorem writeAll_passage (isOpen : w.linkOpen = true) : (writeAll settings w).traffic =
    (openPassage settings w.stores).bind fun _ s =>
      (transactionPassage (stepsPassage settings.options true) w.state.dryRun s).ensuring
        closePassage := by
  obtain ⟨link,dry⟩ := Prod.mk.inj ((openTarget_steady settings).world w)
  rw [← openTarget_passage]
  refine Run.traffic_bind (fun _ s => (transactionPassage (stepsPassage settings.options true)
    w.state.dryRun s).ensuring closePassage) fun _ _ => ?_
  refine (Run.ensuring_traffic closeTarget_passage).trans ?_
  exact congrArg (Traffic.ensuring · closePassage)
    ((writing_passage (link.trans isOpen)).trans (by rw [dry]))

theorem within_passage : (Link.within settings.legacy (writeAll settings) w).traffic =
    sessionPassage settings w.linkOpen w.state.dryRun w.stores := by
  have kept : (Link.acquire settings.legacy w).world.state = w.state :=
    (Link.acquire_follows (c := .quietly id) Conduct.quietly_admitsSessions _).world w
  unfold sessionPassage
  rw [← acquire_passage]
  refine Run.traffic_bind (fun _ s => ((openPassage settings s).bind fun _ s =>
    (transactionPassage (stepsPassage settings.options true) w.state.dryRun s).ensuring
      closePassage).ensuring releasePassage) fun _ acquired => ?_
  have isOpen := acquire_opens acquired
  obtain ⟨link,_⟩ := Prod.mk.inj ((writeAll_steady settings).world
    (Link.acquire settings.legacy w).world)
  refine (Run.ensuring_traffic (release_passage (link.trans isOpen))).trans ?_
  rw [writeAll_passage isOpen,kept]

omit [Database σ] in
theorem start_kept : (start w).world.stores = w.stores ∧ (start w).world.linkOpen = w.linkOpen ∧
    (start w).world.state.dryRun = w.state.dryRun := by
  obtain ⟨stores,state,clock,linkOpen⟩ := w
  rcases clock with _ | ⟨t,_ | ⟨u,rest⟩⟩ <;> exact ⟨rfl,rfl,rfl⟩

/-- The session of a run is its passage. -/
theorem session_passage : (session settings w).traffic =
    sessionPassage settings w.linkOpen w.state.dryRun w.stores := by
  obtain ⟨stores,link,dry⟩ := start_kept (w := w)
  have started : (start w).traffic = .pure () w.stores := by
    obtain ⟨_,state,clock,_⟩ := w
    rcases clock with _ | ⟨t,_ | ⟨u,rest⟩⟩ <;> rfl
  refine (Run.traffic_bind (fun _ => sessionPassage settings w.linkOpen w.state.dryRun)
    fun _ _ => ?_).trans ?_
  · rw [within_passage,link,dry]
  · rw [started,Traffic.pure_bind]

end Sessions

end Migration

end Parts

end RoomTransfer
