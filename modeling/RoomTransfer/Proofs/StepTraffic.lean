import RoomTransfer.Proofs.Traffic

/-! The traffic of a step over databases that answer every question. It is a fold over the batches
of the rows served: a batch is converted as a whole, then written, then counted. -/
namespace RoomTransfer

open Store

/-- Requests that ask without changing anything. -/
def Store.Request.isStill : Request → Bool
  | .insert _ _ | .begin | .commit => false
  | _ => true

/-- Databases that answer whatever is asked of them, and change by inserts and transactions only.
An insert may be refused, but not by a demand to roll back. -/
structure Smooth {σ : Type} [Database σ] (P : σ → Prop) : Prop where
  still : ∀ s, P s → ∀ request : Request, request.isStill = true →
    ∃ reply, Database.answer request s = (.ok reply,s)
  insert : ∀ s, P s → ∀ sql rows, P (Database.answer (.insert sql rows) s).2
  refusal : ∀ s, P s → ∀ sql rows fault, (Database.answer (.insert sql rows) s).1 = .error fault →
    fault.failure.isRollback = false
  transaction : ∀ s, P s → ∀ request : Request, request = .begin ∨ request = .commit →
    ∃ reply s', Database.answer request s = (.ok reply,s') ∧ P s'

/-- The reply to a request that is answered. -/
def Store.replyTo {σ : Type} [Database σ] (request : Request) (s : σ) : Reply :=
  match (Database.answer request s).1 with
  | .ok reply => reply
  | .error _ => {}

/-- The parameters of rows, without those that are dropped, up to the first that fails. -/
def Step.converted (step : Step) : List Row → Except Failure (List Parameters)
  | [] => .ok []
  | row :: rest => match step.convert row with
    | .error failure => .error failure
    | .ok none => converted step rest
    | .ok (some parameters) => (converted step rest).map (parameters :: ·)

/-- Counts are booked up to the first that is negative. -/
def Step.booked : List (Counter × Int) → Except Failure Unit
  | [] => .ok ()
  | (_,count) :: rest => if count < 0 then .error (.negativeCount count) else booked rest

section Put

variable {σ : Type} [Database σ]

/-- The traffic of writing rows: none where there are no rows. -/
def Insert.put (insert : Insert) (rows : List Parameters) (s : σ) : Traffic σ Nat :=
  match rows with
  | [] => .pure 0 s
  | _ =>
    let (answer,s') := Database.answer (.insert insert.sql rows) s
    match answer with
    | .ok reply => ⟨.ok (Insert.written rows.length reply.count),s',[(insert.sql,rows)]⟩
    | .error fault => ⟨.error (if fault.failure.isDatabase
        then .batchRefused rows.length insert.table fault.failure.message else fault.failure),
        s',[(insert.sql,rows)]⟩

/-- The traffic of one batch; its result is how many rows were written. -/
def Step.pourBatch (step : Step) (batch : List Row) (s : σ) : Traffic σ Nat :=
  (Traffic.ofExcept (step.converted batch) s).bind fun rows s =>
    (step.insert.put rows s).bind fun count s =>
      (Traffic.ofExcept (Step.booked (step.tally batch.length count)) s).bind fun _ => .pure count

/-- The rows that a step finds. -/
def Step.served (step : Step) (s : σ) : List Row :=
  (replyTo (.execute .legacy step.cursor step.query step.parameters) s).rows

/-- The traffic of batches, on top of `written` rows. -/
def Step.pour (step : Step) (written : Nat) : List (List Row) → σ → Traffic σ Nat
  | [],s => .pure written s
  | batch :: rest,s => (step.pourBatch batch s).bind fun count => step.pour (written + count) rest

/-- The traffic of a step. -/
def Step.traffic (step : Step) (options : Options) (s : σ) : Traffic σ Nat :=
  step.pour 0 (batches options.batchSize (step.served s)) s

/-- The watermark that the target answers. -/
def foundWatermark (s : σ) : Except Failure Value :=
  watermarkOf (replyTo (.execute .target "" watermarkQuery .null) s).one

/-- The traffic of the events: the watermark is read and must be one that can be shown. -/
def eventsTraffic (options : Options) (s : σ) : Traffic σ Nat :=
  (Traffic.ofExcept (foundWatermark s) s).bind fun watermark s =>
    (Traffic.ofExcept (watermarkMessage watermark options.watermarkMode) s).bind fun _ s =>
      (Step.events options watermark).traffic options s

/-- The traffic of all three steps. -/
def stepsTraffic (options : Options) (s : σ) : Traffic σ Unit :=
  ((Step.rooms options).traffic options s).bind fun _ s =>
    (Step.adjustments.traffic options s).bind fun _ s =>
      (eventsTraffic options s).bind fun _ => .pure ()

end Put

section Local

variable {σ : Type} {w : World σ}

theorem Step.drop_traffic (step : Step) (row : Row) :
    (step.drop row w).traffic = .pure () w.stores := rfl

theorem Step.prepare_traffic (step : Step) (rows : List Row) :
    (step.prepare rows w).traffic = .ofExcept (step.converted rows) w.stores := by
  induction rows generalizing w with
  | nil => rfl
  | cons row rest ih =>
    unfold Step.prepare Step.converted
    cases step.convert row with
    | error failure => rfl
    | ok found =>
      cases found with
      | none =>
        change ((step.drop row >>= fun _ => step.prepare rest) w).traffic = _
        refine Run.traffic_bind_of_pure (step.drop_traffic row) fun v same => ?_
        rw [ih,same]
      | some parameters =>
        change ((step.prepare rest >>= fun others => pure (parameters :: others)) w).traffic = _
        rw [Run.traffic_bind (fun others => .pure (parameters :: others)) fun _ _ => rfl,ih]
        cases step.converted rest <;> rfl

theorem Step.recordAll_traffic (counts : List (Counter × Int)) :
    (Step.recordAll counts w).traffic = .ofExcept (Step.booked counts) w.stores := by
  induction counts generalizing w with
  | nil => rfl
  | cons count rest ih =>
    obtain ⟨key,n⟩ := count
    unfold Step.recordAll Step.booked
    rw [Run.traffic_bind (fun _ => .ofExcept (Step.booked rest)) fun _ _ => ih,Run.traffic_record]
    split <;> rfl

theorem Migration.announced_traffic (entity : String) (x : Run σ Nat) :
    (announced entity x w).traffic = (x w).traffic.bind fun _ => .pure () := by
  rw [announced_apply]
  unfold Outcome.traffic Traffic.bind
  cases (x w).result <;> simp [Except.map,Traffic.pure,traceOf]

end Local

/-- The conduct that leaves the link as it is. -/
def linked {σ : Type} : Conduct σ := .keeping (·.linkOpen) fun _ => True

theorem linked_admitsSteps {σ : Type} [Database σ] : (linked : Conduct σ).AdmitsSteps :=
  ⟨⟨fun _ _ => trivial,fun _ _ => trivial,fun _ _ => rfl,fun _ _ _ => rfl⟩,fun _ _ => rfl⟩

section Steps

variable {σ : Type} [Database σ] {P : σ → Prop} {w : World σ}

theorem Insert.write_traffic (insert : Insert) (rows : List Parameters) :
    (insert.write rows w).traffic = insert.put rows w.stores := by
  cases rows with
  | nil => rfl
  | cons row rest =>
    simp only [Insert.write,Insert.put,Run.bind_apply,Run.classify,Run.mapFailure_apply,Run.ask]
    cases (Database.answer (.insert insert.sql (row :: rest)) w.stores).1 <;> rfl

theorem Step.transfer_traffic (step : Step) (written : Nat) (batch : List Row) :
    (step.transfer written batch w).traffic =
      (step.pourBatch batch w.stores).bind fun count => .pure (written + count) := by
  have noted (count : Nat) (v : World σ) :
      ((Run.note (.progressUpdate batch.length) >>= fun _ => pure (written + count) :
        Run σ Nat) v).traffic = .pure (written + count) v.stores := rfl
  unfold Step.transfer Step.pourBatch
  rw [Run.traffic_bind (fun rows s => (step.insert.put rows s).bind fun count s =>
    (Traffic.ofExcept (Step.booked (step.tally batch.length count)) s).bind fun _ =>
      .pure (written + count)),Step.prepare_traffic]
  · simp only [Traffic.bind_assoc,Traffic.pure_bind]
  · intro rows _
    rw [Run.traffic_bind (fun count s =>
      (Traffic.ofExcept (Step.booked (step.tally batch.length count)) s).bind fun _ =>
        .pure (written + count)),Insert.write_traffic]
    intro count _
    rw [Run.traffic_bind (fun _ => .pure (written + count)) fun _ _ => noted count _,
      Step.recordAll_traffic]

theorem Run.ask_smooth (smooth : Smooth P) (holds : P w.stores) (request : Request)
    (still : request.isStill = true) : Run.ask request w =
      ⟨.ok (replyTo request w.stores),w,[.item (.request request)]⟩ := by
  obtain ⟨reply,answered⟩ := smooth.still w.stores holds request still
  unfold Run.ask replyTo
  rw [answered]

theorem Run.ask_still (smooth : Smooth P) (holds : P w.stores) (request : Request)
    (still : request.isStill = true) :
    (Run.ask request w).traffic = .pure (replyTo request w.stores) w.stores := by
  rw [Run.ask_smooth smooth holds request still]
  cases request <;> first | rfl | cases still

theorem Link.serve_still (smooth : Smooth P) (holds : P w.stores) (q : Link.Query) (rows : Nat) :
    (Link.serve q rows w).traffic = .pure () w.stores := by
  obtain ⟨reply,answered⟩ := smooth.still w.stores holds (.fetch q.cursor q.size rows) rfl
  unfold Link.serve
  rw [Run.mapFailure_apply]
  unfold Run.askRows
  rw [answered]
  rfl

theorem Insert.put_holds
    (kept : ∀ s, P s → ∀ sql rows, P (Database.answer (.insert sql rows) s).2)
    (insert : Insert) (rows : List Parameters) {s : σ} (holds : P s) :
    P (insert.put rows s).stores := by
  cases rows with
  | nil => exact holds
  | cons row rest =>
    have after := kept s holds insert.sql (row :: rest)
    unfold Insert.put
    dsimp only
    split <;> exact after

theorem Step.pourBatch_holds
    (kept : ∀ s, P s → ∀ sql rows, P (Database.answer (.insert sql rows) s).2)
    (step : Step) (batch : List Row) {s : σ} (holds : P s) : P (step.pourBatch batch s).stores :=
  Traffic.bind_holds holds fun rows _ holds =>
    Traffic.bind_holds (step.insert.put_holds kept rows holds) fun _ _ holds =>
      Traffic.bind_holds holds fun _ _ holds => holds

theorem Step.pour_holds (smooth : Smooth P) (step : Step) (batches : List (List Row))
    {written : Nat} {s : σ} (holds : P s) : P (step.pour written batches s).stores := by
  induction batches generalizing written s with
  | nil => exact holds
  | cons batch rest ih =>
    exact Traffic.bind_holds (step.pourBatch_holds smooth.insert batch holds) fun _ _ holds => ih holds

/-- Batch after batch: consuming a cursor is pouring its batches. -/
theorem Step.consume_traffic (smooth : Smooth P) (step : Step) (q : Link.Query)
    (batches : List (List Row)) (written : Nat) (holds : P w.stores) :
    (Link.consume q step.transfer written batches w).traffic =
      step.pour written batches w.stores := by
  induction batches generalizing written w with
  | nil =>
    refine Run.traffic_bind_of_pure (Link.serve_still smooth holds q 0) fun v same => ?_
    rw [← same]
    rfl
  | cons batch rest ih =>
    refine Run.traffic_bind_of_pure (Link.serve_still smooth holds q batch.length) fun v same => ?_
    have poured : (step.transfer written batch v).traffic =
        (step.pourBatch batch w.stores).bind fun count => .pure (written + count) := by
      rw [step.transfer_traffic written batch,same]
    -- The next batch is asked for from what this one has left.
    have kept : P (step.transfer written batch v).world.stores := by
      change P (step.transfer written batch v).traffic.stores
      rw [poured]
      exact Traffic.bind_holds (step.pourBatch_holds smooth.insert batch holds) fun _ _ holds => holds
    rw [Run.traffic_bind (fun next => step.pour next rest) fun next _ => ih next kept,poured,
      Traffic.bind_assoc]
    rfl

theorem eventsTraffic_holds (smooth : Smooth P) (options : Options) {s : σ} (holds : P s) :
    P (eventsTraffic options s).stores :=
  Traffic.bind_holds holds fun _ _ holds => Traffic.bind_holds holds fun _ _ holds =>
    Step.pour_holds smooth _ _ holds

theorem stepsTraffic_holds (smooth : Smooth P) (options : Options) {s : σ} (holds : P s) :
    P (stepsTraffic options s).stores :=
  Traffic.bind_holds (Step.pour_holds smooth _ _ holds) fun _ _ holds =>
    Traffic.bind_holds (Step.pour_holds smooth _ _ holds) fun _ _ holds =>
      Traffic.bind_holds (eventsTraffic_holds smooth options holds) fun _ _ holds => holds

theorem Link.fetch_traffic (smooth : Smooth P) (step : Step) (options : Options)
    (holds : P w.stores) (linked : w.linkOpen = true) :
    (Link.fetch ⟨step.query,step.parameters,options.batchSize,step.cursor⟩ step.transfer 0 w).traffic =
      step.traffic options w.stores := by
  have opened : (Link.openCursor step.cursor w).traffic = .pure () w.stores := by
    simp only [Link.openCursor,Link.connection,Run.bind_apply,Run.world,linked]
    rfl
  refine Run.traffic_bind_of_pure opened fun v same => ?_
  have holds' : P v.stores := by rw [same]; exact holds
  have executed := Run.traffic_mapFailure_of_pure Link.fetchFailure
    (Run.ask_still smooth holds' (.execute .legacy step.cursor step.query step.parameters) rfl)
  refine Run.traffic_bind_of_pure executed fun u same' => ?_
  have stores : u.stores = w.stores := same'.trans same
  rw [step.consume_traffic smooth _ _ 0 (by rw [stores]; exact holds),stores,same]
  rfl

theorem Step.run_traffic (smooth : Smooth P) (step : Step) (options : Options)
    (holds : P w.stores) (linked : w.linkOpen = true) :
    (step.run options w).traffic = step.traffic options w.stores := by
  have closed (v : World σ) : (Run.note .progressClose v).traffic = .pure () v.stores := rfl
  have told (written : Nat) (v : World σ) : ((Run.state >>= fun s => Run.log (.about Log.info
      step.entity (step.closing written s.counters) [("count",.int written)]) >>= fun _ =>
        pure written : Run σ Nat) v).traffic = .pure written v.stores := rfl
  have fetched := Link.fetch_traffic smooth step options holds linked
  rw [← Run.traffic_ensuring closed] at fetched
  unfold Step.run Run.note
  rw [Run.traffic_effect_bind rfl]
  refine (Run.traffic_bind .pure fun written _ => told written _).trans ?_
  rw [Traffic.bind_pure]
  exact fetched

theorem readWatermark_traffic (smooth : Smooth P) (holds : P w.stores) :
    (readWatermark w).traffic = .ofExcept (foundWatermark w.stores) w.stores := by
  refine Run.traffic_bind_of_pure (Run.ask_still smooth holds _ rfl) fun v same => ?_
  rw [Run.traffic_ofExcept,same]
  rfl

theorem transferEvents_traffic (smooth : Smooth P) (options : Options) (holds : P w.stores)
    (isOpen : w.linkOpen = true) :
    (transferEvents options w).traffic = eventsTraffic options w.stores := by
  have read := readWatermark_traffic smooth holds
  have stores : (readWatermark w).world.stores = w.stores := congrArg Traffic.stores read
  have kept : (readWatermark w).world.linkOpen = true :=
    ((readWatermark_follows linked_admitsSteps.toAdmitsStep).world w).trans isOpen
  unfold transferEvents eventsTraffic
  rw [Run.traffic_bind (fun watermark s =>
    (Traffic.ofExcept (watermarkMessage watermark options.watermarkMode) s).bind fun _ s =>
      (Step.events options watermark).traffic options s),read]
  intro watermark _
  rw [Run.traffic_modifyState_bind,
    Run.traffic_bind (fun _ s => (Step.events options watermark).traffic options s),
    Run.traffic_ofExcept]
  intro message _
  unfold Run.log
  rw [Run.traffic_effect_bind rfl,Run.ofExcept_world]
  exact Step.run_traffic smooth _ options (by rw [stores]; exact holds) kept

theorem Step.run_keeps (smooth : Smooth P) (step : Step) (options : Options) (holds : P w.stores)
    (isOpen : w.linkOpen = true) :
    P (step.run options w).world.stores ∧ (step.run options w).world.linkOpen = true := by
  constructor
  · change P (step.run options w).traffic.stores
    rw [step.run_traffic smooth options holds isOpen]
    exact step.pour_holds smooth _ holds
  · exact ((step.run_follows linked_admitsSteps.toAdmitsStep options).world w).trans isOpen

/-- The steps over smooth databases: rooms, adjustments and events, each seeing what the one
before it left. -/
theorem Migration.steps_traffic (smooth : Smooth P) (options : Options) (holds : P w.stores)
    (isOpen : w.linkOpen = true) :
    (steps options w).traffic = stepsTraffic options w.stores := by
  have rooms := (Step.rooms options).run_traffic smooth options holds isOpen
  obtain ⟨holds₁,open₁⟩ := (Step.rooms options).run_keeps smooth options holds isOpen
  have adjustments := Step.adjustments.run_traffic smooth options holds₁ open₁
  obtain ⟨holds₂,open₂⟩ := Step.adjustments.run_keeps smooth options holds₁ open₁
  have events := transferEvents_traffic smooth options holds₂ open₂
  unfold steps stepsTraffic Run.note
  rw [Run.traffic_effect_bind rfl,Run.traffic_bind (fun _ s =>
    (Step.adjustments.traffic options s).bind fun _ s =>
      (eventsTraffic options s).bind fun _ => .pure ()),announced_traffic,transferRooms,rooms,
    Traffic.bind_assoc]
  · rfl
  · intro _ _
    rw [announced_world,Run.traffic_bind (fun _ s => (eventsTraffic options s).bind fun _ => .pure ()),
      announced_traffic,transferAdjustments,transferRooms,adjustments,Traffic.bind_assoc]
    · rfl
    · intro _ _
      rw [announced_world,announced_traffic]
      exact congrArg (Traffic.bind · fun _ => .pure ()) events

end Steps

end RoomTransfer
