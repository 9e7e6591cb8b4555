import Mathlib.Algebra.BigOperators.Group.List.Defs
import Mathlib.Algebra.GroupWithZero.Nat
import Mathlib.Algebra.Ring.Int.Defs
import RoomTransfer.Proofs.Conversion
import RoomTransfer.Proofs.TransactionSafety

/-! What is counted. A quantity of a run is held by its counters and its databases and shown with
the progress of its steps. A part that returns adds an amount that its result tells, and amounts of
parts in sequence add up. What a step takes on with its query is settled batch by batch. -/
namespace RoomTransfer

open Store Run

/-- The rows that an item tells the progress of. -/
def Store.Item.progress : Item → Nat
  | .progressUpdate rows => rows
  | _ => 0

def Store.progress (trace : List Item) : Nat := (trace.map Item.progress).sum

@[simp] theorem Store.progress_append (first second : List Item) :
    Store.progress (first ++ second) = Store.progress first + Store.progress second := by
  simp [Store.progress]

theorem Store.progress_absent {trace : List Item} (absent : ∀ item ∈ trace, item.progress = 0) :
    Store.progress trace = 0 := by
  induction trace with
  | nil => rfl
  | cons item rest ih =>
    have later := ih fun other member => absent other (List.mem_cons_of_mem item member)
    simp only [Store.progress,List.map_cons,List.sum_cons] at later ⊢
    rw [absent item (by simp),later]

/-- What counters are worth together, at a rate for each of them. -/
def Counters.worth (counters : Counters) (rate : Counter → Int) : Int :=
  (Counter.all.map fun key => rate key * counters key).sum

theorem Counters.worth_add (counters : Counters) (rate : Counter → Int) (key : Counter) (n : Nat) :
    (counters.add key n).worth rate = counters.worth rate + rate key * n := by
  cases key <;> simp [worth,Counter.all,add,Int.mul_add] <;> omega

def Counter.alone (key : Counter) : Counter → Int := fun k => if k = key then 1 else 0

@[simp] theorem Counters.worth_alone (counters : Counters) (key : Counter) :
    counters.worth key.alone = counters key := by
  cases key <;> simp [worth,Counter.alone,Counter.all]

@[simp] theorem Counters.worth_neg (counters : Counters) (rate : Counter → Int) :
    (counters.worth fun key => - rate key) = - counters.worth rate := by
  simp only [worth,Counter.all,List.map_cons,List.map_nil,List.sum_cons,List.sum_nil,Int.neg_mul]
  omega

@[simp] theorem Counters.worth_zero (rate : Counter → Int) : zero.worth rate = 0 := by
  simp [worth,Counter.all]

/-- What counts are worth together, at a rate for every counter. -/
def tallied (rate : Counter → Int) (counts : List (Counter × Int)) : Int :=
  (counts.map fun count => rate count.1 * count.2).sum

theorem tallied_neg (rate : Counter → Int) (counts : List (Counter × Int)) :
    tallied (fun key => - rate key) counts = - tallied rate counts := by
  induction counts with
  | nil => rfl
  | cons count rest ih =>
    simp only [tallied,List.map_cons,List.sum_cons,Int.neg_mul] at ih ⊢
    omega

/-- What every counter is worth, what the databases hold, and what a row of progress is worth. -/
structure Quantity (σ : Type) where
  rate : Counter → Int
  stored : σ → Int := fun _ => 0
  shown : Int := 0

namespace Quantity

variable {σ : Type}

/-- A quantity that the databases hold nothing of. -/
def ofRate (rate : Counter → Int) (shown : Int) : Quantity σ := { rate, shown }

def held (q : Quantity σ) (w : World σ) : Int := w.state.counters.worth q.rate + q.stored w.stores

def seen (q : Quantity σ) (effects : List Effect) : Int := q.shown * Store.progress (traceOf effects)

@[simp] theorem seen_append (q : Quantity σ) (first second : List Effect) :
    q.seen (first ++ second) = q.seen first + q.seen second := by
  simp [seen,Int.mul_add]

/-- The conduct that leaves a quantity as it is and shows nothing of any. -/
def still (q : Quantity σ) : Conduct σ := .keeping q.held fun
  | .item item => item.progress = 0
  | .log _ => True

end Quantity

/-- Where `x` returns, it adds to the quantity the amount of its result. -/
def Run.Adds {σ α : Type} (q : Quantity σ) (amount : α → Int) (x : Run σ α) : Prop :=
  ∀ w a, (x w).result = .ok a → q.held (x w).world + q.seen (x w).effects = q.held w + amount a

section Adds

variable {σ α β : Type} {q : Quantity σ} {amount : α → Int} {x : Run σ α}

theorem Run.Follows.adds (follows : x.Follows q.still) : x.Adds q fun _ => 0 := by
  intro w a _
  have unseen : Store.progress (traceOf (x w).effects) = 0 :=
    Store.progress_absent fun item member => follows.effects w _ (mem_traceOf.mp member)
  have kept : q.held (x w).world = q.held w := follows.world w
  simp [Quantity.seen,unseen,kept]

theorem Run.adds_pure {a : α} (none : amount a = 0) : (pure a : Run σ α).Adds q amount := by
  rintro w _ ⟨⟩
  simp [none,Quantity.seen,traceOf,Store.progress]

theorem Run.Adds.of_eq {other : α → Int} (adds : x.Adds q amount)
    (same : ∀ a, amount a = other a) : x.Adds q other :=
  fun w a returned => by rw [← same]; exact adds w a returned

/-- What comes next is told which results the first part can have. -/
theorem Run.Adds.bind {f : α → Run σ β} {total : β → Int} (first : x.Adds q amount)
    (rest : ∀ a, (∃ w, (x w).result = .ok a) → (f a).Adds q fun b => total b - amount a) :
    (x >>= f).Adds q total := by
  intro w b returned
  obtain ⟨a,head,later⟩ := bind_result_ok.mp returned
  rw [bind_of_ok head]
  have one := first w a head
  have two := rest a ⟨w,head⟩ (x w).world b later
  simp only [Quantity.seen_append] at two ⊢
  omega

/-- A part that counts nothing leaves the amount to what comes next. -/
theorem Run.Follows.adds_bind {f : α → Run σ β} {total : β → Int}
    (follows : x.Follows q.still) (rest : ∀ a, (f a).Adds q total) : (x >>= f).Adds q total :=
  follows.adds.bind fun a _ => (rest a).of_eq fun _ => (Int.sub_zero _).symm

theorem Run.Adds.mapFailure (adds : x.Adds q amount) (f : Failure → Failure) :
    (mapFailure f x).Adds q amount := by
  intro w a returned
  rw [mapFailure_apply] at returned ⊢
  refine adds w a ?_
  cases result : (x w).result with
  | error failure => simp [result] at returned
  | ok b => simpa [result] using returned

theorem Run.Adds.ensuring {cleanup : Run σ Unit} (body : x.Adds q amount)
    (after : cleanup.Follows q.still) : (ensuring x cleanup).Adds q amount := by
  intro w a returned
  rw [ensuring_apply] at returned ⊢
  obtain ⟨b,cleaned,result⟩ : ∃ b, (cleanup (x w).world).result = .ok b ∧ (x w).result = .ok a := by
    cases cleaned : (cleanup (x w).world).result with
    | error failure =>
      rw [cleaned] at returned
      cases returned
    | ok b =>
      rw [cleaned] at returned
      exact ⟨b,rfl,returned⟩
  have one := body w a result
  have two := after.adds (x w).world b cleaned
  simp only [Quantity.seen_append] at two ⊢
  omega

theorem Run.ofExcept_returned {result : Except Failure α} {w : World σ} {a : α}
    (returned : (Run.ofExcept result w).result = .ok a) : result = .ok a := by
  cases result with
  | error failure => cases returned
  | ok b => exact returned

theorem Run.record_adds (key : Counter) (count : Int) :
    (record key count : Run σ Unit).Adds q fun _ => q.rate key * count := by
  intro w _ returned
  by_cases negative : count < 0
  · simp [record,bind_apply,state,RunState.record,negative,fail] at returned
  · have nonneg : (count.toNat : Int) = count := Int.toNat_of_nonneg (by omega)
    simp only [record,bind_apply,state,RunState.record,negative,if_false,modifyState,Quantity.held,
      Counters.worth_add,nonneg]
    simp [Quantity.seen,traceOf,Store.progress]
    omega

theorem Step.recordAll_adds (counts : List (Counter × Int)) :
    (recordAll counts : Run σ Unit).Adds q fun _ => tallied q.rate counts := by
  induction counts with
  | nil => exact Run.adds_pure rfl
  | cons count rest ih =>
    refine (Run.record_adds count.1 count.2).bind fun _ _ => ih.of_eq fun _ => ?_
    simp only [tallied,List.map_cons,List.sum_cons]
    omega

theorem Run.update_adds (rows : Nat) :
    (note (.progressUpdate rows) : Run σ Unit).Adds q fun _ => q.shown * rows := by
  intro w _ _
  simp [note,effect,Quantity.seen,traceOf,Store.progress,Item.progress]

/-- A request adds what the databases come to hold by its reply. -/
theorem Run.ask_adds [Database σ] {request : Request} {amount : Reply → Int}
    (grows : ∀ s reply, (Database.answer request s).1 = .ok reply →
      q.stored (Database.answer request s).2 = q.stored s + amount reply) :
    (ask request).Adds q amount := by
  intro w reply returned
  have world := ask_world request w
  rcases ask_trace request w with ⟨_,replied,trace⟩ | ⟨_,_,failed,_⟩
  · have answered := ask_answered returned
    have unseen : q.seen (ask request w).effects = 0 := by
      simp [Quantity.seen,trace,Store.progress,Item.progress]
    rw [world,unseen]
    simp only [Quantity.held,grows w.stores reply answered]
    omega
  · rw [failed] at returned
    cases returned

end Adds

/-- A row for which a step writes nothing. -/
def Step.drops (step : Step) (row : Row) : Bool :=
  match step.convert row with
  | .ok none => true
  | _ => false

/-- What the databases come to hold of a quantity through a step: a toll for its query and a charge
for each row that is served, and an entry for each insert, by the rows passed and counted. -/
structure Step.Charges {σ : Type} [Database σ] (step : Step) (q : Quantity σ) (toll : Int)
    (charge : Row → Int) (entry : Nat → Nat → Int) : Prop where
  query : ∀ s reply,
    (Database.answer (.execute .legacy step.cursor step.query step.parameters) s).1 = .ok reply →
      q.stored (Database.answer (.execute .legacy step.cursor step.query step.parameters) s).2 =
        q.stored s + (toll + (reply.rows.map charge).sum)
  fetch : ∀ size served s,
    q.stored (Database.answer (.fetch step.cursor size served) s).2 = q.stored s
  insert : ∀ rows s reply, (Database.answer (.insert step.insert.sql rows) s).1 = .ok reply →
    q.stored (Database.answer (.insert step.insert.sql rows) s).2 =
      q.stored s + entry rows.length (Insert.written rows.length reply.count)
  free : entry 0 0 = 0

/-- With every batch that it transfers a step settles the charges for it, up to a share for each
row that it writes. -/
structure Step.Settles {σ : Type} [Database σ] (step : Step) (q : Quantity σ) (toll share : Int)
    (charge : Row → Int) (entry : Nat → Nat → Int) : Prop
    extends step.Charges q toll charge entry where
  batch : ∀ (batch : List Row) (kept written : Nat), kept + batch.countP step.drops = batch.length →
    tallied q.rate (step.tally batch.length written) +
      q.rate .eventsDropped * (batch.countP step.drops : Nat) + entry kept written +
        q.shown * batch.length + (batch.map charge).sum = share * written

section Steps

variable {σ : Type} {q : Quantity σ} {step : Step} {toll share : Int} {charge : Row → Int}
  {entry : Nat → Nat → Int}

theorem Step.prepare_length {batch : List Row} {rows : List Parameters} {w : World σ}
    (prepared : (step.prepare batch w).result = .ok rows) :
    rows.length + batch.countP step.drops = batch.length := by
  induction batch generalizing rows w with
  | nil =>
    cases prepared
    rfl
  | cons row rest ih =>
    obtain ⟨found,converted,later⟩ := bind_result_ok.mp prepared
    have converted := Run.ofExcept_returned converted
    cases found with
    | some parameters =>
      obtain ⟨others,made,whole⟩ := bind_result_ok.mp later
      cases whole
      have kept : step.drops row = false := by simp [drops,converted]
      have length := ih made
      simp only [List.length_cons,List.countP_cons,kept]
      simp
      omega
    | none =>
      obtain ⟨_,_,made⟩ := bind_result_ok.mp later
      have dropped : step.drops row = true := by simp [drops,converted]
      have length := ih made
      simp only [List.length_cons,List.countP_cons,dropped]
      simp
      omega

theorem Step.prepare_adds (step : Step) (batch : List Row) :
    (step.prepare batch : Run σ (List Parameters)).Adds q fun _ =>
      q.rate .eventsDropped * (batch.countP step.drops : Nat) := by
  induction batch with
  | nil => exact Run.adds_pure (by simp)
  | cons row rest ih =>
    refine (follows_ofExcept _).adds.bind fun found returned => ?_
    obtain ⟨w,returned⟩ := returned
    have converted := Run.ofExcept_returned returned
    cases found with
    | some parameters =>
      have kept : step.drops row = false := by simp [drops,converted]
      refine ih.bind fun others _ => Run.adds_pure ?_
      simp [kept]
    | none =>
      have dropped : step.drops row = true := by simp [drops,converted]
      have counted : (step.drop row : Run σ Unit).Adds q fun _ => q.rate .eventsDropped * 1 :=
        (follows_log trivial).adds_bind fun _ => Run.record_adds _ _
      refine counted.bind fun _ _ => ih.of_eq fun _ => ?_
      simp [dropped,Int.mul_add]

variable [Database σ]

theorem Step.write_adds (charges : step.Charges q toll charge entry) (rows : List Parameters) :
    (step.insert.write rows : Run σ Nat).Adds q fun written => entry rows.length written := by
  cases rows with
  | nil => exact Run.adds_pure charges.free
  | cons row rest =>
    have asked := (Run.ask_adds (charges.insert (row :: rest))).mapFailure
      (fun failure => if failure.isDatabase then
        .batchRefused (row :: rest).length step.insert.table failure.message else failure)
    exact asked.bind fun reply _ => Run.adds_pure (Int.sub_self _)

theorem Step.transfer_adds (settles : step.Settles q toll share charge entry) (written : Nat)
    (batch : List Row) : (step.transfer written batch : Run σ Nat).Adds q
      fun total : Nat => share * total - share * written - (batch.map charge).sum := by
  refine (Step.prepare_adds step batch).bind fun rows prepared => ?_
  obtain ⟨w,prepared⟩ := prepared
  refine (Step.write_adds settles.toCharges rows).bind fun count _ =>
    (Step.recordAll_adds _).bind fun _ _ => (Run.update_adds _).bind fun _ _ => Run.adds_pure ?_
  have settled := settles.batch batch rows.length count (Step.prepare_length prepared)
  rw [Int.natCast_add,Int.mul_add]
  omega

theorem Step.serve_still (charges : step.Charges q toll charge entry) (options : Options)
    (rows : Nat) : (Link.serve (step.reading options) rows : Run σ Unit).Follows q.still := by
  refine (follows_askRows rfl (fun _ => rfl) fun w => ?_).mapFailure _
  exact congrArg (w.state.counters.worth q.rate + ·) (charges.fetch _ _ _)

theorem Step.consume_adds (settles : step.Settles q toll share charge entry) (options : Options)
    (written : Nat) (batches : List (List Row)) :
    (Link.consume (step.reading options) step.transfer written batches : Run σ Nat).Adds q
      fun total : Nat => share * total - share * written - (batches.flatten.map charge).sum := by
  induction batches generalizing written with
  | nil =>
    exact (Step.serve_still settles.toCharges options 0).adds_bind fun _ => Run.adds_pure (by simp)
  | cons batch rest ih =>
    refine (Step.serve_still settles.toCharges options batch.length).adds_bind fun _ => ?_
    refine (Step.transfer_adds settles written batch).bind fun next _ => ?_
    refine (ih next).of_eq fun _ => ?_
    simp only [List.flatten_cons,List.map_append,List.sum_append]
    omega

/-- A step that settles adds its toll, and its share for each row that it says it wrote. -/
theorem Step.run_adds (settles : step.Settles q toll share charge entry) (options : Options) :
    (step.run options : Run σ Nat).Adds q fun written : Nat => toll + share * written := by
  have opened : (Link.openCursor step.cursor : Run σ Unit).Follows q.still :=
    Link.connection_follows.bind fun _ => follows_note rfl
  have asked := (Run.ask_adds settles.query).mapFailure Link.fetchFailure
  have fetched : (Link.fetch (step.reading options) step.transfer 0 : Run σ Nat).Adds q
      fun written : Nat => toll + share * written := by
    refine opened.adds_bind fun _ => asked.bind fun reply _ => ?_
    refine (Step.consume_adds settles options 0 _).of_eq fun written => ?_
    rw [Step.reading,batches_flatten options.batchSize_pos]
    have none : share * ((0 : Nat) : Int) = 0 := Int.mul_zero share
    rw [none]
    omega
  have closed : (note .progressClose : Run σ Unit).Follows q.still := follows_note rfl
  exact (follows_note rfl).adds_bind fun _ => (fetched.ensuring closed).bind fun written _ =>
    follows_state.adds_bind fun s => (follows_log trivial).adds_bind fun _ =>
      Run.adds_pure (Int.sub_self _)

def Quantity.FreeWatermark (q : Quantity σ) : Prop :=
  ∀ s, q.stored (Database.answer (.execute .target "" watermarkQuery .null) s).2 = q.stored s

theorem transferEvents_adds (free : q.FreeWatermark) (options : Options)
    (settles : ∀ watermark, (Step.events options watermark).Settles q toll share charge entry) :
    (transferEvents options : Run σ Nat).Adds q fun written : Nat => toll + share * written := by
  have asked : (ask (.execute .target "" watermarkQuery .null) : Run σ _).Follows q.still :=
    follows_ask rfl (fun _ => rfl) fun w => congrArg (w.state.counters.worth q.rate + ·) (free w.stores)
  have read : (readWatermark : Run σ Value).Follows q.still :=
    asked.bind fun _ => follows_ofExcept _
  exact read.adds_bind fun watermark => (follows_modifyState fun _ => rfl).adds_bind fun _ =>
    (follows_ofExcept _).adds_bind fun _ => (follows_log trivial).adds_bind fun _ =>
      Step.run_adds (settles watermark) options

/-- The steps of a transfer; only that of the events depends on what the run finds. -/
inductive Step.Of (options : Options) : Step → Prop
  | rooms : Of options (.rooms options)
  | adjustments : Of options .adjustments
  | events (watermark : Value) : Of options (.events options watermark)

/-- A quantity that nothing is shown of, and that every step of a transfer settles. Tolls, shares
and charges go by the cursor of a step, entries by its statement. -/
structure Quantity.Settled (q : Quantity σ) (options : Options) (toll share : String → Int)
    (charge : String → Row → Int) (entry : String → Nat → Nat → Int) : Prop where
  hidden : q.shown = 0
  free : q.FreeWatermark
  steps : ∀ step, Step.Of options step → step.Settles q (toll step.cursor) (share step.cursor)
    (charge step.cursor) (entry step.insert.sql)

/-- What the databases hold nothing of settles with what is booked and shown. -/
theorem Step.settles_ofRate {rate : Counter → Int} {shown : Int}
    (unworthy : rate .eventsDropped = 0) (batch : ∀ read written : Nat,
      tallied rate (step.tally read written) + shown * read = share * written) :
    step.Settles (.ofRate rate shown : Quantity σ) 0 share (fun _ => 0) fun _ _ => 0 := by
  constructor
  · constructor
    · intro s reply _
      simp only [Quantity.ofRate,List.sum_map_zero,Int.add_zero]
    · intro size served s
      rfl
    · intro rows s reply _
      rfl
    · rfl
  · intro rows kept written _
    have even := batch rows.length written
    simp only [Quantity.ofRate,unworthy,List.sum_map_zero]
    omega

section Whole

variable {options : Options} {w : World σ} {k n m : Nat} {toll share : String → Int}
  {charge : String → Row → Int} {entry : String → Nat → Nat → Int}

theorem Migration.steps_adds (settled : q.Settled options toll share charge entry)
    (rooms : (transferRooms options w).result = .ok k)
    (adjustments : (transferAdjustments options (transferRooms options w).world).result = .ok n)
    (events : (transferEvents options (transferAdjustments options
      (transferRooms options w).world).world).result = .ok m) :
    q.held (steps options w).world = q.held w + (toll "legacy_rooms" + share "legacy_rooms" * k) +
      (toll "legacy_streams" + share "legacy_streams" * n) +
        (toll "legacy_events" + share "legacy_events" * m) := by
  have unseen (effects : List Effect) : q.seen effects = 0 := by
    simp [Quantity.seen,settled.hidden]
  have first := Step.run_adds (settled.steps _ .rooms) options w k rooms
  have second := Step.run_adds (settled.steps _ .adjustments) options _ n adjustments
  have known (watermark : Value) : (Step.events options watermark).Settles q (toll "legacy_events")
      (share "legacy_events") (charge "legacy_events")
      (entry (Step.eventInsert options.watermarkMode).sql) := settled.steps _ (.events watermark)
  have third := transferEvents_adds settled.free options known _ m events
  rw [unseen,Int.add_zero] at first second third
  rw [StepsReturn.world ⟨⟨k,rooms⟩,⟨n,adjustments⟩,⟨m,events⟩⟩,third]
  change q.held (Step.adjustments.run options (transferRooms options w).world).world + _ = _
  rw [second]
  change q.held ((Step.rooms options).run options w).world + _ + _ = _
  rw [first]
  rfl

theorem Quantity.settled_ofRate {rate : Counter → Int} (unworthy : rate .eventsDropped = 0)
    (shares : ∀ step, Step.Of options step → ∀ read written : Nat,
      tallied rate (step.tally read written) = share step.cursor * written) :
    (.ofRate rate 0 : Quantity σ).Settled options (fun _ => 0) share (fun _ _ => 0)
      fun _ _ _ => 0 := by
  refine ⟨rfl,fun _ => rfl,fun step known => Step.settles_ofRate unworthy fun read written => ?_⟩
  rw [shares step known read written]
  simp

/-- After the steps the counters tell how many adjustments and events were inserted. -/
theorem Migration.steps_counted (rooms : (transferRooms options w).result = .ok k)
    (adjustments : (transferAdjustments options (transferRooms options w).world).result = .ok n)
    (events : (transferEvents options (transferAdjustments options
      (transferRooms options w).world).world).result = .ok m) :
    let counters := (steps options w).world.state.counters
    counters .adjustmentsInserted = w.state.counters .adjustmentsInserted + n ∧
      counters .eventsInserted = w.state.counters .eventsInserted + m := by
  have inserted : (Quantity.ofRate Counter.adjustmentsInserted.alone 0 : Quantity σ).Settled options
      _ (fun cursor => if cursor = "legacy_streams" then 1 else 0) _ _ :=
    Quantity.settled_ofRate rfl fun step known read written => by
      cases known <;> simp [tallied,Counter.alone,Step.rooms,Step.adjustments,Step.events]
  have synced : (Quantity.ofRate Counter.eventsInserted.alone 0 : Quantity σ).Settled options
      _ (fun cursor => if cursor = "legacy_events" then 1 else 0) _ _ :=
    Quantity.settled_ofRate rfl fun step known read written => by
      cases known <;> simp [tallied,Counter.alone,Step.rooms,Step.adjustments,Step.events]
  have one := steps_adds inserted rooms adjustments events
  have two := steps_adds synced rooms adjustments events
  simp only [Quantity.held,Quantity.ofRate,Counters.worth_alone] at one two
  constructor
  · simpa using one
  · simpa using two

end Whole

end Steps

end RoomTransfer
