import RoomTransfer.Migration
import RoomTransfer.Proofs.Trace

/-! What a run may do: which effects it leaves behind and how its world may change. A conduct is
kept by a whole run when every part keeps it, however the parts fail; the steps of a transfer keep
every conduct that admits reading, writing and counting. -/
namespace RoomTransfer

/-- The effects that a run may leave behind, and the changes of the world that it may make. -/
structure Conduct (σ : Type) where
  allows : Effect → Prop
  moves : World σ → World σ → Prop
  refl : ∀ w, moves w w
  trans : ∀ {u v w}, moves u v → moves v w → moves u w

/-- The conduct that leaves a view of the world as it is. -/
def Conduct.keeping {σ β : Type} (view : World σ → β) (allows : Effect → Prop) : Conduct σ where
  allows
  moves u v := view v = view u
  refl _ := rfl
  trans first second := second.trans first

/-- The conduct that keeps what holds of the databases. -/
def Conduct.holding {σ : Type} (P : σ → Prop) : Conduct σ where
  allows _ := True
  moves u v := P u.stores → P v.stores
  refl _ holds := holds
  trans first second holds := second (first holds)

/-- The last that is said of a run that failed. -/
def Summary.notice : String :=
  "Nothing from this run was committed. Fix the data or configuration and run the migration again."

/-- A record that gives the notice; it is a warning or an error. -/
def Log.Record.IsNotice (record : Log.Record) : Prop :=
  Log.info < record.level ∧ record.message = Summary.notice

instance (record : Log.Record) : Decidable record.IsNotice :=
  inferInstanceAs (Decidable (_ ∧ _))

/-- The world once a request has been answered. -/
def World.after {σ : Type} [Store.Database σ] (w : World σ) (request : Store.Request) : World σ :=
  { w with stores := (Store.Database.answer request w.stores).2 }

/-- A request that opens or closes a session. -/
def Store.Request.isSession : Store.Request → Bool
  | .connect _ _ _ | .close _ => true
  | _ => false

/-- Items of a session: its requests, its settings, and failures. -/
def Store.Item.isSessionItem : Store.Item → Bool
  | .request asked => asked.isSession
  | .assign _ _ | .failed _ _ => true
  | _ => false

/-- What a step asks for from its query to its last batch. -/
def Step.Asks (step : Step) : Store.Request → Prop
  | .execute side cursor sql parameters =>
    side = .legacy ∧ cursor = step.cursor ∧ sql = step.query ∧ parameters = step.parameters
  | .fetch cursor _ _ => cursor = step.cursor
  | .insert sql _ => sql = step.insert.sql
  | _ => False

/-- The items of a step between the opening and the closing of its progress. -/
def Step.Issues (step : Step) : Store.Item → Prop
  | .request request => step.Asks request
  | .cursor side _ => side = .legacy
  | .failed _ _ | .progressUpdate _ => True
  | _ => False

/-- A conduct that admits the batches of one step. Steps log nothing above the level of notices. -/
structure Conduct.AdmitsBatches {σ : Type} [Store.Database σ] (c : Conduct σ) (step : Step) :
    Prop where
  log : ∀ record : Log.Record, record.level ≤ Log.info → c.allows (.log record)
  item : ∀ item : Store.Item, step.Issues item → c.allows (.item item)
  ask : ∀ (w : World σ) (request : Store.Request), c.moves w (w.after request)
  count : ∀ (w : World σ) key n, c.moves w
    { w with state := { w.state with counters := w.state.counters.add key n } }

/-- A conduct that admits all that one step does. Steps log nothing above the level of notices. -/
structure Conduct.AdmitsStep {σ : Type} [Store.Database σ] (c : Conduct σ) : Prop where
  log : ∀ record : Log.Record, record.level ≤ Log.info → c.allows (.log record)
  item : ∀ item : Store.Item, item.isStepItem = true → c.allows (.item item)
  ask : ∀ (w : World σ) (request : Store.Request), c.moves w (w.after request)
  count : ∀ (w : World σ) key n, c.moves w
    { w with state := { w.state with counters := w.state.counters.add key n } }

/-- A conduct that admits all three steps; the last of them sets the watermark. -/
structure Conduct.AdmitsSteps {σ : Type} [Store.Database σ] (c : Conduct σ) : Prop extends c.AdmitsStep where
  watermark : ∀ (w : World σ) watermark, c.moves w { w with state := { w.state with watermark } }

/-- A conduct that admits opening and closing the sessions of a run. -/
structure Conduct.AdmitsSessions {σ : Type} [Store.Database σ] (c : Conduct σ) : Prop where
  log : ∀ record : Log.Record, ¬ record.IsNotice → c.allows (.log record)
  item : ∀ item : Store.Item, item.isSessionItem = true → c.allows (.item item)
  ask : ∀ (w : World σ) (request : Store.Request), request.isSession = true →
    c.moves w (w.after request)
  link : ∀ (w : World σ) linkOpen, c.moves w { w with linkOpen }

/-- A conduct that admits booking the start and the end of a run. -/
structure Conduct.AdmitsBooking {σ : Type} (c : Conduct σ) : Prop where
  log : ∀ record : Log.Record, ¬ record.IsNotice → c.allows (.log record)
  clock : ∀ (w : World σ) clock, c.moves w { w with clock }
  state : ∀ (w : World σ) state, state.dryRun = w.state.dryRun → c.moves w { w with state }

namespace Conduct

variable {σ : Type} [Store.Database σ] {P : σ → Prop}

theorem holding_admitsSteps (kept : ∀ s, P s → ∀ request, P (Store.Database.answer request s).2) :
    (holding P).AdmitsSteps :=
  ⟨⟨fun _ _ => trivial,fun _ _ => trivial,fun w request holds => kept w.stores holds request,
    fun _ _ _ holds => holds⟩,fun _ _ holds => holds⟩

theorem holding_admitsSessions (kept : ∀ s, P s → ∀ request, P (Store.Database.answer request s).2) :
    (holding P).AdmitsSessions :=
  ⟨fun _ _ => trivial,fun _ _ => trivial,fun w request _ holds => kept w.stores holds request,
    fun _ _ holds => holds⟩

omit [Store.Database σ] in
theorem holding_admitsBooking (P : σ → Prop) : (holding P).AdmitsBooking :=
  ⟨fun _ _ => trivial,fun _ _ holds => holds,fun _ _ _ holds => holds⟩

end Conduct

namespace Run

variable {σ α β : Type} {c : Conduct σ}

/-- Whatever its world and however it ends, `x` keeps to the conduct. -/
def Follows (c : Conduct σ) (x : Run σ α) : Prop :=
  ∀ w, c.moves w (x w).world ∧ ∀ e ∈ (x w).effects, c.allows e

theorem Follows.world {x : Run σ α} (follows : x.Follows c) (w : World σ) :
    c.moves w (x w).world := (follows w).1

theorem Follows.effects {x : Run σ α} (follows : x.Follows c) (w : World σ) :
    ∀ e ∈ (x w).effects, c.allows e := (follows w).2

/-- A run that leaves nothing behind and its world as it is. -/
theorem follows_of_still {x : Run σ α} (still : ∀ w, (x w).world = w ∧ (x w).effects = []) :
    x.Follows c := by
  intro w
  obtain ⟨world,effects⟩ := still w
  rw [world,effects]
  exact ⟨c.refl w,by simp⟩

theorem follows_pure (a : α) : (pure a : Run σ α).Follows c :=
  follows_of_still fun _ => ⟨rfl,rfl⟩

theorem follows_fail (failure : Failure) : (fail failure : Run σ α).Follows c :=
  follows_of_still fun _ => ⟨rfl,rfl⟩

theorem follows_ofExcept (result : Except Failure α) : (ofExcept result : Run σ α).Follows c := by
  cases result with
  | ok a => exact follows_pure a
  | error failure => exact follows_fail failure

theorem follows_state : (state : Run σ RunState).Follows c :=
  follows_of_still fun _ => ⟨rfl,rfl⟩

theorem follows_world : (world : Run σ (World σ)).Follows c :=
  follows_of_still fun _ => ⟨rfl,rfl⟩

theorem Follows.bind {x : Run σ α} {f : α → Run σ β} (first : x.Follows c)
    (rest : ∀ a, (f a).Follows c) : (x >>= f).Follows c := by
  intro w
  obtain ⟨moved,allowed⟩ := first w
  rw [bind_apply]
  cases result : (x w).result with
  | error failure => exact ⟨moved,allowed⟩
  | ok a =>
    obtain ⟨next,more⟩ := rest a (x w).world
    refine ⟨c.trans moved next,?_⟩
    intro e member
    rcases List.mem_append.mp member with before | after
    · exact allowed e before
    · exact more e after

theorem Follows.attempt {x : Run σ α} (follows : x.Follows c) : (attempt x).Follows c :=
  fun w => follows w

theorem Follows.ensuring {x : Run σ α} {cleanup : Run σ Unit} (body : x.Follows c)
    (after : cleanup.Follows c) : (ensuring x cleanup).Follows c :=
  body.attempt.bind fun result => after.bind fun _ => follows_ofExcept result

theorem Follows.mapFailure {x : Run σ α} (f : Failure → Failure) (follows : x.Follows c) :
    (mapFailure f x).Follows c := by
  refine follows.attempt.bind fun result => ?_
  cases result with
  | ok a => exact follows_pure a
  | error failure => exact follows_fail (f failure)

theorem Follows.classify {x : Run σ α} (f : String → Failure) (follows : x.Follows c) :
    (classify f x).Follows c := follows.mapFailure _

theorem follows_effect {e : Effect} (allowed : c.allows e) : (effect e : Run σ Unit).Follows c :=
  fun w => ⟨c.refl w,by simpa [effect] using allowed⟩

theorem follows_note {item : Store.Item} (allowed : c.allows (.item item)) :
    (note item : Run σ Unit).Follows c := follows_effect allowed

theorem follows_log {record : Log.Record} (allowed : c.allows (.log record)) :
    (log record : Run σ Unit).Follows c := follows_effect allowed

theorem follows_logAll {records : List Log.Record}
    (allowed : ∀ record ∈ records, c.allows (.log record)) :
    (logAll records : Run σ Unit).Follows c := by
  induction records with
  | nil => exact follows_pure ()
  | cons record rest ih =>
    refine (follows_log (allowed record (by simp))).bind fun _ => ih ?_
    intro other member
    exact allowed other (List.mem_cons_of_mem record member)

/-- What follows a checked result matters only where the check succeeds. -/
theorem follows_ofExcept_bind {result : Except Failure α} {f : α → Run σ β}
    (rest : ∀ a, result = .ok a → (f a).Follows c) : (ofExcept result >>= f).Follows c := by
  cases result with
  | ok a =>
    intro w
    simpa [ofExcept,bind_apply] using rest a rfl w
  | error failure => exact fun w => ⟨c.refl w,by simp [ofExcept,fail,bind_apply]⟩

theorem follows_logParts {parts : List (Except Failure (List Log.Record))}
    (allowed : ∀ records, .ok records ∈ parts → ∀ record ∈ records, c.allows (.log record)) :
    (logParts parts : Run σ Unit).Follows c := by
  induction parts with
  | nil => exact follows_pure ()
  | cons part rest ih =>
    refine follows_ofExcept_bind fun records shown => ?_
    refine (follows_logAll (allowed records (by simp [shown]))).bind fun _ => ih ?_
    exact fun other member => allowed other (List.mem_cons_of_mem part member)

theorem follows_modifyState {f : RunState → RunState}
    (moved : ∀ w : World σ, c.moves w { w with state := f w.state }) :
    (modifyState f).Follows c := fun w => ⟨moved w,by simp [modifyState]⟩

theorem follows_setLink {isOpen : Bool}
    (moved : ∀ w : World σ, c.moves w { w with linkOpen := isOpen }) :
    (setLink isOpen).Follows c := fun w => ⟨moved w,by simp [setLink]⟩

theorem follows_now (moved : ∀ (w : World σ) (clock : List Timestamp),
    c.moves w { w with clock }) : (now : Run σ Timestamp).Follows c := by
  intro w
  unfold now
  split
  · exact ⟨c.refl w,by simp⟩
  · exact ⟨c.refl w,by simp⟩
  · exact ⟨moved w _,by simp⟩

/-- Counting changes nothing but the one counter; a count that is refused changes nothing. -/
theorem follows_record {key : Counter} {count : Int}
    (moved : ∀ w : World σ, 0 ≤ count → c.moves w
      { w with state := { w.state with counters := w.state.counters.add key count.toNat } }) :
    (record key count : Run σ Unit).Follows c := by
  intro w
  unfold record RunState.record
  by_cases negative : count < 0
  · simpa [bind_apply,state,fail,negative] using c.refl w
  · simpa [bind_apply,state,modifyState,negative] using moved w (by omega)

variable [Store.Database σ]

theorem follows_ask {request : Store.Request}
    (asked : c.allows (.item (.request request)))
    (failed : ∀ label, c.allows (.item (.failed request.side label)))
    (moved : ∀ w : World σ, c.moves w (w.after request)) : (ask request).Follows c := by
  intro w
  have after := moved w
  unfold ask
  dsimp only
  split
  · exact ⟨after,by simpa using asked⟩
  · exact ⟨after,by simpa using ⟨asked,failed _⟩⟩

theorem follows_askRows {request : Store.Request}
    (asked : c.allows (.item (.request request)))
    (failed : ∀ label, c.allows (.item (.failed request.side label)))
    (moved : ∀ w : World σ, c.moves w (w.after request)) : (askRows request).Follows c := by
  intro w
  have after := moved w
  unfold askRows
  dsimp only
  split
  · exact ⟨after,by simpa using asked⟩
  · exact ⟨after,by simpa using failed _⟩

theorem follows_askStep {request : Store.Request} (admits : c.AdmitsStep)
    (item : (Store.Item.request request).isStepItem = true) : (ask request).Follows c :=
  follows_ask (admits.item _ item) (fun _ => admits.item _ rfl) fun w => admits.ask w _

end Run

section Steps

variable {σ α : Type} [Store.Database σ] {c : Conduct σ} {step : Step}

open Run

theorem Step.Issues.isStepItem {item : Store.Item} (issued : step.Issues item) :
    item.isStepItem = true := by
  cases item with
  | request request => cases request <;> first | rfl | exact issued.elim
  | _ => first | rfl | exact issued.elim

theorem Conduct.AdmitsStep.batches (admits : c.AdmitsStep) (step : Step) : c.AdmitsBatches step :=
  ⟨admits.log,fun item issued => admits.item item issued.isStepItem,admits.ask,admits.count⟩

theorem follows_about (admits : c.AdmitsStep) {level : Log.Level} {entity message : String}
    {more : Row} (notice : level ≤ Log.info) :
    (log (.about level entity message more) : Run σ Unit).Follows c :=
  follows_log (admits.log _ notice)

omit [Store.Database σ] in
theorem Link.connection_follows : (Link.connection : Run σ Unit).Follows c := by
  refine follows_world.bind fun w => ?_
  split
  · exact follows_pure ()
  · exact follows_fail _

theorem Step.prepare_follows (admits : c.AdmitsBatches step) (rows : List Row) :
    (step.prepare rows : Run σ (List Parameters)).Follows c := by
  induction rows with
  | nil => exact follows_pure []
  | cons row rest ih =>
    refine (follows_ofExcept _).bind fun converted => ?_
    cases converted with
    | some parameters => exact ih.bind fun others => follows_pure _
    | none =>
      have low : Log.debug ≤ Log.info := by decide
      have dropped : (step.drop row : Run σ Unit).Follows c :=
        (follows_log (admits.log _ low)).bind fun _ =>
          follows_record fun w _ => admits.count w _ _
      exact dropped.bind fun _ => ih

theorem Step.recordAll_follows (admits : c.AdmitsBatches step) (counts : List (Counter × Int)) :
    (Step.recordAll counts : Run σ Unit).Follows c := by
  induction counts with
  | nil => exact follows_pure ()
  | cons count rest ih => exact (follows_record fun w _ => admits.count w _ _).bind fun _ => ih

theorem Migration.announced_follows (admits : c.AdmitsStep) (entity : String) {x : Run σ Nat}
    (follows : x.Follows c) : (Migration.announced entity x).Follows c :=
  (follows_about admits (by decide)).bind fun _ => follows.bind fun _ => follows_pure ()

theorem Step.write_follows (admits : c.AdmitsBatches step) (rows : List Parameters) :
    (step.insert.write rows : Run σ Nat).Follows c := by
  cases rows with
  | nil => exact follows_pure 0
  | cons row rest =>
    have asked : (ask (.insert step.insert.sql (row :: rest)) : Run σ _).Follows c :=
      follows_ask (admits.item _ rfl) (fun _ => admits.item _ trivial) fun w => admits.ask w _
    exact (asked.classify _).bind fun _ => follows_pure _

theorem Step.transfer_follows (admits : c.AdmitsBatches step) (written : Nat) (batch : List Row) :
    (step.transfer written batch : Run σ Nat).Follows c := by
  have updated : (note (.progressUpdate batch.length) : Run σ Unit).Follows c :=
    follows_note (admits.item _ trivial)
  exact (Step.prepare_follows admits batch).bind fun rows =>
    (Step.write_follows admits rows).bind fun _ => (Step.recordAll_follows admits _).bind fun _ =>
      updated.bind fun _ => follows_pure _

/-- The query of a step and how its rows are fetched. -/
def Step.reading (step : Step) (options : Options) : Link.Query :=
  ⟨step.query,step.parameters,options.batchSize,step.cursor⟩

theorem Step.serve_follows (admits : c.AdmitsBatches step) (options : Options) (rows : Nat) :
    (Link.serve (step.reading options) rows : Run σ Unit).Follows c := by
  have asked : (askRows (.fetch step.cursor options.batchSize rows) : Run σ Unit).Follows c :=
    follows_askRows (admits.item _ rfl) (fun _ => admits.item _ trivial) fun w => admits.ask w _
  exact asked.mapFailure _

theorem Step.consume_follows (admits : c.AdmitsBatches step) (options : Options) (written : Nat)
    (batches : List (List Row)) :
    (Link.consume (step.reading options) step.transfer written batches : Run σ Nat).Follows c := by
  induction batches generalizing written with
  | nil => exact (Step.serve_follows admits options 0).bind fun _ => follows_pure written
  | cons batch rest ih =>
    exact (Step.serve_follows admits options batch.length).bind fun _ =>
      (Step.transfer_follows admits written batch).bind fun next => ih next

theorem Step.fetch_follows (admits : c.AdmitsBatches step) (options : Options) :
    (Link.fetch (step.reading options) step.transfer 0 : Run σ Nat).Follows c := by
  have opened : (Link.openCursor step.cursor : Run σ Unit).Follows c :=
    Link.connection_follows.bind fun _ => follows_note (admits.item _ rfl)
  have asked : (ask (.execute .legacy step.cursor step.query step.parameters) :
      Run σ Store.Reply).Follows c :=
    follows_ask (admits.item _ ⟨rfl,rfl,rfl,rfl⟩) (fun _ => admits.item _ trivial) fun w =>
      admits.ask w _
  exact opened.bind fun _ => (asked.mapFailure _).bind fun reply =>
    Step.consume_follows admits options 0 _

theorem Step.run_follows (admits : c.AdmitsStep) (step : Step) (options : Options) :
    (step.run options : Run σ Nat).Follows c := by
  have fetched : (Link.fetch (step.reading options) step.transfer 0 : Run σ Nat).Follows c :=
    Step.fetch_follows (admits.batches step) options
  exact (follows_note (admits.item _ rfl)).bind fun _ =>
    (fetched.ensuring (follows_note (admits.item _ rfl))).bind fun written =>
      follows_state.bind fun s => (follows_about admits (by decide)).bind fun _ =>
        follows_pure written

theorem readWatermark_follows (admits : c.AdmitsStep) :
    (readWatermark : Run σ Value).Follows c :=
  (follows_askStep admits rfl).bind fun _ => follows_ofExcept _

theorem transferEvents_follows (admits : c.AdmitsSteps) (options : Options) :
    (transferEvents options : Run σ Nat).Follows c :=
  (readWatermark_follows admits.toAdmitsStep).bind fun watermark =>
    (follows_modifyState fun w => admits.watermark w watermark).bind fun _ =>
      (follows_ofExcept _).bind fun message =>
        (follows_about admits.toAdmitsStep (by decide)).bind fun _ =>
          Step.run_follows admits.toAdmitsStep _ options

/-- All three steps keep a conduct that admits what each of them does. -/
theorem Migration.steps_follows (admits : c.AdmitsSteps) (options : Options) :
    (Migration.steps options : Run σ Unit).Follows c := by
  have step := admits.toAdmitsStep
  exact (follows_note (admits.item _ rfl)).bind fun _ =>
    (Migration.announced_follows step _ (Step.run_follows step _ options)).bind fun _ =>
      (Migration.announced_follows step _ (Step.run_follows step _ options)).bind fun _ =>
        Migration.announced_follows step _ (transferEvents_follows admits options)

end Steps

section Sessions

variable {σ : Type} {c : Conduct σ}

theorem ne_of_head {s t : String} (differ : s.toList.head? ≠ t.toList.head?) : s ≠ t := by
  rintro rfl
  exact differ rfl

theorem Log.Record.not_isNotice_of_level {record : Log.Record} (low : record.level ≤ Log.info) :
    ¬ record.IsNotice := fun notice => absurd notice.1 (Int.not_lt.mpr low)

theorem Log.Record.not_isNotice_of_info {record : Log.Record} (info : record.level = Log.info) :
    ¬ record.IsNotice := not_isNotice_of_level (Int.le_of_eq info)

namespace Summary

variable {s : RunState}

theorem outcome_no_notice (s : RunState) : ¬ (outcome s).IsNotice := by
  unfold outcome
  split
  · exact Log.Record.not_isNotice_of_info rfl
  · split
    · exact fun notice => absurd notice.2 (by decide)
    · exact Log.Record.not_isNotice_of_info rfl

theorem watermarkLines_no_notice {watermark : Value} {lines : List Log.Record}
    (shown : watermarkLines watermark = .ok lines) : ∀ record ∈ lines, ¬ record.IsNotice := by
  intro record member
  unfold watermarkLines at shown
  split at shown
  · cases shown
    cases member
  · cases shown
    obtain rfl := List.mem_singleton.mp member
    exact Log.Record.not_isNotice_of_info rfl
  · cases shown

theorem counterLines_no_notice (s : RunState) : ∀ record ∈ counterLines s, ¬ record.IsNotice := by
  intro record member
  obtain ⟨⟨key,label⟩,_,rfl⟩ := List.mem_map.mp member
  exact Log.Record.not_isNotice_of_info rfl

/-- The line of the dropped events is a warning, but says something else. -/
theorem droppedLines_no_notice (s : RunState) : ∀ record ∈ droppedLines s, ¬ record.IsNotice := by
  unfold droppedLines
  split
  · simp
  · intro record member notice
    obtain rfl := List.mem_singleton.mp member
    exact ne_of_head (by simp [statistic,Summary.notice]) notice.2

theorem ofSuccess_no_notice {records : List Log.Record} (part : .ok records ∈ ofSuccess s) :
    ∀ record ∈ records, ¬ record.IsNotice := by
  intro record member
  unfold ofSuccess at part
  split at part
  · simp at part
  · simp only [List.mem_cons,Except.ok.injEq,List.not_mem_nil,or_false] at part
    rcases part with rfl | lines | rfl | rfl | rfl | rfl
    · simp only [List.mem_cons,List.not_mem_nil,or_false] at member
      rcases member with rfl | rfl
      · exact outcome_no_notice s
      · exact Log.Record.not_isNotice_of_info rfl
    · exact watermarkLines_no_notice lines.symm record member
    · exact counterLines_no_notice s record member
    · obtain rfl := List.mem_singleton.mp member
      exact Log.Record.not_isNotice_of_info rfl
    · exact droppedLines_no_notice s record member
    · split at member
      · obtain rfl := List.mem_singleton.mp member
        exact Log.Record.not_isNotice_of_info rfl
      · simp at member

end Summary

theorem Migration.start_follows (admits : c.AdmitsBooking) :
    (Migration.start : Run σ Unit).Follows c :=
  (Run.follows_modifyState fun w => admits.state w _ rfl).bind fun _ =>
    (Run.follows_now admits.clock).bind fun _ =>
      (Run.follows_modifyState fun w => admits.state w _ rfl).bind fun _ =>
        Run.follows_state.bind fun _ =>
          Run.follows_log (admits.log _ (Log.Record.not_isNotice_of_level (Int.le_refl _)))

theorem Migration.finish_follows (admits : c.AdmitsBooking) :
    (Migration.finish : Run σ Unit).Follows c :=
  (Run.follows_now admits.clock).bind fun _ =>
    (Run.follows_modifyState fun w => admits.state w _ rfl).bind fun _ =>
      Run.follows_state.bind fun _ => Run.follows_logParts fun _ part record member =>
        admits.log record (Summary.ofSuccess_no_notice part record member)

/-- Booking a failure is the one part of a run that gives the notice. -/
theorem Migration.conclude_follows (admits : c.AdmitsBooking)
    (notice : ∀ record, c.allows (.log record)) (failure : Failure) :
    (Migration.conclude failure : Run σ Unit).Follows c :=
  (Run.follows_now admits.clock).bind fun _ =>
    (Run.follows_modifyState fun w => admits.state w _ rfl).bind fun _ =>
      Run.follows_state.bind fun _ => (Run.follows_ofExcept _).bind fun _ =>
        Run.follows_logAll fun record _ => notice record

theorem Migration.settle_follows (admits : c.AdmitsBooking)
    (notice : ∀ record, c.allows (.log record)) (failure : Failure) :
    (Migration.settle failure : Run σ Unit).Follows c := by
  unfold Migration.settle
  split
  · exact (Migration.conclude_follows admits notice failure).bind fun _ => Run.follows_fail failure
  · split
    · exact (Migration.conclude_follows admits notice _).bind fun _ => Run.follows_fail _
    · exact Run.follows_fail failure

variable [Store.Database σ]

theorem Run.follows_askSession {request : Store.Request} (admits : c.AdmitsSessions)
    (session : request.isSession = true) : (Run.ask request).Follows c :=
  Run.follows_ask (admits.item (.request request) session) (fun _ => admits.item _ rfl) fun w =>
    admits.ask w request session

theorem Link.acquire_follows (admits : c.AdmitsSessions) (credentials : Credentials) :
    (Link.acquire credentials : Run σ Unit).Follows c := by
  refine Run.follows_world.bind fun w => ?_
  split
  · exact Run.follows_pure ()
  · have opening : ¬ (Log.Record.about Log.info Link.entity
        ("Opening legacy link to " ++ credentials.location)).IsNotice :=
      Log.Record.not_isNotice_of_level (Int.le_refl _)
    exact (Run.follows_log (admits.log _ opening)).bind fun _ =>
      ((Run.follows_askSession admits rfl).classify _).bind fun _ =>
        (Run.follows_note (admits.item _ rfl)).bind fun _ =>
          (Run.follows_note (admits.item _ rfl)).bind fun _ =>
            Run.follows_setLink fun w => admits.link w true

theorem Link.release_follows (admits : c.AdmitsSessions) :
    (Link.release : Run σ Unit).Follows c := by
  refine Run.follows_world.bind fun w => ?_
  split
  · refine (Run.follows_setLink fun w => admits.link w false).bind fun _ =>
      (Run.follows_askSession admits rfl).attempt.bind ?_
    intro result
    cases result with
    | ok _ => exact Run.follows_log (admits.log _ (Log.Record.not_isNotice_of_level (by decide)))
    | error failure =>
      dsimp only
      split
      · refine Run.follows_log (admits.log _ fun notice => ?_)
        exact ne_of_head (by simp [Log.Record.about,Summary.notice]) notice.2
      · exact Run.follows_fail failure
  · exact Run.follows_pure ()

theorem Migration.openTarget_follows (admits : c.AdmitsSessions) (settings : Settings) :
    (Migration.openTarget settings : Run σ Unit).Follows c :=
  ((Run.follows_askSession admits rfl).classify _).bind fun _ => Run.follows_pure ()

/-- A transaction keeps a conduct that its body keeps, where every item is admitted. -/
theorem Migration.transaction_follows {body : Run σ Unit} (follows : body.Follows c)
    (items : ∀ item, c.allows (.item item))
    (asks : ∀ (w : World σ) (request : Store.Request), c.moves w (w.after request)) :
    (Migration.transaction body).Follows c := by
  have asked (request : Store.Request) : (Run.ask request : Run σ Store.Reply).Follows c :=
    Run.follows_ask (items _) (fun _ => items _) fun w => asks w _
  refine (asked .begin).bind fun _ => follows.attempt.bind fun result => ?_
  cases result with
  | error failure => exact (Run.follows_note (items _)).bind fun _ => Run.follows_ofExcept _
  | ok _ =>
    refine Run.follows_state.bind fun s => ?_
    split
    · exact Run.follows_note (items _)
    · exact (asked .commit).bind fun _ => Run.follows_pure ()

theorem Migration.closeTarget_follows (admits : c.AdmitsSessions) :
    (Migration.closeTarget : Run σ Unit).Follows c :=
  (Run.follows_askSession admits rfl).bind fun _ => Run.follows_pure ()

end Sessions

end RoomTransfer
