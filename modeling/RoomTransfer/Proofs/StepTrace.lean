import RoomTransfer.Proofs.Completion
import RoomTransfer.Proofs.Tally

/-! The trace of a step. Its progress is opened, told and closed, and all that the step asks for
lies between. -/
namespace RoomTransfer

open Store

namespace Store

namespace Item

def opens (description : String) : Item → Bool
  | .progressOpen shown _ _ => shown = description
  | _ => false

def closesProgress : Item → Bool
  | .progressClose => true
  | _ => false

end Item

/-- The rows that the progress under a description tells of: those of the updates from its opening
to the next closing. -/
def progressOf (description : String) (trace : List Item) : Nat :=
  progress ((trace.dropWhile fun item => !item.opens description).takeWhile fun item =>
    !item.closesProgress)

end Store

/-- A trace that a step leaves: its progress opened, what it issues, and its progress closed. -/
structure Step.Bar (step : Step) (disabled : Bool) (inner trace : List Item) : Prop where
  shape : trace = .progressOpen step.description step.unit disabled :: (inner ++ [.progressClose])
  issued : ∀ item ∈ inner, step.Issues item

namespace Step.Bar

variable {step : Step} {disabled : Bool} {inner trace front back : List Item}

theorem each (bar : step.Bar disabled inner trace) {P : Item → Prop}
    (opens : P (.progressOpen step.description step.unit disabled))
    (issued : ∀ item, step.Issues item → P item) (closes : P .progressClose) :
    ∀ item ∈ trace, P item := by
  intro item member
  rw [bar.shape] at member
  rcases List.mem_cons.mp member with rfl | later
  · exact opens
  · rcases List.mem_append.mp later with within | last
    · exact issued item (bar.issued item within)
    · obtain rfl := List.mem_singleton.mp last
      exact closes

theorem progress_eq (bar : step.Bar disabled inner trace) : progress trace = progress inner := by
  rw [bar.shape]
  simp [progress,Item.progress]

/-- Behind items that open no progress under its description, a step tells its own. -/
theorem progressOf_eq (bar : step.Bar disabled inner trace)
    (before : ∀ item ∈ front, item.opens step.description = false) :
    progressOf step.description (front ++ (trace ++ back)) = progress trace := by
  have dropped (rest : List Item) :
      (front ++ rest).dropWhile (fun item => !item.opens step.description) =
        rest.dropWhile fun item => !item.opens step.description := by
    refine List.dropWhile_append_of_pos fun item member => ?_
    simp [before item member]
  have taken : (inner ++ .progressClose :: back).takeWhile (fun item => !item.closesProgress) =
      inner := by
    rw [List.takeWhile_append_of_pos]
    · simp [Item.closesProgress]
    · intro item member
      have issued := bar.issued item member
      cases item <;> first | rfl | exact issued.elim
  rw [bar.progress_eq,bar.shape,progressOf,dropped]
  simp only [List.cons_append,List.append_assoc,List.nil_append]
  rw [List.dropWhile_cons_of_neg (by simp [Item.opens]),
    List.takeWhile_cons_of_pos (by rfl),taken]
  simp [progress,Item.progress]

theorem opens_other (bar : step.Bar disabled inner trace) {description : String}
    (other : step.description ≠ description) : ∀ item ∈ trace, item.opens description = false := by
  refine bar.each (by simp [Item.opens,other]) (fun item issued => ?_) rfl
  cases item <;> first | rfl | exact issued.elim

end Step.Bar

section Runs

variable {σ : Type} [Database σ] {options : Options} {w : World σ}

def Step.issuing (step : Step) : Conduct σ where
  allows
    | .item item => step.Issues item
    | .log _ => True
  moves _ _ := True
  refl _ := trivial
  trans _ _ := trivial

omit [Database σ] in
/-- What only logs behind a part leaves its trace as it is. -/
theorem Run.trace_bind_silent {α β : Type} {x : Run σ α} {f : α → Run σ β}
    (silent : ∀ a v, traceOf (f a v).effects = []) :
    traceOf ((x >>= f) w).effects = traceOf (x w).effects := by
  rw [bind_apply]
  cases (x w).result with
  | error failure => rfl
  | ok a => simp [silent]

/-- However a step ends, its progress is closed behind all else that it does. -/
theorem Step.run_trace (step : Step) (options : Options) (w : World σ) : ∃ inner,
    step.Bar (!options.showProgress.isGiven) inner (traceOf (step.run options w).effects) := by
  have admits : (step.issuing : Conduct σ).AdmitsBatches step :=
    ⟨fun _ _ => trivial,fun _ issued => issued,fun _ _ => trivial,fun _ _ _ => trivial⟩
  have follows := Step.fetch_follows admits options
  refine ⟨traceOf (Link.fetch (step.reading options) step.transfer 0 w).effects,?_,?_⟩
  · have head : (Run.note (.progressOpen step.description step.unit
        (!options.showProgress.isGiven)) w).result = .ok () := rfl
    unfold Step.run
    rw [Run.bind_of_ok head,traceOf_append,Run.trace_bind_silent fun _ _ => rfl,
      Run.ensuring_apply,traceOf_append]
    rfl
  · intro item member
    exact follows.effects w _ (mem_traceOf.mp member)

def watermarkItem : Item := .request (.execute .target "" watermarkQuery .null)

omit [Database σ] in
/-- A part that fails leaves its own trace, and one that returns has the rest behind it. -/
theorem Run.trace_bind {α β : Type} (x : Run σ α) (f : α → Run σ β) (w : World σ) :
    (∃ failure, (x w).result = .error failure ∧
      traceOf ((x >>= f) w).effects = traceOf (x w).effects) ∨
    ∃ a, (x w).result = .ok a ∧ traceOf ((x >>= f) w).effects =
      traceOf (x w).effects ++ traceOf (f a (x w).world).effects := by
  cases result : (x w).result with
  | error failure =>
    refine .inl ⟨failure,rfl,?_⟩
    rw [bind_of_error result]
  | ok a =>
    refine .inr ⟨a,rfl,?_⟩
    rw [bind_of_ok result,traceOf_append]

theorem readWatermark_trace (w : World σ) :
    traceOf (readWatermark w).effects = [watermarkItem] ∨
    ∃ failure label, (readWatermark w).result = .error failure ∧
      traceOf (readWatermark w).effects = [watermarkItem,.failed .target label] := by
  have silent (reply : Reply) (v : World σ) :
      traceOf ((Run.ofExcept (watermarkOf reply.one) : Run σ Value) v).effects = [] := by
    cases watermarkOf reply.one <;> rfl
  unfold readWatermark
  rw [Run.trace_bind_silent silent]
  rcases Run.ask_trace (.execute .target "" watermarkQuery .null) w with
    ⟨_,_,trace⟩ | ⟨failure,label,failed,trace⟩
  · exact .inl trace
  · refine .inr ⟨failure,label,?_,trace⟩
    rw [Run.bind_of_error failed]

/-- The watermark is read first, and the step runs where that can be told. -/
theorem transferEvents_trace (options : Options) (w : World σ) :
    ((∃ failure, (transferEvents options w).result = .error failure) ∧
      (traceOf (transferEvents options w).effects = [watermarkItem] ∨
        ∃ label, traceOf (transferEvents options w).effects =
          [watermarkItem,.failed .target label])) ∨
    ∃ watermark disabled inner bar, (Step.events options watermark).Bar disabled inner bar ∧
      traceOf (transferEvents options w).effects = watermarkItem :: bar := by
  unfold transferEvents
  cases read : (readWatermark w).result with
  | error failure =>
    rw [Run.bind_of_error read]
    refine .inl ⟨⟨failure,rfl⟩,?_⟩
    rcases readWatermark_trace w with trace | ⟨_,label,_,trace⟩
    · exact .inl trace
    · exact .inr ⟨label,trace⟩
  | ok watermark =>
    have asked : traceOf (readWatermark w).effects = [watermarkItem] := by
      rcases readWatermark_trace w with trace | ⟨_,_,failed,_⟩
      · exact trace
      · rw [read] at failed
        cases failed
    rw [Run.bind_of_ok read,traceOf_append,asked]
    cases told : watermarkMessage watermark options.watermarkMode with
    | error failure => exact .inl ⟨⟨failure,rfl⟩,.inl rfl⟩
    | ok message =>
      obtain ⟨inner,ran⟩ := Step.run_trace (Step.events options watermark) options
        { (readWatermark w).world with
          state := { (readWatermark w).world.state with watermark } }
      exact .inr ⟨watermark,_,inner,_,ran,rfl⟩

omit [Database σ] in
theorem announced_trace (entity : String) (x : Run σ Nat) (w : World σ) :
    traceOf (Migration.announced entity x w).effects = traceOf (x w).effects := by
  rw [Migration.announced_apply]
  rfl

omit [Database σ] in
theorem announced_trace_bind (entity : String) (x : Run σ Nat) (f : Unit → Run σ Unit)
    (w : World σ) :
    (∃ failure, (x w).result = .error failure ∧
      traceOf ((Migration.announced entity x >>= f) w).effects = traceOf (x w).effects) ∨
    ∃ n, (x w).result = .ok n ∧ traceOf ((Migration.announced entity x >>= f) w).effects =
      traceOf (x w).effects ++ traceOf (f () (x w).world).effects := by
  have result : (Migration.announced entity x w).result = (x w).result.map fun _ => () := by
    rw [Migration.announced_apply]
  rcases Run.trace_bind (Migration.announced entity x) f w with ⟨_,left,trace⟩ | ⟨_,left,trace⟩
  · rw [announced_trace] at trace
    cases inner : (x w).result with
    | error failure => exact .inl ⟨failure,rfl,trace⟩
    | ok n => simp [left,inner,Except.map] at result
  · rw [announced_trace,Migration.announced_world] at trace
    cases inner : (x w).result with
    | error failure => simp [left,inner,Except.map] at result
    | ok n => exact .inr ⟨n,rfl,trace⟩

theorem steps_trace (options : Options) (w : World σ) : ∃ rest rest',
    traceOf (Migration.steps options w).effects =
      .cursor .target none :: (traceOf (transferRooms options w).effects ++ rest) ∧
    ((∃ failure, (transferRooms options w).result = .error failure) ∧ rest = [] ∨
      (∃ n, (transferRooms options w).result = .ok n) ∧
      rest = traceOf (transferAdjustments options (transferRooms options w).world).effects ++ rest' ∧
        ((∃ failure, (transferAdjustments options (transferRooms options w).world).result =
            .error failure) ∧ rest' = [] ∨
          rest' = traceOf (transferEvents options
            (transferAdjustments options (transferRooms options w).world).world).effects)) := by
  have head : ((Run.note (.cursor .target none) : Run σ Unit) w).result = .ok () := rfl
  have first := announced_trace_bind "room" (transferRooms options) (fun _ =>
    Migration.announced "adjustment" (transferAdjustments options) >>= fun _ =>
      Migration.announced "event" (transferEvents options)) w
  have second := announced_trace_bind "adjustment" (transferAdjustments options) (fun _ =>
    Migration.announced "event" (transferEvents options)) (transferRooms options w).world
  rw [announced_trace] at second
  unfold Migration.steps
  rw [Run.bind_of_ok head,traceOf_append]
  rcases first with ⟨failure,left,trace⟩ | ⟨n,left,trace⟩
  · refine ⟨[],[],?_,.inl ⟨⟨failure,left⟩,rfl⟩⟩
    rw [List.append_nil,← trace]
    rfl
  · have whole := congrArg (Item.cursor .target none :: ·) trace
    rcases second with ⟨failure,refused,behind⟩ | ⟨_,_,behind⟩
    · exact ⟨_,[],whole,.inr ⟨⟨n,left⟩,behind.trans (List.append_nil _).symm,
        .inl ⟨⟨failure,refused⟩,rfl⟩⟩⟩
    · exact ⟨_,_,whole,.inr ⟨⟨n,left⟩,behind,.inr rfl⟩⟩

end Runs

end RoomTransfer
