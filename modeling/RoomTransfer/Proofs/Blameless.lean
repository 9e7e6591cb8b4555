import RoomTransfer.Proofs.Conversion

/-! Who is to blame. What a conversion fails with is never a failure of a database and never a demand
to roll back, and what a database refuses while rows are written becomes a failure of the transfer. -/
namespace RoomTransfer

/-- Neither reported by a database nor a demand to roll back. -/
def Failure.isHomemade (failure : Failure) : Bool := !failure.isDatabase && !failure.isRollback

/-- A result that fails in such ways only. -/
def FailsOnly {ε α : Type} (P : ε → Prop) (result : Except ε α) : Prop :=
  ∀ failure, result = .error failure → P failure

/-- A result that is no failure of a database. -/
abbrev Blameless {α : Type} (result : Except Failure α) : Prop :=
  FailsOnly (fun failure => failure.isDatabase = false) result

/-- A result that is neither a failure of a database nor a demand to roll back. -/
abbrev Homemade {α : Type} (result : Except Failure α) : Prop :=
  FailsOnly (fun failure => failure.isHomemade = true) result

namespace FailsOnly

variable {ε α β : Type} {P Q : ε → Prop}

theorem ok (a : α) : FailsOnly P (.ok a) := fun _ failed => by cases failed

theorem error {failure : ε} (holds : P failure) :
    FailsOnly P (.error failure : Except ε α) := by
  rintro _ ⟨⟩
  exact holds

/-- What comes next matters only where the first part succeeds. -/
theorem bind_of {x : Except ε α} {f : α → Except ε β} (first : FailsOnly P x)
    (rest : ∀ a, x = .ok a → FailsOnly P (f a)) : FailsOnly P (x >>= f) := by
  cases x with
  | error failure => exact error (first failure rfl)
  | ok a => exact rest a rfl

theorem bind {x : Except ε α} {f : α → Except ε β} (first : FailsOnly P x)
    (rest : ∀ a, FailsOnly P (f a)) : FailsOnly P (x >>= f) := first.bind_of fun a _ => rest a

theorem map {x : Except ε α} (first : FailsOnly P x) (f : α → β) : FailsOnly P (x.map f) := by
  cases x with
  | error failure => exact error (first failure rfl)
  | ok a => exact ok (f a)

theorem mapM {γ : Type} {f : γ → Except ε α} (each : ∀ c, FailsOnly P (f c)) (cs : List γ) :
    FailsOnly P (cs.mapM f) := by
  induction cs with
  | nil => exact ok []
  | cons c rest ih =>
    rw [List.mapM_cons]
    exact (each c).bind fun a => ih.bind fun as => ok (a :: as)

theorem mono {x : Except ε α} (weaker : ∀ failure, P failure → Q failure)
    (only : FailsOnly P x) : FailsOnly Q x := fun failure failed => weaker failure (only failure failed)

end FailsOnly

section Homemade

theorem Failure.isHomemade_iff {failure : Failure} :
    failure.isHomemade = true ↔ failure.isDatabase = false ∧ failure.isRollback = false := by
  simp [isHomemade]

theorem Failure.undemanded_of_isDatabase {failure : Failure} (database : failure.isDatabase = true) :
    failure.isRollback = false := by
  unfold isDatabase at database
  unfold isRollback
  cases kind : failure.kind <;> simp_all [FailureKind.isDatabase,FailureKind.isRollback]

theorem Failure.homemade_of_isOwn (failure : Failure) (own : failure.isOwn = true) :
    failure.isHomemade = true := by
  unfold isOwn at own
  unfold isHomemade isDatabase isRollback
  cases kind : failure.kind <;>
    simp_all [FailureKind.isOwn,FailureKind.isDatabase,FailureKind.isRollback]

theorem FailsOnly.blameless {α : Type} {result : Except Failure α} (homemade : Homemade result) :
    Blameless result :=
  homemade.mono fun _ inner => (Failure.isHomemade_iff.mp inner).1

end Homemade

section Records

theorem Row.require_present {row : Row} {name : String} (present : (row.find? name).isSome) :
    row.require name = .ok (row.get name) := by
  obtain ⟨v,found⟩ := Option.isSome_iff_exists.mp present
  rw [require,get,found]
  rfl

theorem Row.require_fails {P : Failure → Prop} (row : Row) {name : String}
    (missing : P (.missingKey name)) : FailsOnly P (row.require name) := by
  unfold Row.require
  split
  · exact .ok _
  · exact .error missing

/-- How a room is refused. The check of its interval is not among the reasons. -/
inductive Room.Refusal : Failure → Prop where
  | tooFar (year : Int) : Refusal (.yearTooFar year)
  | calendar (cause : DateError) : Refusal (.calendar cause)
  | attribute (typeName name : String) : Refusal (.missingAttribute typeName name)
  | unordered (cause : OrderError) : Refusal (.order "<" cause)
  | record (id : Value) (reason : String) : Refusal (.record "room" id reason)
  | missing (name : String) : Refusal (.missingKey name)

theorem shiftYears_refusal (moment : Value) (years : Int) :
    FailsOnly Room.Refusal (shiftYears moment years) := by
  unfold shiftYears
  split
  · dsimp only
    split
    · exact .error (.tooFar _)
    · split
      · exact .ok _
      · exact .error (.calendar _)
  · exact .error (.attribute _ _)
  · exact .error (.attribute _ _)

/-- Values that are in order make an interval. -/
theorem Interval.ofValues_ordered {lower upper : Value} (ordered : upper.less lower = .ok false) :
    ofValues lower upper = .ok ⟨lower,upper⟩ := by
  simp only [ofValues,ordered]

theorem Value.less_ints (i j : Int) : (Value.int i).less (.int j) = .ok (decide (i < j)) := by
  simp only [less,compareScalars,numeric?,Numeric.compare?,Except.map]
  rw [Except.ok.injEq,Bool.eq_iff_iff]
  simp [Std.compare_eq_lt]

theorem Interval.ofInts_ordered {lower upper : Int} (ordered : ¬ upper < lower) :
    ofInts lower upper = .ok ⟨lower,upper⟩ := by
  have order := Value.less_ints upper lower
  rw [decide_eq_false ordered] at order
  rw [ofInts,ofValues_ordered order]
  rfl

theorem Room.ofRow_refusal (row : Row) (years : Int) : FailsOnly Refusal (ofRow row years) := by
  have closing (openedAt : Value) : FailsOnly Refusal (closeTime row openedAt years) := by
    unfold closeTime
    split
    · exact shiftYears_refusal openedAt years
    · exact .ok _
  have required (name : String) : FailsOnly Refusal (row.require name) :=
    row.require_fails (.missing name)
  unfold ofRow
  split
  · exact .error (.record _ _)
  · refine (closing _).bind fun closed => ?_
    split
    · exact .error (.unordered _)
    · exact .error (.record _ _)
    next ordered =>
      rw [Interval.ofValues_ordered ordered]
      exact (required _).bind fun _ => (required _).bind fun _ => (required _).bind fun _ => .ok _

theorem Room.ofRow_homemade (row : Row) (years : Int) : Homemade (ofRow row years) :=
  (ofRow_refusal row years).mono fun _ refusal => by cases refusal <;> rfl

section Fails

variable {P : Failure → Prop} {row : Row}

/-- An adjustment fails in the name of the transfer, unless a column is missing. -/
theorem Adjustment.ofRow_fails (own : ∀ failure, failure.isOwn = true → P failure)
    (id : FailsOnly P (row.require "id")) (opened : FailsOnly P (row.require "opened_at")) :
    FailsOnly P (Adjustment.ofRow row) := by
  have refuse {α : Type} (id : Value) (reason : String) :
      FailsOnly P (Adjustment.fail id reason : Except Failure α) := .error (own _ rfl)
  have preroll (id v : Value) : FailsOnly P (Adjustment.prerollOf id v) := by
    unfold Adjustment.prerollOf
    split
    · exact .ok _
    · split
      · exact .ok _
      · exact refuse _ _
  have segment (id v : Value) : FailsOnly P (Adjustment.segment id v) := by
    unfold Adjustment.segment
    split
    · split
      · split
        · exact refuse _ _
        next ordered =>
          rw [Interval.ofInts_ordered ordered]
          exact .ok _
      · exact refuse _ _
    · exact refuse _ _
  have segments (id v : Value) : FailsOnly P (Adjustment.segmentsOf id v) := by
    unfold Adjustment.segmentsOf
    split
    · exact .ok _
    · exact .mapM (segment id) _
    · exact refuse _ _
  unfold Adjustment.ofRow
  dsimp only
  split
  · exact (preroll _ _).bind fun _ => id.bind fun _ => opened.bind fun _ =>
      (segments _ _).bind fun _ => .ok _
  · exact refuse _ _

/-- A field can be written where its object can. -/
theorem Json.refusal?_field {strict : Bool} {fields : List (Value × Value)} (name : String)
    (unwritable : refusal? strict ((Value.field? fields name).getD .null) ≠ none) :
    fieldRefusal? strict fields ≠ none := by
  induction fields with
  | nil => simp [Value.field?,refusal?] at unwritable
  | cons field rest ih =>
    obtain ⟨key,v⟩ := field
    unfold fieldRefusal?
    split
    · rw [ne_eq,Option.or_eq_none_iff]
      rintro ⟨first,others⟩
      cases named : key.isText name with
      | true =>
        simp only [Value.field?,List.find?_cons,named,Option.map_some,Option.getD_some] at unwritable
        exact unwritable first
      | false =>
        simp only [Value.field?,List.find?_cons,named] at unwritable
        exact ih unwritable others
    · exact nofun

namespace EventContent

theorem plainText_fails {v : Value}
    (texts : Json.refusal? true v ≠ none → ∀ cause, P (.notSerializable cause)) :
    FailsOnly P (plainText v) := by
  unfold plainText
  split
  · exact .ok _
  · split
    next cause refused => exact .error (texts (by rw [refused]; nofun) cause)
    next => exact .ok _

variable (own : ∀ failure, failure.isOwn = true → P failure)
include own

theorem fail_fails {α : Type} (row : Row) (reason : String) :
    FailsOnly P (fail row reason : Except Failure α) := .error (own _ rfl)

theorem fields_fails (row : Row) : FailsOnly P (fields row) := by
  unfold fields
  split
  · exact .ok _
  · exact fail_fails own _ _

theorem address_fails (row : Row) : FailsOnly P (address row) := by
  refine (fields_fails own row).bind fun found => ?_
  split
  · split
    · exact fail_fails own _ _
    · exact .ok _
  · exact fail_fails own _ _

/-- A drawing is named by two fields of its data, which must have a text. -/
theorem ofDrawing_fails
    (texts : Json.refusal? true (row.get "data") ≠ none → ∀ cause, P (.notSerializable cause)) :
    FailsOnly P (ofDrawing row) := by
  have refusal {α β : Type} (reason : String) (f : α → Except Failure β) :
      (fail row reason >>= f) = .error (.record "event" (row.get "id") reason) := rfl
  refine (fields_fails own row).bind_of fun data found => ?_
  have given : row.get "data" = .object data := by
    unfold fields at found
    split at found <;> cases found
    assumption
  rw [given] at texts
  simp only [refusal,pure_bind]
  split
  · exact .error (own _ rfl)
  next page _ =>
    split
    next geometry drawn =>
      split
      · exact .error (own _ rfl)
      next shape _ =>
        refine (address_fails own row).bind fun _ => (plainText_fails ?_).bind fun _ =>
          (plainText_fails ?_).bind fun _ => .ok _
        · exact fun unwritable => texts (Json.refusal?_field _ unwritable)
        · intro unwritable
          have inner := Json.refusal?_field _ unwritable
          refine texts (Json.refusal?_field "geometry" ?_)
          rw [drawn]
          exact inner
    · exact .error (own _ rfl)

theorem ofRow_fails
    (texts : Json.refusal? true (row.get "data") ≠ none → ∀ cause, P (.notSerializable cause))
    (type : EventType) : FailsOnly P (ofRow row type) := by
  cases type with
  | document => exact (address_fails own row).bind fun _ => .ok _
  | documentDelete =>
    exact (address_fails own row).bind fun _ => (fields_fails own row).bind fun _ => .ok _
  | draw => exact ofDrawing_fails own texts
  | _ => exact .ok _

end EventContent

/-- An event fails in the name of the transfer, where its type can be looked up and its data can
be written. -/
theorem Event.ofRow_fails (own : ∀ failure, failure.isOwn = true → P failure) {agentLabel : Value}
    (typed : FailsOnly P (EventType.ofValue? (row.get "type")))
    (texts : Json.refusal? true (row.get "data") ≠ none → ∀ cause, P (.notSerializable cause)) :
    FailsOnly P (Event.ofRow row agentLabel) := by
  have timed : FailsOnly P (Event.offset row) := by
    unfold Event.offset
    split
    · exact .ok _
    · exact EventContent.fail_fails own _ _
  refine typed.bind fun type => ?_
  cases type with
  | none => exact .ok _
  | some type =>
    dsimp only
    split
    · exact EventContent.fail_fails own _ _
    · exact timed.bind fun _ => (EventContent.ofRow_fails own texts type).bind fun _ => .ok _

end Fails

theorem Adjustment.ofRow_homemade (row : Row) : Homemade (Adjustment.ofRow row) :=
  ofRow_fails Failure.homemade_of_isOwn (row.require_fails rfl) (row.require_fails rfl)

theorem Event.ofRow_homemade (row : Row) (agentLabel : Value) :
    Homemade (Event.ofRow row agentLabel) := by
  have typed : Homemade (EventType.ofValue? (row.get "type")) := by
    unfold EventType.ofValue?
    split
    · exact .error rfl
    · exact .ok _
  exact ofRow_fails Failure.homemade_of_isOwn typed fun _ _ => rfl

end Records

section Steps

theorem Step.converted_homemade {step : Step} (each : ∀ row, Homemade (step.convert row))
    (rows : List Row) : Homemade (step.converted rows) := by
  rw [step.converted_eq]
  exact (FailsOnly.mapM each rows).map _

theorem Step.rooms_homemade (options : Options) (row : Row) :
    Homemade ((Step.rooms options).convert row) := (Room.ofRow_homemade row _).bind fun _ => .ok _

theorem Step.adjustments_homemade (row : Row) : Homemade (Step.adjustments.convert row) :=
  (Adjustment.ofRow_homemade row).bind fun _ => .ok _

theorem Step.events_homemade (options : Options) (watermark : Value) (row : Row) :
    Homemade ((Step.events options watermark).convert row) :=
  (Event.ofRow_homemade row _).bind fun _ => .ok _

theorem Step.booked_homemade (counts : List (Counter × Int)) : Homemade (Step.booked counts) := by
  induction counts with
  | nil => exact .ok ()
  | cons count rest ih =>
    unfold Step.booked
    split
    · exact .error rfl
    · exact ih

theorem watermarkOf_homemade (row : Value) : Homemade (watermarkOf row) := by
  unfold watermarkOf
  dsimp only
  split
  · exact .ok _
  · split
    · exact .ok _
    · exact .error rfl
  · exact .ok _
  · exact .ok _
  · exact .error rfl
  · exact .error rfl
  · split
    · exact .ok _
    · exact .error rfl
  · exact .error rfl

theorem watermarkMessage_homemade (watermark : Value) (mode : ModeOption) :
    Homemade (watermarkMessage watermark mode) := by
  unfold watermarkMessage
  split
  · exact .ok _
  · exact .error rfl
  · exact .error rfl

theorem Traffic.bind_homemade {σ α β : Type} {P : σ → Prop} {first : Traffic σ α}
    {next : α → σ → Traffic σ β} (holds : P first.stores) (before : Homemade first.result)
    (after : ∀ a s, P s → Homemade (next a s).result) : Homemade (first.bind next).result := by
  unfold Traffic.bind
  cases result : first.result with
  | error failure => exact .error (before failure result)
  | ok a => exact after a _ holds

variable {σ : Type} [Store.Database σ] {P : σ → Prop} {s : σ}

/-- What a database refuses to insert is a failure of the transfer, not of the database. -/
theorem Insert.put_homemade (smooth : Smooth P) (insert : Insert) (rows : List Parameters)
    (holds : P s) : Homemade (insert.put rows s).result := by
  unfold Insert.put
  split
  · exact .ok 0
  · dsimp only
    split
    · exact .ok _
    next fault refused =>
      -- The batch is refused in the name of the transfer, whatever the database reports.
      by_cases database : fault.failure.isDatabase = true
      · rw [if_pos database]
        exact .error rfl
      · rw [if_neg database]
        exact .error (Failure.isHomemade_iff.mpr
          ⟨Bool.eq_false_iff.mpr database,smooth.refusal s holds _ _ fault refused⟩)

theorem Step.pour_homemade (smooth : Smooth P) {step : Step}
    (each : ∀ row, Homemade (step.convert row)) (batches : List (List Row)) (written : Nat)
    (holds : P s) : Homemade (step.pour written batches s).result := by
  induction batches generalizing written s with
  | nil => exact .ok written
  | cons batch rest ih =>
    have batched : Homemade (step.pourBatch batch s).result :=
      Traffic.bind_homemade holds (Step.converted_homemade each batch) fun rows _ holds =>
        Traffic.bind_homemade (step.insert.put_holds smooth.insert rows holds)
          (step.insert.put_homemade smooth rows holds) fun count _ holds =>
            Traffic.bind_homemade holds (Step.booked_homemade _) fun _ _ _ => .ok count
    exact Traffic.bind_homemade (step.pourBatch_holds smooth.insert batch holds) batched
      fun count _ holds => ih _ holds

/-- The steps never hand on a failure of a database, or a demand of one. -/
theorem stepsTraffic_homemade (smooth : Smooth P) (options : Options) (holds : P s) :
    Homemade (stepsTraffic options s).result := by
  have poured {step : Step} (each : ∀ row, Homemade (step.convert row)) (s : σ) (holds : P s) :
      Homemade (step.traffic options s).result := Step.pour_homemade smooth each _ 0 holds
  have last (s : σ) (holds : P s) : Homemade (eventsTraffic options s).result :=
    Traffic.bind_homemade holds (watermarkOf_homemade _) fun _ _ holds =>
      Traffic.bind_homemade holds (watermarkMessage_homemade _ _) fun _ s holds =>
        poured (Step.events_homemade _ _) s holds
  refine Traffic.bind_homemade (Step.pour_holds smooth _ _ holds)
    (poured (Step.rooms_homemade options) s holds) fun _ s holds => ?_
  refine Traffic.bind_homemade (Step.pour_holds smooth _ _ holds)
    (poured Step.adjustments_homemade s holds) fun _ s holds => ?_
  exact Traffic.bind_homemade (eventsTraffic_holds smooth options holds) (last s holds)
    fun _ _ _ => .ok ()

end Steps

end RoomTransfer
