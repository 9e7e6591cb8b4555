import RoomTransfer.Proofs.Batches
import RoomTransfer.Proofs.StepTraffic

/-! The conversion of rows apart from any database. Conversions of batches put together are the
conversion of the rows, and what is made of a row has the row's identifier. -/
namespace RoomTransfer

section Rows

/-- What `f` makes of one row after another, up to the first row that it fails on. -/
theorem mapM_map {α β : Type} (f : Row → Except Failure α) (g : α → β) (rows : List Row) :
    (rows.mapM fun row => (f row).map g) = (rows.mapM f).map (List.map g) := by
  induction rows with
  | nil => rfl
  | cons row rest ih =>
    rw [List.mapM_cons,List.mapM_cons,ih]
    cases f row with
    | error failure => rfl
    | ok a => cases rest.mapM f <;> rfl

namespace Step

theorem converted_eq (step : Step) (rows : List Row) :
    step.converted rows = (rows.mapM step.convert).map (List.filterMap id) := by
  induction rows with
  | nil => rfl
  | cons row rest ih =>
    rw [List.mapM_cons]
    unfold converted
    cases step.convert row with
    | error failure => rfl
    | ok found =>
      rw [ih]
      cases found <;> cases rest.mapM step.convert <;> rfl

theorem converted_append (step : Step) (first second : List Row) :
    step.converted (first ++ second) =
      (step.converted first).bind fun rows => (step.converted second).map (rows ++ ·) := by
  induction first with
  | nil => cases made : step.converted second <;> simp [converted,Except.bind,Except.map,made]
  | cons row rest ih =>
    simp only [List.cons_append,converted]
    cases step.convert row with
    | error failure => rfl
    | ok found =>
      cases found with
      | none => exact ih
      | some parameters =>
        simp only [ih]
        cases step.converted rest <;> cases step.converted second <;> rfl

theorem converted_append_ok {step : Step} {first second : List Row} {made : List Parameters} :
    step.converted (first ++ second) = .ok made ↔ ∃ one two,
      step.converted first = .ok one ∧ step.converted second = .ok two ∧ made = one ++ two := by
  rw [step.converted_append]
  cases step.converted first <;> cases step.converted second <;>
    simp [Except.bind,Except.map,eq_comm]

theorem converted_length (step : Step) {rows : List Row} {made : List Parameters}
    (converted : step.converted rows = .ok made) : made.length ≤ rows.length := by
  induction rows generalizing made with
  | nil =>
    obtain rfl := Except.ok.inj converted
    simp
  | cons row rest ih =>
    unfold Step.converted at converted
    cases conversion : step.convert row with
    | error failure => rw [conversion] at converted; cases converted
    | ok found =>
      rw [conversion] at converted
      cases found with
      | none => exact Nat.le_succ_of_le (ih converted)
      | some parameters =>
        cases later : step.converted rest with
        | error failure => simp [later,Except.map] at converted
        | ok others =>
          simp only [later,Except.map,Except.ok.injEq] at converted
          have shorter := ih later
          rw [← converted]
          exact Nat.succ_le_succ shorter

variable {step : Step} {rows : List Row} {made : List Parameters}

theorem converted_row (converted : step.converted rows = .ok made) {row : Row}
    (member : row ∈ rows) :
    ∃ found, step.convert row = .ok found ∧ ∀ p, found = some p → p ∈ made := by
  induction rows generalizing made with
  | nil => cases member
  | cons first rest ih =>
    unfold Step.converted at converted
    cases head : step.convert first with
    | error failure => rw [head] at converted; cases converted
    | ok found =>
      rw [head] at converted
      cases found with
      | none =>
        rcases List.mem_cons.mp member with rfl | member
        · exact ⟨none,head,fun p same => by cases same⟩
        · exact ih converted member
      | some parameters =>
        cases later : step.converted rest with
        | error failure => simp [later,Except.map] at converted
        | ok others =>
          simp only [later,Except.map,Except.ok.injEq] at converted
          subst converted
          rcases List.mem_cons.mp member with rfl | member
          · exact ⟨_,head,fun p same => by cases same; exact .head _⟩
          · obtain ⟨found,conversion,within⟩ := ih later member
            exact ⟨found,conversion,fun p same => .tail _ (within p same)⟩

theorem converted_source (converted : step.converted rows = .ok made) {p : Parameters}
    (member : p ∈ made) : ∃ row ∈ rows, step.convert row = .ok (some p) := by
  induction rows generalizing made with
  | nil => cases converted; cases member
  | cons first rest ih =>
    unfold Step.converted at converted
    cases head : step.convert first with
    | error failure => rw [head] at converted; cases converted
    | ok found =>
      rw [head] at converted
      cases found with
      | none =>
        obtain ⟨row,within,conversion⟩ := ih converted member
        exact ⟨row,.tail _ within,conversion⟩
      | some parameters =>
        cases later : step.converted rest with
        | error failure => simp [later,Except.map] at converted
        | ok others =>
          simp only [later,Except.map,Except.ok.injEq] at converted
          subst converted
          rcases List.mem_cons.mp member with rfl | member
          · exact ⟨first,.head _,head⟩
          · obtain ⟨row,within,conversion⟩ := ih later member
            exact ⟨row,.tail _ within,conversion⟩

theorem converted_of_each (each : ∀ row ∈ rows, ∃ found, step.convert row = .ok found) :
    ∃ made, step.converted rows = .ok made := by
  induction rows with
  | nil => exact ⟨[],rfl⟩
  | cons first rest ih =>
    obtain ⟨found,head⟩ := each first (.head _)
    obtain ⟨others,later⟩ := ih fun row member => each row (.tail _ member)
    cases found with
    | none => exact ⟨others,by simp only [Step.converted,head,later]⟩
    | some p => exact ⟨p :: others,by simp only [Step.converted,head,later]; rfl⟩

end Step

end Rows

section Plain

/-- The failure of a result that is one. -/
def failureOf {α : Type} : Except Failure α → Option Failure
  | .error failure => some failure
  | .ok _ => none

theorem failureOf_eq_none {result : Except Failure Unit} : failureOf result = none ↔ result = .ok () := by
  cases result <;> simp [failureOf]

/-- The failure of the first row that `f` fails on. -/
def firstFailure {α : Type} (f : Row → Except Failure α) (rows : List Row) : Option Failure :=
  rows.findSome? fun row => failureOf (f row)

theorem failureOf_mapM {α : Type} (f : Row → Except Failure α) (rows : List Row) :
    failureOf (rows.mapM f) = firstFailure f rows := by
  unfold firstFailure
  induction rows with
  | nil => rfl
  | cons row rest ih =>
    rw [List.mapM_cons,List.findSome?_cons,← ih]
    cases f row with
    | error failure => rfl
    | ok a => cases rest.mapM f <;> rfl

theorem firstFailure_eq_none {α : Type} {f : Row → Except Failure α} {rows : List Row} :
    firstFailure f rows = none ↔ ∀ row ∈ rows, ∃ a, f row = .ok a := by
  unfold firstFailure
  rw [List.findSome?_eq_none_iff]
  refine forall₂_congr fun row _ => ?_
  cases f row <;> simp [failureOf]

theorem failureOf_map {α β : Type} (f : α → β) (x : Except Failure α) :
    failureOf (x.map f) = failureOf x := by cases x <;> rfl

/-- All rooms of these rows, as parameters. -/
def plainRooms (options : Options) (rows : List Row) : Except Failure (List Parameters) :=
  rows.mapM fun row => (Room.ofRow row options.openRoomYears).map Room.parameters

/-- All adjustments of these rows, as parameters. -/
def plainAdjustments (rows : List Row) : Except Failure (List Parameters) :=
  rows.mapM fun row => (Adjustment.ofRow row).map Adjustment.parameters

/-- All events of these rows, as parameters; rows of other types make none. -/
def plainEvents (options : Options) (rows : List Row) : Except Failure (List Parameters) :=
  (rows.mapM fun row => Event.ofRow row options.agentLabel).map fun found =>
    found.filterMap fun event => event.map fun e => e.parameters options.pendingMarker

theorem Step.converted_of_map {step : Step} {α : Type} {f : Row → Except Failure α}
    {g : α → Option Parameters} (convert : ∀ row, step.convert row = (f row).map g)
    (rows : List Row) :
    step.converted rows = (rows.mapM f).map fun made => made.filterMap g := by
  rw [step.converted_eq,show step.convert = _ from funext convert,mapM_map]
  cases rows.mapM f with
  | error failure => rfl
  | ok made => simp [Except.map,List.filterMap_map]

theorem Step.rooms_converted (options : Options) (rows : List Row) :
    (Step.rooms options).converted rows = plainRooms options rows := by
  have convert (row : Row) : (Step.rooms options).convert row =
      (Room.ofRow row options.openRoomYears).map fun room => some room.parameters := by
    change (Room.ofRow row options.openRoomYears >>= fun room => pure (some room.parameters)) = _
    cases Room.ofRow row options.openRoomYears <;> rfl
  rw [Step.converted_of_map convert,plainRooms,mapM_map]
  simp

theorem Step.adjustments_converted (rows : List Row) :
    Step.adjustments.converted rows = plainAdjustments rows := by
  have convert (row : Row) : Step.adjustments.convert row =
      (Adjustment.ofRow row).map fun adjustment => some adjustment.parameters := by
    change (Adjustment.ofRow row >>= fun adjustment => pure (some adjustment.parameters)) = _
    cases Adjustment.ofRow row <;> rfl
  rw [Step.converted_of_map convert,plainAdjustments,mapM_map]
  simp

theorem Step.events_converted (options : Options) (watermark : Value) (rows : List Row) :
    (Step.events options watermark).converted rows = plainEvents options rows := by
  have convert (row : Row) : (Step.events options watermark).convert row =
      (Event.ofRow row options.agentLabel).map fun event =>
        event.map fun e => e.parameters options.pendingMarker := by
    change (Event.ofRow row options.agentLabel >>= fun event =>
      pure (event.map fun e => e.parameters options.pendingMarker)) = _
    cases Event.ofRow row options.agentLabel <;> rfl
  exact Step.converted_of_map convert rows

/-- The counts of a batch can be booked, unless more rows are reported than were read. -/
def Step.Fits (step : Step) : Prop :=
  ∀ read written : Nat, written ≤ read → Step.booked (step.tally read written) = .ok ()

theorem Step.booked_of_nonneg {counts : List (Counter × Int)}
    (nonneg : ∀ count ∈ counts, 0 ≤ count.2) : Step.booked counts = .ok () := by
  induction counts with
  | nil => rfl
  | cons count rest ih =>
    have head : ¬ count.2 < 0 := Int.not_lt.mpr (nonneg count (by simp))
    simp only [Step.booked,head,if_false]
    exact ih fun other member => nonneg other (List.mem_cons_of_mem count member)

theorem Step.rooms_fits (options : Options) : (Step.rooms options).Fits :=
  fun read written _ => Step.booked_of_nonneg (by simp [Step.rooms])

theorem Step.adjustments_fits : Step.adjustments.Fits := by
  intro read written fewer
  refine Step.booked_of_nonneg ?_
  simp only [Step.adjustments,List.mem_cons,List.not_mem_nil,or_false]
  rintro count (rfl | rfl | rfl) <;> simp only <;> omega

theorem Step.events_fits (options : Options) (watermark : Value) :
    (Step.events options watermark).Fits :=
  fun read written _ => Step.booked_of_nonneg (by simp [Step.events])

end Plain

section Fields

theorem bind_eq_ok {ε α β : Type} {x : Except ε α} {f : α → Except ε β} {b : β}
    (returned : x >>= f = .ok b) : ∃ a, x = .ok a ∧ f a = .ok b := by
  cases x with
  | error failure => cases returned
  | ok a => exact ⟨a,rfl,returned⟩

theorem Row.find?_of_require {row : Row} {name : String} {v : Value}
    (required : row.require name = .ok v) : row.find? name = some v := by
  unfold Row.require at required
  cases found : row.find? name with
  | none => simp [found] at required
  | some u => simpa [found] using required

theorem Room.ofRow_find? {row : Row} {years : Int} {room : Room}
    (made : Room.ofRow row years = .ok room) : row.find? "id" = some room.id := by
  unfold Room.ofRow at made
  split at made
  · cases made
  · obtain ⟨closed,_,made⟩ := bind_eq_ok made
    split at made
    · cases made
    · cases made
    · obtain ⟨id,required,made⟩ := bind_eq_ok made
      obtain ⟨audience,_,made⟩ := bind_eq_ok made
      obtain ⟨time,_,made⟩ := bind_eq_ok made
      obtain ⟨createdAt,_,made⟩ := bind_eq_ok made
      cases made
      exact Row.find?_of_require required

theorem Room.ofRow_id {row : Row} {years : Int} {room : Room}
    (made : Room.ofRow row years = .ok room) : row.get "id" = room.id := by
  rw [Row.get,Room.ofRow_find? made,Option.getD_some]

theorem Adjustment.ofRow_find? {row : Row} {adjustment : Adjustment}
    (made : Adjustment.ofRow row = .ok adjustment) : row.find? "id" = some adjustment.roomId := by
  unfold Adjustment.ofRow at made
  dsimp only at made
  split at made
  · obtain ⟨offset,_,made⟩ := bind_eq_ok made
    obtain ⟨roomId,required,made⟩ := bind_eq_ok made
    obtain ⟨startedAt,_,made⟩ := bind_eq_ok made
    obtain ⟨segments,_,made⟩ := bind_eq_ok made
    cases made
    exact Row.find?_of_require required
  · cases made

theorem Adjustment.ofRow_roomId {row : Row} {adjustment : Adjustment}
    (made : Adjustment.ofRow row = .ok adjustment) : row.get "id" = adjustment.roomId := by
  rw [Row.get,Adjustment.ofRow_find? made,Option.getD_some]

theorem Event.ofRow_fields {row : Row} {agentLabel : Value} {event : Event}
    (made : Event.ofRow row agentLabel = .ok (some event)) :
    event.id = row.get "id" ∧ event.createdAt = row.get "created_at" := by
  obtain ⟨type,_,made⟩ := bind_eq_ok made
  cases type with
  | none => cases made
  | some type =>
    dsimp only at made
    split at made
    · cases made
    · obtain ⟨offset,_,made⟩ := bind_eq_ok made
      obtain ⟨content,_,made⟩ := bind_eq_ok made
      cases made
      exact ⟨rfl,rfl⟩

theorem Event.ofRow_eligible {row : Row} {agentLabel : Value} {found : Option Event}
    {type : EventType} (made : Event.ofRow row agentLabel = .ok found)
    (eligible : EventType.ofValue? (row.get "type") = .ok (some type)) :
    ∃ event, found = some event := by
  obtain ⟨type',typed,made⟩ := bind_eq_ok made
  rw [eligible] at typed
  cases typed
  dsimp only at made
  split at made
  · cases made
  · obtain ⟨offset,_,made⟩ := bind_eq_ok made
    obtain ⟨content,_,made⟩ := bind_eq_ok made
    cases made
    exact ⟨_,rfl⟩

end Fields

end RoomTransfer
