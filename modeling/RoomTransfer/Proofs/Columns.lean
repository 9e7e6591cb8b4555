import RoomTransfer.Proofs.RoomTimes

/-! Rows that hold in every column a value of its type. Nothing made of such a row fails but in the
name of the transfer, except that a room which was never closed may stay open beyond the last year
of the calendar. -/
namespace RoomTransfer

inductive ColumnType where
  | uuid
  | text
  | moment
  | integer
  | json
  deriving DecidableEq, Repr

/-- Whether a column may hold a value. Any may hold null, and moments tell their offset. -/
def ColumnType.admits : ColumnType → Value → Bool
  | _,.null => true
  | .uuid,.uuid _ => true
  | .text,.text _ => true
  | .moment,.stamp t => t.offset.isSome
  | .integer,.int _ => true
  | .json,v => (Json.refusal? true v).isNone
  | _,_ => false

/-- The columns that are selected of a room, of a room with a stream, and of an event. -/
def roomColumns : List (String × ColumnType) :=
  [("id",.uuid),("created_at",.moment),("opened_at",.moment),("closed_at",.moment),
    ("audience",.text),("parent_id",.uuid)]

def streamColumns : List (String × ColumnType) :=
  [("id",.uuid),("opened_at",.moment),("closed_at",.moment),("stream",.json)]

def eventColumns : List (String × ColumnType) :=
  [("id",.uuid),("type",.text),("room_id",.uuid),("created_at",.moment),("data",.json),
    ("audience",.text),("account_id",.text),("offset",.integer)]

/-- The row has each of these columns, with a value of its type. -/
def Row.Typed (columns : List (String × ColumnType)) (row : Row) : Prop :=
  ∀ column ∈ columns, (row.find? column.1).any column.2.admits = true

instance (columns : List (String × ColumnType)) (row : Row) : Decidable (row.Typed columns) :=
  inferInstanceAs (Decidable (∀ column ∈ columns, _))

section Columns

variable {columns : List (String × ColumnType)} {row : Row}

theorem Row.Typed.admits (typed : row.Typed columns) (name : String) (type : ColumnType)
    (column : (name,type) ∈ columns) :
    type.admits (row.get name) = true := by
  obtain ⟨v,found,admitted⟩ := (Option.any_eq_true _ _).mp (typed _ column)
  rw [Row.get,found]
  exact admitted

theorem Row.Typed.present (typed : row.Typed columns) (name : String) (type : ColumnType)
    (column : (name,type) ∈ columns) : (row.find? name).isSome := by
  obtain ⟨v,found,_⟩ := (Option.any_eq_true _ _).mp (typed _ column)
  exact Option.isSome_iff_exists.mpr ⟨v,found⟩

theorem ColumnType.moment_cases {v : Value} (admitted : moment.admits v = true) :
    v = .null ∨ ∃ t, v = .stamp t ∧ t.offset.isSome = true := by
  cases v with
  | null => exact .inl rfl
  | stamp t => exact .inr ⟨t,rfl,admitted⟩
  | _ => cases admitted

theorem ColumnType.text_cases {v : Value} (admitted : text.admits v = true) :
    v = .null ∨ ∃ s, v = .text s := by
  cases v with
  | null => exact .inl rfl
  | text s => exact .inr ⟨s,rfl⟩
  | _ => cases admitted

end Columns

/-- Shifting on fails only beyond the last year, and keeps the offset where it succeeds. -/
theorem shiftYears_stamp (t : Timestamp) (years : Nat) :
    (∃ u, shiftYears (.stamp t) years = .ok (.stamp u) ∧ u.offset = t.offset) ∨
      (9999 < t.date.year + years ∧ ∃ failure, shiftYears (.stamp t) years = .error failure) := by
  by_cases beyond : 9999 < t.date.year + years
  · refine .inr ⟨beyond,?_⟩
    have none : Date.of (t.date.year + years) t.date.month t.date.day =
        .error (.year (t.date.year + years)) := by
      unfold Date.of
      rw [dif_neg (by omega)]
    unfold shiftYears
    simp only [Timestamp.addYears,Date.addYears,none]
    split <;> exact ⟨_,rfl⟩
  · obtain ⟨u,shifted,later⟩ := shiftYears_anniversary (t := t) (Nat.le_of_not_lt beyond)
    exact .inl ⟨u,shifted,later.offset⟩

section Records

/-- A failure of the transfer itself. -/
abbrev Own {α : Type} (result : Except Failure α) : Prop :=
  FailsOnly (fun failure => failure.isOwn = true) result

/-- What fails is to keep a room open that was never closed: its years are beyond the calendar. -/
structure BeyondCalendar (years : Nat) (row : Row) (failure : Failure) : Prop where
  unclosed : row.get "closed_at" = .null
  beyond : ∃ t, row.get "opened_at" = .stamp t ∧ 9999 < t.date.year + years ∧
    shiftYears (.stamp t) years = .error failure

theorem Room.ofRow_typed {row : Row} {years : Nat} (typed : row.Typed roomColumns) :
    FailsOnly (fun failure => failure.isOwn = true ∨ BeyondCalendar years row failure)
      (Room.ofRow row years) := by
  rcases ColumnType.moment_cases (typed.admits "opened_at" .moment (by simp [roomColumns])) with
    opened | ⟨t,opened,aware⟩
  · unfold Room.ofRow
    rw [opened]
    exact .error (.inl rfl)
  -- A room that has both its times is made, or they are the wrong way round.
  have timed {u : Timestamp} (ending : Room.closeTime row (.stamp t) years = .ok (.stamp u))
      (known : u.offset.isSome = true) : Own (Room.ofRow row years) := by
    have described : row.Described := ⟨typed.present "id" .uuid (by simp [roomColumns]),
      typed.present "audience" .text (by simp [roomColumns]),
      typed.present "created_at" .moment (by simp [roomColumns])⟩
    rw [ofRow_timed described opened ending (known.trans aware.symm)]
    split
    · exact .error rfl
    · exact .ok _
  rcases ColumnType.moment_cases (typed.admits "closed_at" .moment (by simp [roomColumns])) with
    closed | ⟨u,closed,known⟩
  · rcases shiftYears_stamp t years with ⟨u,shifted,same⟩ | ⟨beyond,failure,failed⟩
    · have ending : Room.closeTime row (.stamp t) years = .ok (.stamp u) := by
        rw [closeTime,closed,← shifted]
      exact (timed ending (by rw [same,aware])).mono fun _ => .inl
    · have ending : Room.closeTime row (.stamp t) years = .error failure := by
        rw [closeTime,closed,← failed]
      unfold Room.ofRow
      rw [opened]
      simp only [ending]
      exact .error (.inr ⟨closed,t,opened,beyond,failed⟩)
  · have ending : Room.closeTime row (.stamp t) years = .ok (.stamp u) := by
      rw [closeTime,closed]
    exact (timed ending known).mono fun _ => .inl

theorem Adjustment.ofRow_typed {row : Row} (typed : row.Typed streamColumns) :
    Own (Adjustment.ofRow row) := by
  refine Adjustment.ofRow_fails (fun _ own => own) ?_ ?_
  · rw [Row.require_present (typed.present "id" .uuid (by simp [streamColumns]))]
    exact .ok _
  · rw [Row.require_present (typed.present "opened_at" .moment (by simp [streamColumns]))]
    exact .ok _

theorem Event.ofRow_typed {row : Row} (typed : row.Typed eventColumns) (agentLabel : Value) :
    Own (Event.ofRow row agentLabel) := by
  refine Event.ofRow_fails (fun _ own => own) ?_ fun unwritable => absurd ?_ unwritable
  · rcases ColumnType.text_cases (typed.admits "type" .text (by simp [eventColumns])) with
      given | ⟨s,given⟩
    · rw [given]
      exact .ok _
    · rw [given]
      exact .ok _
  · have writable := typed.admits "data" .json (by simp [eventColumns])
    cases given : row.get "data" with
    | null => rfl
    | _ =>
      rw [given] at writable
      exact Option.isNone_iff_eq_none.mp writable

end Records

section Steps

variable {row : Row}

theorem Step.rooms_typed (options : Options) (typed : row.Typed roomColumns) :
    FailsOnly (fun failure => failure.isOwn = true ∨ BeyondCalendar options.openRoomYears row failure)
      ((Step.rooms options).convert row) :=
  (Room.ofRow_typed typed).bind fun _ => .ok _

theorem Step.adjustments_typed (typed : row.Typed streamColumns) :
    Own (Step.adjustments.convert row) :=
  (Adjustment.ofRow_typed typed).bind fun _ => .ok _

theorem Step.events_typed (options : Options) (watermark : Value) (typed : row.Typed eventColumns) :
    Own ((Step.events options watermark).convert row) :=
  (Event.ofRow_typed typed _).bind fun _ => .ok _

end Steps

end RoomTransfer
