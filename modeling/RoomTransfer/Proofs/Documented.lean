import RoomTransfer.Proofs.Classified
import RoomTransfer.Proofs.Columns
import RoomTransfer.Proofs.PlainTransfer

/-! The failures that leave a run over decent databases: those of the transfer and interrupts,
which the state tells of, and one more that it does not. A room that was never closed may stay open
beyond the last year of the calendar, and nobody books that. -/
namespace RoomTransfer

open Store

def answersMoment : Value → Bool
  | .null => true
  | .object fields => match Value.field? fields "watermark" with
    | some .null | some (.stamp _) => true
    | _ => false
  | _ => false

theorem answersMoment_iff {one : Value} : answersMoment one = true ↔ AnswersMoment one := by
  constructor
  · intro answers
    unfold answersMoment at answers
    split at answers
    · exact .inl rfl
    next fields =>
      split at answers
      next found => exact .inr ⟨fields,_,rfl,found,.inl rfl⟩
      next t found => exact .inr ⟨fields,_,rfl,found,.inr ⟨t,rfl⟩⟩
      · cases answers
    · cases answers
  · rintro (rfl | ⟨fields,v,rfl,found,rfl | ⟨t,rfl⟩⟩)
    · rfl
    · simp [answersMoment,found]
    · simp [answersMoment,found]

instance (one : Value) : Decidable (AnswersMoment one) := decidable_of_iff _ answersMoment_iff

/-- The columns that a query to the legacy database selects. -/
def selectedColumns (sql : String) : List (String × ColumnType) :=
  if sql = (Step.rooms .default).query then roomColumns
  else if sql = Step.adjustments.query then streamColumns
  else eventColumns

/-- Whether a dealing is one with a decent database. It fails in its own way or because the user
interrupts, serves rows of the right types, tells a moment for the watermark, and reports of an
insert no more rows than it was given. -/
def Store.isDecent : Dealing → Bool
  | (_,.error fault) => fault.failure.isDatabase || fault.failure.isInterrupt
  | (request,.ok reply) => match request with
    | .execute .legacy _ sql _ => ∀ row ∈ reply.rows, row.Typed (selectedColumns sql)
    | .execute .target _ _ _ => AnswersMoment reply.one
    | .insert _ rows => reply.count.all (· ≤ (rows.length : Int))
    | _ => true

/-- Some room was served that stays open beyond the calendar, and this is the failure. -/
def OutOfCalendar (options : Options) (made : List Dealing) (failure : Failure) : Prop :=
  ∃ reply row, (.execute .legacy "legacy_rooms" (Step.rooms options).query .null,.ok reply) ∈ made ∧
    row ∈ reply.rows ∧ BeyondCalendar options.openRoomYears row failure

section Lapses

variable {options : Options}

theorem Insert.written_fits {rows : Nat} {count : Option Int}
    (fits : count.all (· ≤ (rows : Int)) = true) : Insert.written rows count ≤ rows := by
  cases count with
  | none => exact Nat.le_refl _
  | some n =>
    have bound : n ≤ rows := by simpa using fits
    simp only [Insert.written]
    split <;> omega

theorem events_selected (mode : ModeOption) :
    selectedColumns (Step.eventsQuery mode) = eventColumns := by
  have modes : ∀ mode ∈ WatermarkMode.all,
      selectedColumns (Step.eventsQuery (.mode mode)) = eventColumns := by decide +kernel
  rcases mode with (_ | _) | _
  · exact modes .strict (by decide)
  · exact modes .inclusive (by decide)
  · exact modes .strict (by decide)

/-- What a run over decent databases lapses into by itself is booked, or out of the calendar. -/
theorem documented_lapses (options : Options)
    (mode : ∃ mode, options.watermarkMode = .mode mode) :
    Lapses options fun made failure => (∀ d ∈ made, isDecent d = true) →
      failure.isOwn = true ∨ OutOfCalendar options made failure := by
  have counted {step : Step} (fits : step.Fits) (read : Nat) (rows : List Parameters)
      (reply : Reply) (failure : Failure) (fewer : rows.length ≤ read)
      (failed : Step.booked (step.tally read (Insert.written rows.length reply.count)) =
        .error failure)
      (decent : ∀ d ∈ [(Request.insert step.insert.sql rows,Except.ok reply)],
        isDecent d = true) : False := by
    have few := Insert.written_fits (decent _ (.head _))
    rw [fits read _ (Nat.le_trans few fewer)] at failed
    cases failed
  have typed {step : Step} {reply : Reply} (decent : ∀ d ∈ [(Request.execute .legacy step.cursor
      step.query step.parameters,(Except.ok reply : Except Fault Reply))], isDecent d = true) :
      ∀ row ∈ reply.rows, row.Typed (selectedColumns step.query) :=
    of_decide_eq_true (decent _ (.head _))
  constructor
  case lasting =>
    intro made more failure within lapsed decent
    rcases lapsed fun d member => decent d (within member) with own | ⟨reply,row,dealt,rest⟩
    · exact .inl own
    · exact .inr ⟨reply,row,within dealt,rest⟩
  case rooms =>
    refine ⟨fun reply row failure member failed decent => ?_,fun read rows reply failure fewer failed
      decent => (counted (Step.rooms_fits options) read rows reply failure fewer failed decent).elim⟩
    have columns : row.Typed roomColumns := typed decent row member
    exact (Step.rooms_typed options columns failure failed).imp_right fun beyond =>
      ⟨reply,row,.head _,member,beyond⟩
  case adjustments =>
    refine ⟨fun reply row failure member failed decent => .inl ?_,fun read rows reply failure fewer
      failed decent => (counted Step.adjustments_fits read rows reply failure fewer failed decent).elim⟩
    have columns : row.Typed streamColumns := typed decent row member
    exact Step.adjustments_typed columns failure failed
  case watermark =>
    intro reply failure failed decent
    obtain ⟨t,found⟩ := AnswersMoment.found (of_decide_eq_true (decent _ (.head _)))
    rw [found] at failed
    cases failed
  case message =>
    intro reply watermark failure read failed decent
    obtain ⟨t,found⟩ := AnswersMoment.found (of_decide_eq_true (decent _ (.head _)))
    obtain ⟨mode,member⟩ := mode
    rw [found] at read
    cases read
    rw [member] at failed
    cases failed
  case events =>
    intro watermark
    refine ⟨fun reply row failure member failed decent => .inl ?_,fun read rows reply failure fewer
      failed decent => (counted (Step.events_fits options watermark) read rows reply failure fewer failed
        decent).elim⟩
    have columns := typed decent row member
    rw [show (Step.events options watermark).query = Step.eventsQuery options.watermarkMode from rfl,
      events_selected] at columns
    exact Step.events_typed options watermark columns failure failed

end Lapses

section Kinds

variable {failure : Failure}

theorem OutOfCalendar.unbooked {options : Options} {made : List Dealing}
    (beyond : OutOfCalendar options made failure) : failure.isBooked = false := by
  obtain ⟨_,_,_,_,_,t,_,_,failed⟩ := beyond
  unfold shiftYears at failed
  dsimp only at failed
  split at failed
  · cases failed
    rfl
  · split at failed
    · cases failed
    · cases failed
      rfl

/-- What is booked is raised as a failure of the transfer or as an interrupt. -/
theorem Failure.classified_documented (booked : failure.isBooked = true) :
    (failure.classified .transactionFailed).isOwn = true ∨
      (failure.classified .transactionFailed).isInterrupt = true := by
  cases database : failure.isDatabase with
  | true =>
    rw [Failure.classified,if_pos database]
    exact .inl rfl
  | false =>
    rw [Failure.classified,if_neg (Bool.eq_false_iff.mp database)]
    simpa [isBooked,database] using booked

theorem Failure.foreign_of_isInterrupt (interrupt : failure.isInterrupt = true) :
    failure.isDatabase = false ∧ failure.endsIteration = false := by
  have kind : failure.kind = .interrupt := of_decide_eq_true interrupt
  simp [isDatabase,endsIteration,kind,FailureKind.isDatabase,FailureKind.endsIteration]

/-- A decent refusal is handed on as something that is booked. -/
theorem Store.Request.handed_booked (location : String) (request : Request)
    (decent : failure.isDatabase = true ∨ failure.isInterrupt = true) :
    (request.handed location failure).isBooked = true := by
  rcases decent with database | interrupt
  · exact (handed_verdict location request database).1
  · obtain ⟨foreign,going⟩ := Failure.foreign_of_isInterrupt interrupt
    have same : request.handed location failure = failure := by
      rcases request with ⟨_ | _,_,_⟩ | ⟨_ | _,_,_,_⟩ | _ | _ | _ | _ | _ <;>
        simp [handed,Failure.classified,Link.fetchFailure,foreign,going]
    rw [same]
    simp [Failure.isBooked,interrupt]

end Kinds

namespace Migration

variable {σ : Type} [Database σ]

/-- A run over decent databases fails with what is documented and booked, or because a room that
was never closed stays open beyond the calendar, which is raised without a word. -/
theorem documented_failures (settings : Settings) (w : World σ) (ready : Ready settings)
    (clock : Universal w.clock) (mode : ∃ mode, settings.options.watermarkMode = .mode mode)
    (decent : ∀ d ∈ dealings settings w, isDecent d = true) {failure : Failure}
    (raised : (migrate settings w).result = .error failure) :
    ((failure.isOwn = true ∨ failure.isInterrupt = true) ∧ Booked failure (migrate settings w)) ∨
      (OutOfCalendar settings.options (dealings settings w) failure ∧
        Unbooked failure (migrate settings w)) := by
  obtain ⟨body,closes,left,dealt,whole⟩ :=
    dealings_conclude (w := w) ready (documented_lapses settings.options mode)
  rw [dealt] at decent ⊢
  have refusal {d : Request × Fault} (member : d ∈ refusals (body ++ closes)) :
      d.2.failure.isDatabase = true ∨ d.2.failure.isInterrupt = true := by
    simpa [isDecent] using decent _ (mem_refusals.mp member)
  cases result : (sessionPassage settings w.linkOpen w.state.dryRun w.stores).result with
  | ok _ =>
    rw [migrate_returned ready clock result] at raised
    cases raised
  | error cause =>
    -- Whatever is booked is booked under the name that it is raised by.
    have documented (booked : cause.isBooked = true) :
        (failure.isOwn = true ∨ failure.isInterrupt = true) ∧ Booked failure (migrate settings w) := by
      have settled := migrate_booked ready clock result booked
      have same : cause.classified .transactionFailed = failure := by
        have told := settled.raised.symm.trans raised
        exact Except.error.inj told
      rw [same] at settled
      exact ⟨same ▸ Failure.classified_documented booked,settled⟩
    rcases whole.failed cause result with rfl | ⟨close,member,rfl⟩
    · rcases whole.account with ⟨_,lapsed⟩ | ⟨request,fault,refused,failed⟩
      · rcases lapsed cause rfl fun d member => decent d (List.mem_append_left _ member) with
          own | ⟨reply,row,served,inside,beyond⟩
        · exact .inl (documented (by simp [Failure.isBooked,own]))
        · have calendar : OutOfCalendar settings.options (body ++ closes) cause :=
            ⟨reply,row,List.mem_append_left _ served,inside,beyond⟩
          have settled := migrate_unbooked ready clock result calendar.unbooked
          have same : cause = failure := Except.error.inj (settled.raised.symm.trans raised)
          exact .inr ⟨same ▸ calendar,same ▸ settled⟩
      · cases failed
        refine .inl (documented (Request.handed_booked _ request (refusal (d := (request,fault)) ?_)))
        rw [refusals_append,refused]
        exact .head _
    · refine .inl (documented ?_)
      rcases refusal (d := close) (by rw [refusals_append]; exact List.mem_append_right _ member) with
        database | interrupt
      · simp [Failure.isBooked,database]
      · simp [Failure.isBooked,interrupt]

/-- A room that was opened so late that it stays open beyond the calendar. -/
def endlessRoom : World Scripts where
  stores := {
    legacy := {
      rows := [("legacy_rooms",[[("id",.uuid ⟨1⟩),("created_at",.stamp .first),
        ("opened_at",.stamp { Timestamp.first with
          date := { Date.first with year := 9995, year_mem := by decide, day_mem := by decide } }),
        ("closed_at",.null),("audience",.text "a"),("parent_id",.null)]])] } }
  clock := [Timestamp.first]

theorem endless_room_decent : ∀ d ∈ dealings connected endlessRoom, isDecent d = true := by
  decide +kernel

theorem endless_room_raised : ∃ failure, (migrate connected endlessRoom).result = .error failure ∧
    failure.isOwn = false ∧ failure.isInterrupt = false := by
  have kinds : (failureOf (migrate connected endlessRoom).result).map
      (fun failure => (failure.isOwn,failure.isInterrupt)) = some (false,false) := by decide +kernel
  cases result : (migrate connected endlessRoom).result with
  | ok _ => simp [result,failureOf] at kinds
  | error failure => exact ⟨failure,rfl,by simpa [result,failureOf] using kinds⟩

theorem endless_room_unreported : ∃ failure,
    OutOfCalendar connected.options (dealings connected endlessRoom) failure ∧
      Unbooked failure (migrate connected endlessRoom) := by
  obtain ⟨failure,raised,foreign,going⟩ := endless_room_raised
  rcases documented_failures connected endlessRoom ⟨rfl,rfl⟩
    ⟨by simp [endlessRoom],by simp [endlessRoom,Timestamp.first]⟩ ⟨.strict,rfl⟩ endless_room_decent
    raised with ⟨own | interrupt,_⟩ | beyond
  · rw [foreign] at own
    cases own
  · rw [going] at interrupt
    cases interrupt
  · exact ⟨failure,beyond⟩

/-- Not every failure that leaves a run over decent databases is documented and told. -/
theorem endless_room_undocumented : ¬ ∀ (settings : Settings) (w : World Scripts), Ready settings →
    Universal w.clock → (∃ mode, settings.options.watermarkMode = .mode mode) →
      (∀ d ∈ dealings settings w, isDecent d = true) → ∀ failure,
        (migrate settings w).result = .error failure →
          (failure.isOwn = true ∨ failure.isInterrupt = true) ∧
            (migrate settings w).world.state.error = .text failure.message ∧
              ∃ t, (migrate settings w).world.state.finishedAt = .stamp t := by
  intro documented
  obtain ⟨failure,raised,foreign,going⟩ := endless_room_raised
  obtain ⟨kind,_⟩ := documented connected endlessRoom ⟨rfl,rfl⟩
    ⟨by simp [endlessRoom],by simp [endlessRoom,Timestamp.first]⟩ ⟨.strict,rfl⟩ endless_room_decent
    failure raised
  rw [foreign,going] at kind
  exact kind.elim Bool.false_ne_true Bool.false_ne_true

end Migration

end RoomTransfer
