import RoomTransfer.Proofs.Conversion
import RoomTransfer.Proofs.SmoothRun
import RoomTransfer.Store.Script

/-! The transfer as a plain map. Over scripted databases that never fail, the batches of a cursor
make no difference: what is written is what the rows of the three cursors are mapped to, and what
a run fails with is what the first row fails with that cannot be mapped. -/
namespace RoomTransfer

open Store

namespace Store

/-- Both databases scripted without failures: one serves these rows and the other gives this answer
to the watermark query. Only the counts that are still to be reported may differ. -/
structure Scripts.Plain (legacy : Script) (one : Value) (s : Scripts) : Prop where
  legacy : s.legacy = legacy
  next : s.next = none
  one : s.target.one = one
  traps : s.target.traps = []

theorem Script.answer_calm {s : Script} (calm : s.traps = []) (request : Request) :
    s.answer request = match request with
      | .execute _ cursor _ _ => (.ok { rows := s.rowsOf cursor, one := s.one },s)
      | .insert _ rows => (.ok { count := (s.report rows.length).1 },(s.report rows.length).2)
      | _ => (.ok {},s) := by
  obtain ⟨rows,one,counts,traps⟩ := s
  obtain rfl := calm
  cases request <;> rfl

theorem Script.report_kept (s : Script) (rows : Nat) :
    (s.report rows).2 = { s with counts := s.counts.drop 1 } := by
  unfold Script.report
  obtain ⟨_,_,counts,_⟩ := s
  cases counts <;> rfl

namespace Scripts

variable {legacy : Script} {one : Value} {s : Scripts}

/-- The databases after `n` inserts. -/
def after (n : Nat) (s : Scripts) : Scripts :=
  { s with target := { s.target with counts := s.target.counts.drop n } }

theorem after_after (n m : Nat) (s : Scripts) : (s.after n).after m = s.after (n + m) := by
  simp [after,List.drop_drop]

theorem Plain.after (plain : Plain legacy one s) (n : Nat) : Plain legacy one (s.after n) :=
  ⟨plain.legacy,plain.next,plain.one,plain.traps⟩

theorem answer_insert (plain : Plain legacy one s) (sql : String) (rows : List Parameters) :
    Database.answer (.insert sql rows) s =
      (.ok { count := (s.target.report rows.length).1 },s.after 1) := by
  change ((s.target.answer (.insert sql rows)).1,
    { s with target := (s.target.answer (.insert sql rows)).2 }) = _
  rw [Script.answer_calm plain.traps]
  simp only [Script.report_kept]
  rfl

theorem answer_other (plain : Plain legacy one s) (quiet : legacy.traps = []) (request : Request)
    (other : ∀ sql rows, request ≠ .insert sql rows) :
    ∃ reply, Database.answer request s = (.ok reply,s) := by
  obtain ⟨rfl,next,_,traps⟩ := plain
  obtain ⟨script,target,set⟩ := s
  obtain rfl : set = none := next
  have calm (script : Script) (quiet : script.traps = []) :
      ∃ reply, script.answer request = (.ok reply,script) := by
    rw [Script.answer_calm quiet]
    cases request with
    | insert sql rows => exact absurd rfl (other sql rows)
    | _ => exact ⟨_,rfl⟩
  obtain ⟨served,answered⟩ := calm script quiet
  obtain ⟨reply,replied⟩ := calm target traps
  change ∃ reply, Scripts.answer request ⟨script,target,none⟩ = (.ok reply,⟨script,target,none⟩)
  cases side : request.side with
  | target =>
    refine ⟨reply,?_⟩
    simp only [answer,side,replied]
  | legacy =>
    refine ⟨served,?_⟩
    cases request <;> simp_all only [answer,turn]

theorem plain_smooth (quiet : legacy.traps = []) : Smooth (Plain legacy one) where
  still s plain request still :=
    answer_other plain quiet request fun _ _ same => by rw [same] at still; cases still
  insert s plain sql rows := by
    rw [answer_insert plain]
    exact plain.after 1
  refusal s plain sql rows fault refused := by
    rw [answer_insert plain] at refused
    cases refused
  transaction s plain request either := by
    have other : ∀ sql rows, request ≠ .insert sql rows := by
      rintro sql rows rfl
      rcases either with same | same <;> cases same
    obtain ⟨reply,answered⟩ := answer_other plain quiet request other
    exact ⟨reply,s,answered,plain⟩

end Scripts

end Store

/-- No insert is reported to have written more rows than it was given. -/
def CountsFit (counts : List (Option Int)) (writes : List (String × List Parameters)) : Prop :=
  ∀ pair ∈ counts.zip writes, ∀ n, pair.1 = some n → n ≤ pair.2.2.length

theorem CountsFit.append {counts : List (Option Int)} {first second : List (String × List Parameters)}
    (fit : CountsFit counts (first ++ second)) :
    CountsFit counts first ∧ CountsFit (counts.drop first.length) second := by
  induction first generalizing counts with
  | nil => exact ⟨by simp [CountsFit],fit⟩
  | cons write rest ih =>
    cases counts with
    | nil => exact ⟨by simp [CountsFit],by simp [CountsFit]⟩
    | cons count counts =>
      have later : CountsFit counts (rest ++ second) := fun pair member =>
        fit pair (by simp only [List.cons_append,List.zip_cons_cons]; exact .tail _ member)
      obtain ⟨one,two⟩ := ih later
      refine ⟨?_,two⟩
      intro pair member
      rcases List.mem_cons.mp member with rfl | member
      · exact fit _ (by simp)
      · exact one pair member

/-- What a step does to scripted databases: it uses up a count for each insert, fails where the
rows cannot be converted, and inserts what they are converted to. -/
structure Carries (sql : String) (made : Except Failure (List Parameters)) (s : Scripts)
    (t : Traffic Scripts Nat) : Prop where
  stores : t.stores = s.after t.writes.length
  failure : failureOf t.result = failureOf made
  rows : ∀ rows, made = .ok rows → t.writes.flatMap Prod.snd = rows
  sql : ∀ write ∈ t.writes, write.1 = sql

section Steps

variable {legacy : Script} {one : Value} {s : Scripts}

theorem written_le {rows : Nat} {s : Script} {write : String × List Parameters}
    (length : write.2.length = rows) (fit : CountsFit s.counts [write]) :
    Insert.written rows (s.report rows).1 ≤ rows := by
  unfold Script.report
  cases found : s.counts with
  | nil => simp [Insert.written]
  | cons count rest =>
    cases count with
    | none => simp [Insert.written]
    | some n =>
      have small : n ≤ rows := by
        rw [← length]
        exact fit (some n,write) (by simp [found]) n rfl
      simp only [Insert.written]
      split <;> omega

theorem pourBatch_carries (plain : Scripts.Plain legacy one s) (step : Step) (fits : step.Fits)
    (batch : List Row) (fit : CountsFit s.target.counts (step.pourBatch batch s).writes) :
    Carries step.insert.sql (step.converted batch) s (step.pourBatch batch s) := by
  unfold Step.pourBatch at fit ⊢
  cases conversion : step.converted batch with
  | error failure => exact ⟨rfl,rfl,by simp,by simp [Traffic.ofExcept,Traffic.bind]⟩
  | ok rows =>
    have shorter := step.converted_length conversion
    rw [conversion] at fit
    cases rows with
    | nil =>
      have booked := fits batch.length 0 (Nat.zero_le _)
      simp only [Traffic.ofExcept,Insert.put,Traffic.bind,Traffic.pure,booked]
      exact ⟨rfl,rfl,fun _ made => Except.ok.inj made,by simp⟩
    | cons row rest =>
      have put : step.insert.put (row :: rest) s =
          ⟨.ok (Insert.written (row :: rest).length (s.target.report (row :: rest).length).1),
            s.after 1,[(step.insert.sql,row :: rest)]⟩ := by
        unfold Insert.put
        rw [Scripts.answer_insert plain]
      have one : CountsFit s.target.counts [(step.insert.sql,row :: rest)] := by
        simp only [Traffic.ofExcept,put,Traffic.bind] at fit
        have whole : CountsFit s.target.counts ([(step.insert.sql,row :: rest)] ++ _) := fit
        exact whole.append.1
      have booked := fits batch.length _ (Nat.le_trans (written_le rfl one) shorter)
      simp only [Traffic.ofExcept,put,Traffic.bind,booked,Traffic.pure]
      exact ⟨rfl,rfl,by simp,by simp⟩

/-- One part after another: the second starts with the counts that the first has left. -/
theorem Carries.bind {sql : String} {first second : Except Failure (List Parameters)}
    {t : Traffic Scripts Nat} {next : Nat → Scripts → Traffic Scripts Nat}
    (fit : CountsFit s.target.counts (t.bind next).writes)
    (carried : CountsFit s.target.counts t.writes → Carries sql first s t)
    (rest : ∀ n, CountsFit t.stores.target.counts (next n t.stores).writes →
      Carries sql second t.stores (next n t.stores)) :
    Carries sql (first.bind fun rows => second.map (rows ++ ·)) s (t.bind next) := by
  obtain ⟨result,stores,writes⟩ := t
  cases result with
  | error failure =>
    obtain ⟨stores,failed,_,sql⟩ := carried fit
    cases first with
    | ok rows => cases failed
    | error cause => exact ⟨stores,failed,fun _ made => (by cases made),sql⟩
  | ok n =>
    -- The first part has used up its counts, and the others are for the second.
    obtain ⟨one,two⟩ := fit.append
    obtain ⟨left,failed,rows,sql⟩ := carried one
    cases first with
    | error cause => cases failed
    | ok made =>
      obtain rfl : stores = s.after writes.length := left
      obtain ⟨left',failed',rows',sql'⟩ := rest n two
      refine ⟨?_,?_,?_,?_⟩
      · change (next n (s.after writes.length)).stores = _
        rw [left',Scripts.after_after]
        simp [Traffic.bind]
      · exact failed'.trans (failureOf_map _ second).symm
      · intro all whole
        cases second with
        | error cause => cases whole
        | ok others =>
          obtain rfl : made ++ others = all := Except.ok.inj whole
          have front : writes.flatMap Prod.snd = made := rows made rfl
          simp only [Traffic.bind,List.flatMap_append]
          rw [front,rows' others rfl]
      · intro write member
        rcases List.mem_append.mp member with early | late
        · exact sql write early
        · exact sql' write late

theorem pour_carries (plain : Scripts.Plain legacy one s) (quiet : legacy.traps = [])
    (step : Step) (fits : step.Fits) (batches : List (List Row)) (written : Nat)
    (fit : CountsFit s.target.counts (step.pour written batches s).writes) :
    Carries step.insert.sql (step.converted batches.flatten) s (step.pour written batches s) := by
  induction batches generalizing written s with
  | nil => exact ⟨rfl,rfl,fun _ made => Except.ok.inj made,by simp [Step.pour,Traffic.pure]⟩
  | cons batch rest ih =>
    have kept := step.pourBatch_holds (Scripts.plain_smooth quiet).insert batch plain
    rw [List.flatten_cons,step.converted_append]
    exact Carries.bind fit (pourBatch_carries plain step fits batch) fun n fit' =>
      ih kept (written + n) fit'

theorem served_plain (plain : Scripts.Plain legacy one s) (quiet : legacy.traps = [])
    (step : Step) : step.served s = legacy.rowsOf step.cursor := by
  obtain ⟨rfl,_,_,_⟩ := plain
  have answered : Database.answer (.execute .legacy step.cursor step.query step.parameters) s =
      ((s.legacy.answer (.execute .legacy step.cursor step.query step.parameters)).1,{ s with
        legacy := (s.legacy.answer (.execute .legacy step.cursor step.query step.parameters)).2 }) := rfl
  unfold Step.served replyTo
  rw [answered,Script.answer_calm quiet]

/-- The batches of a step make no difference. -/
theorem step_carries (plain : Scripts.Plain legacy one s) (quiet : legacy.traps = [])
    (step : Step) (fits : step.Fits) (options : Options)
    (fit : CountsFit s.target.counts (step.traffic options s).writes) :
    Carries step.insert.sql (step.converted (legacy.rowsOf step.cursor)) s
      (step.traffic options s) := by
  have carried := pour_carries plain quiet step fits _ 0 fit
  rw [batches_flatten options.batchSize_pos] at carried
  rw [served_plain plain quiet] at carried
  unfold Step.traffic
  rw [served_plain plain quiet]
  exact carried

theorem watermark_plain (plain : Scripts.Plain legacy one s) : foundWatermark s = watermarkOf one := by
  obtain ⟨_,_,rfl,traps⟩ := plain
  have answered : Database.answer (.execute .target "" watermarkQuery .null) s =
      ((s.target.answer (.execute .target "" watermarkQuery .null)).1,
        { s with target := (s.target.answer (.execute .target "" watermarkQuery .null)).2 }) := rfl
  unfold foundWatermark replyTo
  rw [answered,Script.answer_calm traps]

end Steps

/-- The rows that inserts with one statement were given, in order. -/
def rowsInto (insert : Insert) (writes : List (String × List Parameters)) : List Parameters :=
  (writes.filter fun write => write.1 = insert.sql).flatMap Prod.snd

theorem rowsInto_append (insert : Insert) (first second : List (String × List Parameters)) :
    rowsInto insert (first ++ second) = rowsInto insert first ++ rowsInto insert second := by
  simp [rowsInto]

theorem Carries.into {s : Scripts} {t : Traffic Scripts Nat} {insert : Insert}
    {rows : List Parameters} (carried : Carries insert.sql (.ok rows) s t) :
    rowsInto insert t.writes = rows := by
  have all : t.writes.filter (fun write => write.1 = insert.sql) = t.writes :=
    List.filter_eq_self.mpr fun write member => by simp [carried.sql write member]
  rw [rowsInto,all,carried.rows rows rfl]

theorem Carries.into_other {s : Scripts} {t : Traffic Scripts Nat} {insert other : Insert}
    {made : Except Failure (List Parameters)} (carried : Carries other.sql made s t)
    (differ : other.sql ≠ insert.sql) : rowsInto insert t.writes = [] := by
  have none : t.writes.filter (fun write => write.1 = insert.sql) = [] :=
    List.filter_eq_nil_iff.mpr fun write member => by simp [carried.sql write member,differ]
  rw [rowsInto,none]
  rfl

theorem insert_sql_distinct (mode : ModeOption) : Insert.rooms.sql ≠ Insert.adjustments.sql ∧
    Insert.rooms.sql ≠ (Step.eventInsert mode).sql ∧ Insert.adjustments.sql ≠ (Step.eventInsert mode).sql := by
  have strict : Insert.rooms.sql ≠ Insert.strictEvents.sql ∧
      Insert.adjustments.sql ≠ Insert.strictEvents.sql := by decide +kernel
  have inclusive : Insert.rooms.sql ≠ Insert.inclusiveEvents.sql ∧
      Insert.adjustments.sql ≠ Insert.inclusiveEvents.sql := by decide +kernel
  refine ⟨by decide +kernel,?_⟩
  rcases mode with (_ | _) | _
  · exact strict
  · exact inclusive
  · exact strict

/-- Traffic that inserts the rows of one part after another, each with a statement of its own, and
fails with the first part that could not be made. -/
structure PlainParts (parts : List (Insert × Except Failure (List Parameters)))
    (t : Traffic Scripts Unit) : Prop where
  failure : failureOf t.result = parts.findSome? fun part => failureOf part.2
  rows : t.result = .ok () → ∀ part ∈ parts, part.2 = .ok (rowsInto part.1 t.writes)
  within : ∀ write ∈ t.writes, ∃ part ∈ parts, write.1 = part.1.sql

theorem PlainParts.nil (s : Scripts) : PlainParts [] (.pure () s) :=
  ⟨rfl,nofun,nofun⟩

theorem PlainParts.others {parts : List (Insert × Except Failure (List Parameters))}
    {t : Traffic Scripts Unit} (plain : PlainParts parts t) {insert : Insert}
    (differ : ∀ part ∈ parts, part.1.sql ≠ insert.sql) : rowsInto insert t.writes = [] := by
  have none : t.writes.filter (fun write => write.1 = insert.sql) = [] := by
    refine List.filter_eq_nil_iff.mpr fun write member => ?_
    obtain ⟨part,one,same⟩ := plain.within write member
    simp [same,differ part one]
  rw [rowsInto,none]
  rfl

theorem PlainParts.cons {s : Scripts} {insert : Insert} {made : Except Failure (List Parameters)}
    {parts : List (Insert × Except Failure (List Parameters))} {t : Traffic Scripts Nat}
    {next : Nat → Scripts → Traffic Scripts Unit}
    (apart : ∀ part ∈ parts, part.1.sql ≠ insert.sql)
    (fit : CountsFit s.target.counts (t.bind next).writes)
    (carried : CountsFit s.target.counts t.writes → Carries insert.sql made s t)
    (rest : ∀ n, CountsFit t.stores.target.counts (next n t.stores).writes →
      PlainParts parts (next n t.stores)) :
    PlainParts ((insert,made) :: parts) (t.bind next) := by
  obtain ⟨result,stores,writes⟩ := t
  cases result with
  | error failure =>
    have part := carried fit
    have failed : failureOf made = some failure := part.failure.symm
    refine ⟨?_,nofun,fun write member => ?_⟩
    · rw [List.findSome?_cons,failed]
      rfl
    · exact ⟨_,.head _,part.sql write member⟩
  | ok n =>
    obtain ⟨fit₁,fit₂⟩ := CountsFit.append fit
    have part := carried fit₁
    obtain rfl : stores = s.after writes.length := part.stores
    have later := rest n fit₂
    cases made with
    | error failure => cases part.failure
    | ok rows =>
      refine ⟨later.failure,fun returned => ?_,fun write member => ?_⟩
      · intro this member
        have whole := later.rows returned
        simp only [Traffic.bind,rowsInto_append]
        rcases List.mem_cons.mp member with rfl | member
        · rw [later.others apart,List.append_nil,part.into]
        · rw [part.into_other (fun same => apart this member same.symm)]
          exact whole this member
      · rcases List.mem_append.mp member with early | late
        · exact ⟨_,.head _,part.sql write early⟩
        · obtain ⟨other,one,same⟩ := later.within write late
          exact ⟨other,.tail _ one,same⟩

section Parts

variable {legacy : Script} {one : Value} {s : Scripts} {options : Options}

theorem events_plain {mode : WatermarkMode} {t : Timestamp} (plain : Scripts.Plain legacy one s)
    (found : watermarkOf one = .ok (.stamp t)) (member : options.watermarkMode = .mode mode) :
    eventsTraffic options s = (Step.events options (.stamp t)).traffic options s := by
  unfold eventsTraffic
  rw [watermark_plain plain,found,member]
  rfl

/-- The three parts of a transfer: rooms, adjustments and events. -/
def plainParts (options : Options) (legacy : Script) :
    List (Insert × Except Failure (List Parameters)) :=
  [(.rooms,plainRooms options (legacy.rowsOf "legacy_rooms")),
    (.adjustments,plainAdjustments (legacy.rowsOf "legacy_streams")),
    (Step.eventInsert options.watermarkMode,plainEvents options (legacy.rowsOf "legacy_events"))]

theorem steps_plain {mode : WatermarkMode} {t : Timestamp} (plain : Scripts.Plain legacy one s)
    (quiet : legacy.traps = []) (found : watermarkOf one = .ok (.stamp t))
    (member : options.watermarkMode = .mode mode)
    (fit : CountsFit s.target.counts (stepsTraffic options s).writes) :
    PlainParts (plainParts options legacy) (stepsTraffic options s) := by
  have kept (step : Step) {s : Scripts} (plain : Scripts.Plain legacy one s) :
      Scripts.Plain legacy one (step.traffic options s).stores :=
    step.pour_holds (Scripts.plain_smooth quiet) _ plain
  obtain ⟨apart₁,apart₂,apart₃⟩ := insert_sql_distinct options.watermarkMode
  have plain₁ := kept (Step.rooms options) plain
  refine PlainParts.cons ?_ fit (fun fit => ?_) fun _ fit => ?_
  · simp [apart₁.symm,apart₂.symm]
  · rw [← Step.rooms_converted]
    exact step_carries plain quiet (Step.rooms options) (Step.rooms_fits options) options fit
  have plain₂ := kept Step.adjustments plain₁
  refine PlainParts.cons ?_ fit (fun fit => ?_) fun _ fit => ?_
  · simp [apart₃.symm]
  · rw [← Step.adjustments_converted]
    exact step_carries plain₁ quiet Step.adjustments Step.adjustments_fits options fit
  rw [events_plain plain₂ found member] at fit ⊢
  refine PlainParts.cons (by simp) fit (fun fit => ?_) fun _ _ => .nil _
  rw [← Step.events_converted options (.stamp t)]
  exact step_carries plain₂ quiet _ (Step.events_fits options (.stamp t)) options fit

end Parts

/-- The watermark query is answered with nothing, null or a moment. -/
def AnswersMoment (one : Value) : Prop :=
  one = .null ∨ ∃ fields v, one = .object fields ∧ Value.field? fields "watermark" = some v ∧
    (v = .null ∨ ∃ t, v = .stamp t)

theorem AnswersMoment.found {one : Value} (answers : AnswersMoment one) :
    ∃ t, watermarkOf one = .ok (.stamp t) := by
  rcases answers with rfl | ⟨fields,v,rfl,field,rfl | ⟨t,rfl⟩⟩
  · exact ⟨_,rfl⟩
  · exact ⟨.first,by simp only [watermarkOf,field]; rfl⟩
  · exact ⟨t,by simp only [watermarkOf,field]; rfl⟩

/-- A world without failures: the databases have none scripted, the watermark is a moment, and the
clock tells universal time. -/
structure Undisturbed (w : World Scripts) : Prop where
  legacy : w.stores.legacy.traps = []
  target : w.stores.target.traps = []
  next : w.stores.next = none
  watermark : AnswersMoment w.stores.target.one
  clock : Universal w.clock

/-- A run is a plain map over the rows of the three cursors. -/
structure PlainTransfer (options : Options) (rooms streams events : List Row)
    (o : Outcome Scripts Unit) : Prop where
  /-- It returns if every row can be converted, and only then. -/
  returns_iff : o.result = .ok () ↔
    (∀ row ∈ rooms, ∃ room, Room.ofRow row options.openRoomYears = .ok room) ∧
    (∀ row ∈ streams, ∃ adjustment, Adjustment.ofRow row = .ok adjustment) ∧
    ∀ row ∈ events, ∃ event, Event.ofRow row options.agentLabel = .ok event
  /-- Otherwise it fails with what the first row fails with, rooms before streams before events. -/
  failure : failureOf o.result = (firstFailure (Room.ofRow · options.openRoomYears) rooms).or
    ((firstFailure Adjustment.ofRow streams).or
      (firstFailure (Event.ofRow · options.agentLabel) events))
  rooms : o.result = .ok () →
    plainRooms options rooms = .ok (rowsInto .rooms (writesOf (traceOf o.effects)))
  adjustments : o.result = .ok () →
    plainAdjustments streams = .ok (rowsInto .adjustments (writesOf (traceOf o.effects)))
  events : o.result = .ok () → plainEvents options events =
    .ok (rowsInto (Step.eventInsert options.watermarkMode) (writesOf (traceOf o.effects)))
  /-- Nothing else is written, even if the run fails. -/
  within : ∀ write ∈ writesOf (traceOf o.effects), write.1 = Insert.rooms.sql ∨
    write.1 = Insert.adjustments.sql ∨ write.1 = (Step.eventInsert options.watermarkMode).sql

theorem plainParts_failure (options : Options) (legacy : Script) :
    ((plainParts options legacy).findSome? fun part => failureOf part.2) =
      (firstFailure (Room.ofRow · options.openRoomYears) (legacy.rowsOf "legacy_rooms")).or
        ((firstFailure Adjustment.ofRow (legacy.rowsOf "legacy_streams")).or
          (firstFailure (Event.ofRow · options.agentLabel) (legacy.rowsOf "legacy_events"))) := by
  simp only [plainParts,List.findSome?_cons,List.findSome?_nil]
  simp only [plainRooms,plainAdjustments,plainEvents,mapM_map,failureOf_map,failureOf_mapM]
  cases firstFailure (Room.ofRow · options.openRoomYears) (legacy.rowsOf "legacy_rooms") with
  | some failure => rfl
  | none =>
    cases firstFailure Adjustment.ofRow (legacy.rowsOf "legacy_streams") with
    | some failure => rfl
    | none => cases firstFailure (Event.ofRow · options.agentLabel) _ <;> rfl

theorem PlainParts.transfer {options : Options} {legacy : Script} {t : Traffic Scripts Unit}
    {o : Outcome Scripts Unit} (parts : PlainParts (plainParts options legacy) t)
    (result : o.result = t.result) (writes : writesOf (traceOf o.effects) = t.writes) :
    PlainTransfer options (legacy.rowsOf "legacy_rooms") (legacy.rowsOf "legacy_streams")
      (legacy.rowsOf "legacy_events") o := by
  have failure := parts.failure
  rw [plainParts_failure,← result] at failure
  have rows := parts.rows
  rw [← result,← writes] at rows
  refine ⟨?_,failure,fun returned => rows returned (.rooms,_) (.head _),
    fun returned => rows returned (.adjustments,_) (.tail _ (.head _)),
    fun returned => rows returned (_,plainEvents _ _) (.tail _ (.tail _ (.head _))),?_⟩
  · rw [← failureOf_eq_none,failure,Option.or_eq_none_iff,Option.or_eq_none_iff,
      firstFailure_eq_none,firstFailure_eq_none,firstFailure_eq_none]
  · intro write member
    rw [writes] at member
    obtain ⟨part,one,same⟩ := parts.within write member
    simp only [plainParts,List.mem_cons,List.not_mem_nil,or_false] at one
    rcases one with rfl | rfl | rfl
    · exact .inl same
    · exact .inr (.inl same)
    · exact .inr (.inr same)

/-- The transfer is a plain map over the rows served, for every batch size. -/
theorem plain_transfer (settings : Settings) (w : World Scripts) (ready : Migration.Ready settings)
    (mode : ∃ mode, settings.options.watermarkMode = .mode mode) (calm : Undisturbed w)
    (fit : CountsFit w.stores.target.counts
      (writesOf (traceOf (Migration.migrate settings w).effects))) :
    PlainTransfer settings.options (w.stores.legacy.rowsOf "legacy_rooms")
      (w.stores.legacy.rowsOf "legacy_streams") (w.stores.legacy.rowsOf "legacy_events")
      (Migration.migrate settings w) := by
  obtain ⟨mode,member⟩ := mode
  obtain ⟨t,found⟩ := calm.watermark.found
  have plain : Scripts.Plain w.stores.legacy w.stores.target.one w.stores :=
    ⟨rfl,calm.next,rfl,calm.target⟩
  have smooth : Smooth (Scripts.Plain w.stores.legacy w.stores.target.one) :=
    Scripts.plain_smooth calm.legacy
  obtain ⟨opened,_⟩ := Migration.opening_smooth smooth plain calm.clock ready
  obtain ⟨reply,begun⟩ := Scripts.answer_other plain calm.legacy .begin nofun
  obtain ⟨_,traffic⟩ := Migration.block_holds smooth plain calm.clock ready
  rw [begun] at traffic
  obtain ⟨result,stores,writes⟩ := Traffic.mk.inj traffic
  have written := Migration.migrate_writes opened
  rw [written,writes] at fit
  have parts := steps_plain plain calm.legacy found member fit
  obtain ⟨ended,_⟩ := Migration.migrate_smooth smooth plain calm.clock ready
  exact parts.transfer (ended.trans result) (written.trans writes)

/-- Settings under which every batch is a single row. -/
def rowByRow : Settings :=
  { Migration.connected with options := { Options.default with batchSize := 1, batchSize_pos := Nat.one_pos } }

/-- A room with a stream and two events, one of them of a type that is not transferred. The first
two inserts report nothing usable. -/
def oneRoom : World Scripts where
  stores := {
    legacy := { rows := [
      ("legacy_rooms",[[("id",.text "r"),("created_at",.stamp .first),("opened_at",.stamp .first),
        ("closed_at",.null),("audience",.text "a"),("parent_id",.null)]]),
      ("legacy_streams",[[("id",.text "r"),("opened_at",.stamp .first),("closed_at",.null),
        ("stream",.object [(.text "fragments",.list [.list [.int 0,.int 10]])])]]),
      ("legacy_events",[
        [("id",.text "e"),("type",.text "message"),("room_id",.text "r"),("created_at",.stamp .first),
          ("data",.object []),("audience",.text "a"),("account_id",.text "u"),("offset",.int 5)],
        [("id",.text "f"),("type",.text "presence")]])] }
    target := { one := .object [(.text "watermark",.null)], counts := [none,some (-1)] } }
  clock := [Timestamp.first]

theorem one_room_transferred : (Migration.migrate rowByRow oneRoom).result = .ok () ∧
    PlainTransfer rowByRow.options (oneRoom.stores.legacy.rowsOf "legacy_rooms")
      (oneRoom.stores.legacy.rowsOf "legacy_streams") (oneRoom.stores.legacy.rowsOf "legacy_events")
      (Migration.migrate rowByRow oneRoom) := by
  have returned : failureOf (Migration.migrate rowByRow oneRoom).result = none :=
    Option.isNone_iff_eq_none.mp (by decide +kernel)
  refine ⟨failureOf_eq_none.mp returned,plain_transfer rowByRow oneRoom ⟨rfl,rfl⟩ ⟨.strict,rfl⟩ ?_ ?_⟩
  · exact ⟨rfl,rfl,rfl,.inr ⟨_,_,rfl,rfl,.inl rfl⟩,by simp [oneRoom],by simp [oneRoom,Timestamp.first]⟩
  · rintro ⟨count,write⟩ member n rfl
    have counted : some n ∈ [none,some (-1 : Int)] := (List.of_mem_zip member).1
    have negative : n = -1 := by simpa using counted
    dsimp only
    omega

end RoomTransfer
