import RoomTransfer.Proofs.Provenance
import RoomTransfer.Proofs.Sessions

/-! The order of a run: rooms before the adjustments that refer to them, both before the watermark
is read, and the events behind it. The watermark splits a trace into an early and a late part. -/
namespace RoomTransfer

open Store

namespace Store

namespace Item

def asksWatermark : Item → Bool
  | .request (.execute .target _ sql _) => sql = watermarkQuery
  | _ => false

def asksEvents : Item → Bool
  | .request (.execute .legacy name _ _) => name = "legacy_events"
  | _ => false

/-- Rows are written by the statement of this insert. -/
def inserts (insert : Insert) : Item → Bool
  | .request (.insert sql _) => sql = insert.sql
  | _ => false

def writesRooms (item : Item) : Bool := item.inserts .rooms || item.inserts .adjustments

/-- The query for the events, or a write of some. -/
def handlesEvents (item : Item) : Bool :=
  item.asksEvents || item.inserts .strictEvents || item.inserts .inclusiveEvents

def isEarly (item : Item) : Bool := !item.asksWatermark && !item.handlesEvents

def isLate (item : Item) : Bool := !item.asksWatermark && !item.writesRooms

theorem isEarly_iff {item : Item} :
    item.isEarly = true ↔ item.asksWatermark = false ∧ item.handlesEvents = false := by
  simp [isEarly]

theorem isLate_iff {item : Item} :
    item.isLate = true ↔ item.asksWatermark = false ∧ item.writesRooms = false := by
  simp [isLate]

theorem handlesEvents_of_asks {item : Item} (asks : item.asksWatermark = true) :
    item.handlesEvents = false := by
  cases item with
  | request request => cases request with
    | execute side name sql parameters => cases side <;> first | rfl | cases asks
    | _ => cases asks
  | _ => cases asks

theorem either_of_session {item : Item} (session : item.isSessionItem = true) :
    item.isEarly = true ∧ item.isLate = true := by
  cases item with
  | request request => cases request <;> first | exact ⟨rfl,rfl⟩ | cases session
  | _ => exact ⟨rfl,rfl⟩

end Item

/-- A trace in which the watermark is read once at most: rooms and adjustments are written before
that, events behind it. -/
inductive Staged : List Item → Prop
  | unasked {trace : List Item} (early : ∀ item ∈ trace, item.isEarly = true) : Staged trace
  | asked {item : Item} {front back : List Item} (asks : item.asksWatermark = true)
      (early : ∀ item ∈ front, item.isEarly = true) (late : ∀ item ∈ back, item.isLate = true) :
      Staged (front ++ item :: back)

namespace Staged

variable {trace front back : List Item}

theorem prepend (staged : Staged trace) (early : ∀ item ∈ front, item.isEarly = true) :
    Staged (front ++ trace) := by
  have joined {items : List Item} (others : ∀ item ∈ items, item.isEarly = true) :
      ∀ item ∈ front ++ items, item.isEarly = true := by
    intro item member
    exact (List.mem_append.mp member).elim (early item) (others item)
  cases staged with
  | unasked others => exact .unasked (joined others)
  | asked asks others late =>
    rw [← List.append_assoc]
    exact .asked asks (joined others) late

theorem cons {item : Item} (staged : Staged trace) (early : item.isEarly = true) :
    Staged (item :: trace) := by
  have single : ∀ other ∈ [item], other.isEarly = true := by simpa using early
  exact staged.prepend single

theorem append (staged : Staged trace)
    (plain : ∀ item ∈ back, item.isEarly = true ∧ item.isLate = true) : Staged (trace ++ back) := by
  cases staged with
  | unasked early =>
    refine .unasked fun item member => ?_
    exact (List.mem_append.mp member).elim (early item) fun behind => (plain item behind).1
  | asked asks early late =>
    rw [List.append_assoc,List.cons_append]
    refine .asked asks early fun item member => ?_
    exact (List.mem_append.mp member).elim (late item) fun behind => (plain item behind).2

/-- The watermark is asked for once at most. -/
theorem once (staged : Staged trace) : trace.countP Item.asksWatermark ≤ 1 := by
  have none {items : List Item} (still : ∀ item ∈ items, item.asksWatermark = false) :
      items.countP Item.asksWatermark = 0 := by
    simpa [List.countP_eq_zero] using still
  cases staged with
  | unasked early =>
    rw [none fun item member => (Item.isEarly_iff.mp (early item member)).1]
    exact Nat.zero_le 1
  | asked asks early late =>
    rw [List.countP_append,List.countP_cons,asks,
      none fun item member => (Item.isEarly_iff.mp (early item member)).1,
      none fun item member => (Item.isLate_iff.mp (late item member)).1]
    exact Nat.le_refl 1

theorem around (staged : Staged trace) {item : Item} (asks : item.asksWatermark = true)
    (place : trace = front ++ item :: back) :
    (∀ item ∈ front, item.isEarly = true) ∧ ∀ item ∈ back, item.isLate = true := by
  have apart {items : List Item} (member : item ∈ items)
      (still : ∀ item ∈ items, item.asksWatermark = false) : False := by
    rw [still item member] at asks
    cases asks
  cases staged with
  | unasked early =>
    exact (apart (by simp [place]) fun item member => (Item.isEarly_iff.mp (early item member)).1).elim
  | asked other early late =>
    rcases split_cases place with ⟨m,earlier,_⟩ | ⟨rfl,_,rfl⟩ | ⟨m,_,later⟩
    · exact (apart (by simp [earlier]) fun item member =>
        (Item.isEarly_iff.mp (early item member)).1).elim
    · exact ⟨early,late⟩
    · exact (apart (by simp [later]) fun item member =>
        (Item.isLate_iff.mp (late item member)).1).elim

theorem behind (staged : Staged trace) {item : Item} (handles : item.handlesEvents = true)
    (place : trace = front ++ item :: back) : ∃ earlier ∈ front, earlier.asksWatermark = true := by
  have apart {items : List Item} (member : item ∈ items)
      (early : ∀ item ∈ items, item.isEarly = true) : False := by
    rw [(Item.isEarly_iff.mp (early item member)).2] at handles
    cases handles
  cases staged with
  | unasked early => exact (apart (by simp [place]) early).elim
  | asked asks early late =>
    rcases split_cases place with ⟨m,earlier,_⟩ | ⟨_,rfl,_⟩ | ⟨m,rfl,_⟩
    · exact (apart (by simp [earlier]) early).elim
    · rw [Item.handlesEvents_of_asks asks] at handles
      cases handles
    · exact ⟨_,by simp,asks⟩

end Staged

end Store

namespace Step

variable {step : Step} {item : Item}

theorem Issues.asksWatermark (issued : step.Issues item) : item.asksWatermark = false := by
  cases item with
  | request request => cases request with
    | execute side name sql parameters =>
      obtain ⟨rfl,_⟩ := issued
      rfl
    | _ => rfl
  | _ => rfl

theorem Issues.asksEvents (issued : step.Issues item) (cursor : step.cursor ≠ "legacy_events") :
    item.asksEvents = false := by
  cases item with
  | request request => cases request with
    | execute side name sql parameters =>
      obtain ⟨rfl,rfl,_⟩ := issued
      simp [Item.asksEvents,cursor]
    | _ => rfl
  | _ => rfl

theorem Issues.inserts (issued : step.Issues item) {insert : Insert}
    (differ : step.insert.sql ≠ insert.sql) : item.inserts insert = false := by
  cases item with
  | request request => cases request with
    | insert sql rows =>
      obtain rfl : sql = step.insert.sql := issued
      simp [Item.inserts,differ]
    | _ => rfl
  | _ => rfl

variable {disabled : Bool} {inner trace : List Item}

theorem Bar.inserts_other (bar : step.Bar disabled inner trace) {insert : Insert}
    (differ : step.insert.sql ≠ insert.sql) : ∀ item ∈ trace, item.inserts insert = false :=
  bar.each rfl (fun _ issued => issued.inserts differ) rfl

/-- A step that knows nothing of the events goes before the watermark. -/
theorem Bar.early (bar : step.Bar disabled inner trace) (cursor : step.cursor ≠ "legacy_events")
    (differ : ∀ mode, step.insert.sql ≠ (eventInsert mode).sql) :
    ∀ item ∈ trace, item.isEarly = true := by
  refine bar.each rfl (fun item issued => ?_) rfl
  have strict : item.inserts .strictEvents = false := issued.inserts (differ (.mode .strict))
  have inclusive : item.inserts .inclusiveEvents = false := issued.inserts (differ (.mode .inclusive))
  simp [Item.isEarly,Item.handlesEvents,issued.asksWatermark,issued.asksEvents cursor,strict,inclusive]

/-- A step that writes neither rooms nor adjustments goes behind it. -/
theorem Bar.late (bar : step.Bar disabled inner trace)
    (rooms : step.insert.sql ≠ Insert.rooms.sql)
    (adjustments : step.insert.sql ≠ Insert.adjustments.sql) :
    ∀ item ∈ trace, item.isLate = true := by
  refine bar.each rfl (fun item issued => ?_) rfl
  simp [Item.isLate,Item.writesRooms,issued.asksWatermark,issued.inserts rooms,
    issued.inserts adjustments]

end Step

section Runs

variable {σ : Type} [Database σ] {options : Options} {w : World σ}

theorem transferRooms_early (options : Options) (w : World σ) :
    ∀ item ∈ traceOf (transferRooms options w).effects, item.isEarly = true := by
  obtain ⟨_,bar⟩ := Step.run_trace (Step.rooms options) options w
  exact bar.early (by simp [Step.rooms]) fun mode => (insert_sql_distinct mode).2.1

theorem transferAdjustments_early (options : Options) (w : World σ) :
    ∀ item ∈ traceOf (transferAdjustments options w).effects, item.isEarly = true := by
  obtain ⟨_,bar⟩ := Step.run_trace Step.adjustments options w
  exact bar.early (by decide) fun mode => (insert_sql_distinct mode).2.2

/-- The watermark is read first, and all of the events comes behind it. -/
theorem transferEvents_late (options : Options) (w : World σ) : ∃ back,
    traceOf (transferEvents options w).effects = watermarkItem :: back ∧
      ∀ item ∈ back, item.isLate = true := by
  rcases transferEvents_trace options w with ⟨_,trace | ⟨label,trace⟩⟩ |
    ⟨watermark,_,_,back,bar,trace⟩
  · exact ⟨[],trace,nofun⟩
  · exact ⟨_,trace,by simp; rfl⟩
  · obtain ⟨_,rooms,adjustments⟩ := insert_sql_distinct options.watermarkMode
    exact ⟨back,trace,bar.late rooms.symm adjustments.symm⟩

theorem Migration.steps_staged (options : Options) (w : World σ) :
    Staged (traceOf (steps options w).effects) := by
  obtain ⟨rest,rest',whole,last⟩ := steps_trace options w
  rw [whole]
  refine .cons (.prepend ?_ (transferRooms_early options w)) rfl
  rcases last with ⟨_,rfl⟩ | ⟨_,rfl,⟨_,rfl⟩ | rfl⟩
  · exact .unasked nofun
  · exact .prepend (.unasked nofun) (transferAdjustments_early options _)
  · obtain ⟨back,events,late⟩ := transferEvents_late options
      (transferAdjustments options (transferRooms options w).world).world
    rw [events]
    exact .asked rfl (transferAdjustments_early options _) late

theorem Migration.migrate_staged (settings : Settings) (w : World σ) :
    Staged (traceOf (migrate settings w).effects) := by
  have around {items : List Item} (sessions : OfSessions items) :
      ∀ item ∈ items, item.isEarly = true ∧ item.isLate = true :=
    fun item member => Item.either_of_session (sessions item member)
  have early {items : List Item} (sessions : OfSessions items) : ∀ item ∈ items, item.isEarly = true :=
    fun item member => (around sessions item member).1
  cases opened : (opening settings w).result with
  | ok _ =>
    obtain ⟨after,outside,trace⟩ := trace_begun opened
    have last : (endItem (block settings w).result w.state.dryRun).isEarly = true ∧
        (endItem (block settings w).result w.state.dryRun).isLate = true := by
      cases (block settings w).result with
      | error failure => exact ⟨rfl,rfl⟩
      | ok _ => cases w.state.dryRun <;> exact ⟨rfl,rfl⟩
    rw [trace]
    refine .prepend ?_ (early (preparing_items settings w))
    refine .cons (.append (steps_staged settings.options _) fun item member => ?_) rfl
    rcases List.mem_cons.mp member with rfl | behind
    · exact last
    · exact around outside item behind
  | error failure =>
    rcases trace_unopened opened with sessions | ⟨before,label,after,front,back,trace⟩
    · exact .unasked (early sessions)
    · rw [trace]
      refine .prepend (.unasked fun item member => ?_) (early front)
      rcases List.mem_cons.mp member with rfl | failed
      · rfl
      rcases List.mem_cons.mp failed with rfl | behind
      · rfl
      · exact early back item behind

end Runs

/-- Every identifier of a stream is one of a room. -/
def Covers (rooms streams : List Row) : Prop :=
  ∀ stream ∈ streams, ∀ id, stream.find? "id" = some id → ∃ room ∈ rooms, room.find? "id" = some id

/-- Among these writes is the room that the row of an adjustment refers to. -/
def RoomWritten (writes : List (String × List Parameters)) (adjustment : Parameters) : Prop :=
  ∃ id, List.lookup "room_id" adjustment = some (.value id) ∧
    ∃ room ∈ rowsInto .rooms writes, List.lookup "id" room = some (.value id)

theorem RoomWritten.within {writes : List (String × List Parameters)} {adjustment : Parameters}
    (written : RoomWritten writes adjustment) (before behind : List (String × List Parameters)) :
    RoomWritten (before ++ (writes ++ behind)) adjustment := by
  obtain ⟨id,refers,room,member,keyed⟩ := written
  refine ⟨id,refers,room,?_,keyed⟩
  rw [rowsInto_append,rowsInto_append]
  exact List.mem_append_right _ (List.mem_append_left _ member)

/-- These items begin a transaction that is still open at their end, and in which the room of an
adjustment was written. -/
def Founded (items : List Item) (adjustment : Parameters) : Prop :=
  ∃ before inside, items = before ++ .request .begin :: inside ∧
    (∀ item ∈ inside, item.isBegin = false ∧ item.endsTransaction = false) ∧
    RoomWritten (writesOf inside) adjustment

/-- The order in which a trace reads and writes what depends on each other. -/
structure DependencyOrder (trace : List Item) : Prop where
  /-- No adjustment is written before its room. -/
  founded : ∀ front rows back, trace = front ++ .request (.insert Insert.adjustments.sql rows) :: back →
    ∀ row ∈ rows, Founded front row
  once : trace.countP Item.asksWatermark ≤ 1
  /-- The watermark is read behind all rooms and adjustments and before anything of the events. -/
  watermark : ∀ front item back, trace = front ++ item :: back → item.asksWatermark = true →
    (∀ earlier ∈ front, earlier.handlesEvents = false) ∧ ∀ later ∈ back, later.writesRooms = false
  /-- Events are neither queried nor written without it. -/
  events : ∀ front item back, trace = front ++ item :: back → item.handlesEvents = true →
    ∃ earlier ∈ front, earlier.asksWatermark = true

section Founded

variable {σ : Type} [Database σ] {P : σ → Prop} {rowsOf : String → List Row} {options : Options}
  {w : World σ}

/-- An adjustment is written for a room that the step before it has written. -/
theorem room_written (snapshot : Snapshot P rowsOf)
    (covers : Covers (rowsOf "legacy_rooms") (rowsOf "legacy_streams")) (holds : P w.stores) {n : Nat}
    (returned : (transferRooms options w).result = .ok n) {rows : List Parameters}
    (written : (Insert.adjustments.sql,rows) ∈
      writesOf (traceOf (transferAdjustments options (transferRooms options w).world).effects))
    {row : Parameters} (member : row ∈ rows) :
    RoomWritten (writesOf (traceOf (transferRooms options w).effects)) row := by
  have kept : P (transferRooms options w).world.stores :=
    (Step.run_follows (Conduct.holding_admitsSteps snapshot.kept).toAdmitsStep
      (Step.rooms options) options).world w holds
  have rooms := (Step.rooms options).run_conveys snapshot options holds
  have adjustments := Step.adjustments.run_conveys snapshot options kept
  obtain ⟨stream,read,made⟩ := adjustments.source written member
  obtain ⟨id,named,refers⟩ := Step.adjustments_roomId made
  obtain ⟨source,served,same⟩ := covers stream read id named
  obtain ⟨found,made,all⟩ := rooms.written returned served
  obtain ⟨other,room,rfl,known,keyed⟩ := Step.rooms_id made
  rw [same] at known
  cases known
  exact ⟨id,refers,room,all room rfl,keyed⟩

variable {front back : List Item} {rows : List Parameters}

/-- Where adjustments are written, the rooms have all been transferred. -/
theorem Migration.adjustments_place (place : traceOf (steps options w).effects =
      front ++ .request (.insert Insert.adjustments.sql rows) :: back) :
    (∃ n, (transferRooms options w).result = .ok n) ∧
    ∃ early late, front = .cursor .target none :: traceOf (transferRooms options w).effects ++ early ∧
      traceOf (transferAdjustments options (transferRooms options w).world).effects =
        early ++ .request (.insert Insert.adjustments.sql rows) :: late := by
  have found : (Item.request (.insert Insert.adjustments.sql rows)).inserts .adjustments = true := by
    simp [Item.inserts]
  have before : ∀ item ∈ .cursor .target none :: traceOf (transferRooms options w).effects,
      item.inserts .adjustments = false := by
    intro item member
    obtain ⟨_,bar⟩ := Step.run_trace (Step.rooms options) options w
    rcases List.mem_cons.mp member with rfl | inside
    · rfl
    · exact bar.inserts_other (insert_sql_distinct (.mode .strict)).1 item inside
  obtain ⟨rest,rest',whole,last⟩ := steps_trace options w
  rw [place,← List.cons_append] at whole
  rcases last with ⟨_,rfl⟩ | ⟨returned,rfl,last⟩
  · rw [List.append_nil] at whole
    have absent := before _ (whole ▸ List.mem_append_right front (.head back))
    rw [found] at absent
    cases absent
  · have behind : ∀ item ∈ rest', item.inserts .adjustments = false := by
      rcases last with ⟨_,rfl⟩ | rfl
      · exact nofun
      · obtain ⟨late,events,others⟩ := transferEvents_late options
          (transferAdjustments options (transferRooms options w).world).world
        rw [events]
        intro item member
        rcases List.mem_cons.mp member with rfl | inside
        · rfl
        · have still := (Item.isLate_iff.mp (others item inside)).2
          exact (Bool.or_eq_false_iff.mp still).2
    obtain ⟨early,late,split,_,adjustments⟩ := place_within before behind found whole.symm
    exact ⟨returned,early,late,split,adjustments⟩

/-- Among the items of the steps, the room of an adjustment is written before it. -/
theorem Migration.steps_founded (snapshot : Snapshot P rowsOf)
    (covers : Covers (rowsOf "legacy_rooms") (rowsOf "legacy_streams")) (holds : P w.stores)
    (place : traceOf (steps options w).effects =
      front ++ .request (.insert Insert.adjustments.sql rows) :: back)
    {row : Parameters} (member : row ∈ rows) : RoomWritten (writesOf front) row := by
  obtain ⟨⟨n,returned⟩,early,late,rfl,adjustments⟩ := adjustments_place place
  have written : (Insert.adjustments.sql,rows) ∈
      writesOf (traceOf (transferAdjustments options (transferRooms options w).world).effects) := by
    rw [adjustments]
    simp [writesOf]
  rw [writesOf_append]
  exact (room_written snapshot covers holds returned written member).within [] (writesOf early)

end Founded

namespace Migration

/-- In a run over databases whose legacy rows stand still, no adjustment comes before its room. -/
theorem adjustments_founded {σ : Type} [Database σ] {P : σ → Prop} {rowsOf : String → List Row}
    (snapshot : Snapshot P rowsOf)
    (covers : Covers (rowsOf "legacy_rooms") (rowsOf "legacy_streams")) {settings : Settings}
    {w : World σ} (holds : P w.stores) {front back : List Item} {rows : List Parameters}
    (place : traceOf (migrate settings w).effects =
      front ++ .request (.insert Insert.adjustments.sql rows) :: back)
    {row : Parameters} (member : row ∈ rows) : Founded front row := by
  cases opened : (opening settings w).result with
  | error failure =>
    have inert := (unopened_inert opened).2.2 _ (place ▸ List.mem_append_right front (.head back))
    cases inert.2
  | ok _ =>
    obtain ⟨after,whole⟩ := bracketed opened
    have begun : P (opening settings w).world.stores := by
      have prepared : P (preparing settings w).world.stores :=
        (preparing_follows (Conduct.holding_admitsBooking P)
          (Conduct.holding_admitsSessions snapshot.kept) settings).world w holds
      rw [opening_world opened,Run.ask_world]
      exact snapshot.kept _ prepared .begin
    obtain ⟨early,late,rfl,inside,_⟩ := whole.statement_inside place rfl
    refine ⟨_,early,rfl,fun item member => ?_,steps_founded snapshot covers begun inside member⟩
    have inert := Item.isStepItem_inert (whole.steps item (by simp [inside,member]))
    simp [Item.endsTransaction,inert]

/-- Whatever two scripts serve and wherever they fail, a run keeps the order if the rooms of the
streams are among the rooms. -/
theorem dependency_order (settings : Settings) (legacy target : Script) (state : RunState)
    (clock : List Timestamp) (linkOpen : Bool)
    (covers : Covers (legacy.rowsOf "legacy_rooms") (legacy.rowsOf "legacy_streams")) :
    let w : World Scripts := ⟨⟨legacy,target,none⟩,state,clock,linkOpen⟩
    DependencyOrder (traceOf (migrate settings w).effects) := by
  intro w
  have staged := migrate_staged settings w
  refine ⟨fun front rows back place row member => ?_,staged.once,
    fun front item back place asks => ?_,fun front item back place handles => ?_⟩
  · exact adjustments_founded (Scripts.snapshot legacy.rows) covers ⟨rfl,rfl⟩ place member
  · obtain ⟨early,late⟩ := staged.around asks place
    exact ⟨fun item member => (Item.isEarly_iff.mp (early item member)).2,
      fun item member => (Item.isLate_iff.mp (late item member)).2⟩
  · exact staged.behind handles place

/-- The order of a run that writes the adjustment of its one room. -/
theorem one_room_ordered :
    Covers (oneRoom.stores.legacy.rowsOf "legacy_rooms")
      (oneRoom.stores.legacy.rowsOf "legacy_streams") ∧
    (traceOf (migrate rowByRow oneRoom).effects).any (Item.inserts .adjustments) = true ∧
    DependencyOrder (traceOf (migrate rowByRow oneRoom).effects) := by
  have covers : Covers (oneRoom.stores.legacy.rowsOf "legacy_rooms")
      (oneRoom.stores.legacy.rowsOf "legacy_streams") := by
    intro stream member id named
    obtain rfl := List.mem_singleton.mp member
    exact ⟨_,List.mem_singleton.mpr rfl,named⟩
  exact ⟨covers,by decide +kernel,
    dependency_order rowByRow oneRoom.stores.legacy oneRoom.stores.target {} oneRoom.clock false covers⟩

end Migration

end RoomTransfer
