import Mathlib.Logic.Function.Basic
import RoomTransfer.Proofs.Blameless
import RoomTransfer.Proofs.QueryText
import RoomTransfer.Proofs.Table

/-! Databases of tables. The legacy one carries out a query as its text says, and serves the rows in
no particular order unless the query has one; the target writes into its tables, and keeps what is
committed. -/
namespace RoomTransfer

/-- What stands in a column. -/
def Value.known (v : Value) : Option Value := if v.isNull then none else some v

theorem Value.known_getD (v : Value) : v.known.getD .null = v := by
  cases v <;> rfl

theorem Value.known_isNone (v : Value) : v.known.isNone = v.isNull := by
  cases v <;> rfl

namespace Store

structure LegacyRoom where
  id : Key
  createdAt : Value
  openedAt : Value
  closedAt : Value
  audience : Value
  parentId : Value
  /-- Absent where the column is null, which a null inside the document is not. -/
  stream : Option Value
  deletedAt : Value

namespace LegacyRoom

def isLive (r : LegacyRoom) : Bool := r.deletedAt.isNull

def hasStream (r : LegacyRoom) : Bool := isFilled r.stream

/-- The room by its columns. -/
def cells (r : LegacyRoom) : Cells
  | "id" => some r.id.value
  | "created_at" => r.createdAt.known
  | "opened_at" => r.openedAt.known
  | "closed_at" => r.closedAt.known
  | "audience" => r.audience.known
  | "parent_id" => r.parentId.known
  | "stream" => r.stream
  | "deleted_at" => r.deletedAt.known
  | _ => none

def row (r : LegacyRoom) : Row :=
  [("id",r.id.value),("created_at",r.createdAt),("opened_at",r.openedAt),
    ("closed_at",r.closedAt),("audience",r.audience),("parent_id",r.parentId)]

def streamRow (r : LegacyRoom) : Row :=
  [("id",r.id.value),("opened_at",r.openedAt),("closed_at",r.closedAt),
    ("stream",r.stream.getD .null)]

end LegacyRoom

structure LegacyEvent where
  id : Key
  type : Option String
  createdAt : Option Timestamp
  roomId : Value
  data : Value
  audience : Value
  accountId : Value
  offset : Value
  deletedAt : Value

/-- Whether a moment lies beyond the watermark. -/
def admits (mode : WatermarkMode) (watermark moment : Timestamp) : Bool :=
  match mode with
  | .strict => watermark.instant < moment.instant
  | .inclusive => watermark.instant ≤ moment.instant

namespace LegacyEvent

/-- The event by its columns. -/
def cells (e : LegacyEvent) : Cells
  | "id" => some e.id.value
  | "type" => e.type.map .text
  | "created_at" => e.createdAt.map .stamp
  | "room_id" => e.roomId.known
  | "data" => e.data.known
  | "audience" => e.audience.known
  | "account_id" => e.accountId.known
  | "offset" => e.offset.known
  | "deleted_at" => e.deletedAt.known
  | _ => none

def row (e : LegacyEvent) : Row :=
  [("id",e.id.value),("type",(e.type.map Value.text).getD .null),("room_id",e.roomId),
    ("created_at",(e.createdAt.map Value.stamp).getD .null),("data",e.data),
    ("audience",e.audience),("account_id",e.accountId),("offset",e.offset)]

/-- Whether an event is live, beyond the watermark, and of one of the types. -/
def isSelected (mode : WatermarkMode) (watermark : Timestamp) (types : List Value)
    (e : LegacyEvent) : Bool :=
  e.deletedAt.isNull && e.createdAt.any (admits mode watermark) &&
    e.type.any fun type => types.any (·.isText type)

/-- The order by creation time and identifier. -/
def precedes (d e : LegacyEvent) : Bool := inOrder ["created_at","id"] d.cells e.cells

end LegacyEvent

structure Legacy where
  rooms : List LegacyRoom
  events : List LegacyEvent
  distinctRooms : (rooms.map LegacyRoom.id).Nodup
  distinctEvents : (events.map LegacyEvent.id).Nodup

/-- The tables by their names. -/
def Legacy.table (l : Legacy) : String → List Cells
  | "rooms" => l.rooms.map LegacyRoom.cells
  | "events" => l.events.map LegacyEvent.cells
  | _ => []

section Selecting

variable (l : Legacy) (parameters : Value)

theorem Legacy.select_rooms : Query.liveRooms.select parameters (l.table "rooms") =
    (l.rooms.filter LegacyRoom.isLive).map LegacyRoom.row := by
  have live : (fun row : Cells => Query.liveRooms.conditions.all (·.holds parameters row)) ∘
      LegacyRoom.cells = LegacyRoom.isLive := by
    funext r
    simp [Query.liveRooms,Condition.holds,LegacyRoom.cells,Value.known_isNone,LegacyRoom.isLive]
  have order : Query.liveRooms.order = [] := rfl
  simp only [Query.select,Legacy.table,List.filter_map,live,order,if_true,List.map_map]
  refine List.map_congr_left fun r _ => ?_
  simp [Query.liveRooms,LegacyRoom.cells,LegacyRoom.row,Value.known_getD]

theorem Legacy.select_streams : Query.streams.select parameters (l.table "rooms") =
    (l.rooms.filter fun r => r.isLive && r.hasStream).map LegacyRoom.streamRow := by
  have live : (fun row : Cells => Query.streams.conditions.all (·.holds parameters row)) ∘
      LegacyRoom.cells = fun r => r.isLive && r.hasStream := by
    funext r
    simp [Query.streams,Condition.holds,LegacyRoom.cells,Value.known_isNone,LegacyRoom.isLive,
      LegacyRoom.hasStream]
  have order : Query.streams.order = [] := rfl
  simp only [Query.select,Legacy.table,List.filter_map,live,order,if_true,List.map_map]
  refine List.map_congr_left fun r _ => ?_
  simp [Query.streams,LegacyRoom.cells,LegacyRoom.streamRow,Value.known_getD]

theorem Legacy.select_events {mode : WatermarkMode} {watermark : Timestamp} {types : List Value}
    (bound : parameter? parameters "watermark" = some (.stamp watermark))
    (asked : parameter? parameters "types" = some (.list types)) :
    (Query.eventsBeyond mode).select parameters (l.table "events") =
      ((l.events.filter (LegacyEvent.isSelected mode watermark types)).mergeSort
        LegacyEvent.precedes).map LegacyEvent.row := by
  have selected : (fun row : Cells => (Query.eventsBeyond mode).conditions.all
      (·.holds parameters row)) ∘ LegacyEvent.cells = LegacyEvent.isSelected mode watermark types := by
    funext e
    obtain ⟨_,type,created,_,_,_,_,_,_⟩ := e
    cases mode <;> cases type <;> cases created <;>
      simp [Query.eventsBeyond,Condition.holds,LegacyEvent.cells,Value.known_isNone,bound,asked,
        LegacyEvent.isSelected,admits,Bool.and_assoc]
  have sorted (events : List LegacyEvent) : (events.map LegacyEvent.cells).mergeSort
      (inOrder ["created_at","id"]) = (events.mergeSort LegacyEvent.precedes).map LegacyEvent.cells := by
    rw [List.map_mergeSort]
    exact fun _ _ _ _ => rfl
  have order : (Query.eventsBeyond mode).order = ["created_at","id"] := rfl
  simp only [Query.select,Legacy.table,List.filter_map,selected,order]
  rw [if_neg (List.cons_ne_nil _ _),sorted,List.map_map]
  refine List.map_congr_left fun e _ => ?_
  simp [Query.eventsBeyond,LegacyEvent.cells,LegacyEvent.row,Value.known_getD]

end Selecting

/-- The order in which rows come that are asked for in none. -/
structure Arrangement where
  apply : Query → List Row → List Row
  perm : ∀ q rows, (apply q rows).Perm rows

/-- The inserts that the target understands. -/
def inserts : List Insert := [.rooms,.adjustments,.strictEvents,.inclusiveEvents]

def insertOf? (sql : String) : Option Insert := inserts.find? (·.sql = sql)

theorem insertOf?_sql : ∀ i ∈ inserts, insertOf? i.sql = some i := by decide +kernel

/-- The legacy tables, and those of the target: as they were last committed, and as the open
transaction sees them. -/
structure Tables where
  legacy : Legacy
  arrangement : Arrangement
  kept : String → Table
  working : String → Table

namespace Tables

/-- What is served for a text that is no query is nothing. -/
def served (s : Tables) (sql : String) (parameters : Value) : List Row :=
  match Query.ofText? sql with
  | none => []
  | some q =>
    let rows := q.select parameters (s.legacy.table q.table)
    if q.order = [] then s.arrangement.apply q rows else rows

/-- The greatest moment in a column of the target. -/
def greatest (s : Tables) (g : Greatest) : Row :=
  [(g.label,(((s.working g.table).newestIn g.column).map Value.stamp).getD .null)]

/-- Replaces a table, within the open transaction. -/
def write (table : String) (t : Table) (s : Tables) : Tables :=
  { s with working := Function.update s.working table t }

def answer (request : Request) (s : Tables) : Except Fault Reply × Tables :=
  match request with
  | .execute .legacy _ sql parameters => (.ok { rows := s.served sql parameters },s)
  | .execute .target _ sql _ =>
    (.ok { one := ((Greatest.ofText? sql).map fun g => .ofRow (s.greatest g)).getD .null },s)
  | .insert sql rows => match insertOf? sql with
    | none => (.ok {},s)
    | some i => match (s.working i.table).insertAll i rows with
      | .error fault => (.error fault,s)
      | .ok (n,t) => (.ok { count := some n },s.write i.table t)
  | .begin => (.ok {},{ s with working := s.kept })
  | .commit => (.ok {},{ s with kept := s.working })
  | _ => (.ok {},s)

instance : Database Tables := ⟨answer⟩

theorem write_self (table : String) (s : Tables) : s.write table (s.working table) = s := by
  rw [write,Function.update_eq_self]

@[simp] theorem write_same (table : String) (t : Table) (s : Tables) :
    (s.write table t).working table = t := by
  simp only [write,Function.update_self]

theorem write_other {table other : String} (differ : other ≠ table) (t : Table) (s : Tables) :
    (s.write table t).working other = s.working other := by
  simp only [write,Function.update_of_ne differ]

theorem write_write (table : String) (t u : Table) (s : Tables) :
    (s.write table t).write table u = s.write table u := by
  simp [write]

theorem served_perm (s : Tables) {sql : String} {q : Query} (read : Query.ofText? sql = some q)
    (parameters : Value) :
    (s.served sql parameters).Perm (q.select parameters (s.legacy.table q.table)) := by
  simp only [served,read]
  split
  · exact s.arrangement.perm _ _
  · exact .refl _

/-- Rows come as they are asked for where the query has an order. -/
theorem served_ordered (s : Tables) {sql : String} {q : Query} (read : Query.ofText? sql = some q)
    (ordered : q.order ≠ []) (parameters : Value) :
    s.served sql parameters = q.select parameters (s.legacy.table q.table) := by
  simp only [served,read,if_neg ordered]

/-- Tables answer everything; only an insert may be refused. -/
theorem smooth : Smooth fun _ : Tables => True where
  still s _ request still := by
    cases request with
    | insert sql rows => cases still
    | begin => cases still
    | commit => cases still
    | execute side cursor sql parameters => cases side <;> exact ⟨_,rfl⟩
    | _ => exact ⟨_,rfl⟩
  insert _ _ _ _ := trivial
  refusal s _ sql rows fault refused := by
    replace refused : (answer (.insert sql rows) s).1 = .error fault := refused
    simp only [answer] at refused
    split at refused
    · cases refused
    · split at refused
      next refusal =>
        cases refused
        exact Failure.undemanded_of_isDatabase (Table.insertAll_refusal refusal)
      · cases refused
  transaction s _ request either := by
    rcases either with rfl | rfl <;> exact ⟨_,_,rfl,trivial⟩

end Tables

end Store

open Store

section Known

variable {options : Options}

theorem rooms_known : (Step.rooms options).insert ∈ inserts := by simp [inserts,Step.rooms]

theorem adjustments_known : Step.adjustments.insert ∈ inserts := by simp [inserts,Step.adjustments]

theorem eventInsert_known (options : Options) : Step.eventInsert options.watermarkMode ∈ inserts := by
  rcases options.watermarkMode with (_ | _) | _ <;> simp [Step.eventInsert,inserts]

theorem eventInsert_table (options : Options) :
    (Step.eventInsert options.watermarkMode).table = "event" := by
  rcases options.watermarkMode with (_ | _) | _ <;> rfl

end Known

section Ends

variable {s s' : Tables} {step : Step} {n : Nat}

theorem Insert.put_ends {insert : Insert} (known : insert ∈ inserts) {rows : List Parameters} :
    (insert.put rows s).Ends n s' ↔ ∃ t,
      (s.working insert.table).insertAll insert rows = .ok (n,t) ∧ s' = s.write insert.table t := by
  cases rows with
  | nil =>
    simp only [Insert.put,Traffic.ends_pure,Table.insertAll_nil]
    constructor
    · rintro ⟨rfl,rfl⟩
      exact ⟨_,⟨rfl,rfl⟩,(s.write_self _).symm⟩
    · rintro ⟨_,⟨rfl,rfl⟩,rfl⟩
      exact ⟨rfl,(s.write_self _).symm⟩
  | cons row rest =>
    have answer : Database.answer (.insert insert.sql (row :: rest)) s =
        match (s.working insert.table).insertAll insert (row :: rest) with
        | .error fault => (.error fault,s)
        | .ok (n,t) => (.ok { count := some n },s.write insert.table t) := by
      change Tables.answer _ s = _
      simp only [Tables.answer,insertOf?_sql insert known]
    unfold Insert.put
    rw [answer]
    cases (s.working insert.table).insertAll insert (row :: rest) with
    | error fault => simp [Traffic.Ends]
    | ok written =>
      obtain ⟨m,t⟩ := written
      have all : Insert.written (row :: rest).length (some (m : Int)) = m := by
        simp [Insert.written]
      simp only [Traffic.Ends,all,Except.ok.injEq,Prod.mk.injEq]
      constructor
      · rintro ⟨rfl,rfl⟩
        exact ⟨t,⟨rfl,rfl⟩,rfl⟩
      · rintro ⟨_,⟨rfl,rfl⟩,rfl⟩
        exact ⟨rfl,rfl⟩

theorem Step.pourBatch_ends (known : step.insert ∈ inserts) (fits : step.Fits) {batch : List Row} :
    (step.pourBatch batch s).Ends n s' ↔ ∃ made t, step.converted batch = .ok made ∧
      (s.working step.insert.table).insertAll step.insert made = .ok (n,t) ∧
        s' = s.write step.insert.table t := by
  unfold Step.pourBatch
  simp only [Traffic.ends_bind,Traffic.ends_ofExcept,Insert.put_ends known,Traffic.ends_pure]
  constructor
  · rintro ⟨made,_,⟨converted,rfl⟩,count,_,⟨t,done,rfl⟩,_,_,⟨_,rfl⟩,rfl,rfl⟩
    exact ⟨made,t,converted,done,rfl⟩
  · rintro ⟨made,t,converted,done,rfl⟩
    have fewer := Nat.le_trans (Table.insertAll_count done) (step.converted_length converted)
    exact ⟨made,_,⟨converted,rfl⟩,n,_,⟨t,done,rfl⟩,(),_,⟨fits _ _ fewer,rfl⟩,rfl,rfl⟩

/-- Batches put together: all rows are inserted, one after another. -/
theorem Step.pour_ends (known : step.insert ∈ inserts) (fits : step.Fits)
    {batches : List (List Row)} {written total : Nat} :
    (step.pour written batches s).Ends total s' ↔ ∃ made n t,
      step.converted batches.flatten = .ok made ∧
        (s.working step.insert.table).insertAll step.insert made = .ok (n,t) ∧
          total = written + n ∧ s' = s.write step.insert.table t := by
  induction batches generalizing written s with
  | nil =>
    simp only [Step.pour,Traffic.ends_pure,List.flatten_nil]
    constructor
    · rintro ⟨rfl,rfl⟩
      exact ⟨[],0,_,rfl,rfl,rfl,(s.write_self _).symm⟩
    · rintro ⟨made,n,t,converted,done,rfl,rfl⟩
      cases converted
      obtain ⟨rfl,rfl⟩ := Table.insertAll_nil.mp done
      exact ⟨rfl,(s.write_self _).symm⟩
  | cons batch rest ih =>
    simp only [Step.pour,Traffic.ends_bind,Step.pourBatch_ends known fits,ih,List.flatten_cons,
      Step.converted_append_ok]
    constructor
    · rintro ⟨count,_,⟨one,t,converted,done,rfl⟩,two,m,u,converted',done',rfl,rfl⟩
      rw [Tables.write_same] at done'
      refine ⟨one ++ two,count + m,u,⟨one,two,converted,converted',rfl⟩,?_,by omega,?_⟩
      · exact Table.insertAll_append.mpr ⟨count,m,t,done,done',rfl⟩
      · rw [Tables.write_write]
    · rintro ⟨_,_,u,⟨one,two,converted,converted',rfl⟩,done,rfl,rfl⟩
      obtain ⟨count,m,t,head,later,rfl⟩ := Table.insertAll_append.mp done
      refine ⟨count,_,⟨one,t,converted,head,rfl⟩,two,m,u,converted',?_,by omega,?_⟩
      · rw [Tables.write_same]
        exact later
      · rw [Tables.write_write]

theorem Step.traffic_ends (known : step.insert ∈ inserts) (fits : step.Fits) {options : Options} :
    (step.traffic options s).Ends n s' ↔ ∃ made t, step.converted (step.served s) = .ok made ∧
      (s.working step.insert.table).insertAll step.insert made = .ok (n,t) ∧
        s' = s.write step.insert.table t := by
  unfold Step.traffic
  rw [Step.pour_ends known fits,batches_flatten options.batchSize_pos]
  simp only [Nat.zero_add]
  constructor
  · rintro ⟨made,_,t,converted,done,rfl,rfl⟩
    exact ⟨made,t,converted,done,rfl⟩
  · rintro ⟨made,t,converted,done,rfl⟩
    exact ⟨made,n,t,converted,done,rfl,rfl⟩

end Ends

section Served

variable {s : Tables} {row : Row}

/-- What a step is served is what its text asks for. -/
theorem Step.served_tables (step : Step) (s : Tables) :
    step.served s = s.served step.query step.parameters := rfl

theorem Step.mem_served_rooms {options : Options} : row ∈ (Step.rooms options).served s ↔
    ∃ r ∈ s.legacy.rooms, r.isLive = true ∧ r.row = row := by
  have served := s.served_perm (Query.rooms_read options) (Step.rooms options).parameters
  have table : Query.liveRooms.table = "rooms" := rfl
  rw [Step.served_tables,served.mem_iff,table,s.legacy.select_rooms]
  simp [and_assoc]

theorem Step.mem_served_streams : row ∈ Step.adjustments.served s ↔
    ∃ r ∈ s.legacy.rooms, (r.isLive && r.hasStream) = true ∧ r.streamRow = row := by
  have served := s.served_perm Query.streams_read Step.adjustments.parameters
  have table : Query.streams.table = "rooms" := rfl
  rw [Step.served_tables,served.mem_iff,table,s.legacy.select_streams]
  simp [and_assoc]

/-- The types that are asked for. -/
def eligibleTypes : List Value := EventType.all.map fun type => .text type.name

/-- Of the events those beyond the watermark are served, in order. -/
theorem Step.served_events {options : Options} {mode : WatermarkMode} {watermark : Timestamp}
    (member : options.watermarkMode = .mode mode) :
    (Step.events options (.stamp watermark)).served s =
      ((s.legacy.events.filter (LegacyEvent.isSelected mode watermark eligibleTypes)).mergeSort
        LegacyEvent.precedes).map LegacyEvent.row := by
  have read : Query.ofText? (Step.events options (.stamp watermark)).query =
      some (.eventsBeyond mode) := by
    simp only [Step.events,member,Query.events_read]
  have table : (Query.eventsBeyond mode).table = "events" := rfl
  rw [Step.served_tables,s.served_ordered read (List.cons_ne_nil _ _),table]
  exact s.legacy.select_events _ rfl rfl

theorem Step.mem_served_events {options : Options} {mode : WatermarkMode} {watermark : Timestamp}
    (member : options.watermarkMode = .mode mode) :
    row ∈ (Step.events options (.stamp watermark)).served s ↔
      ∃ e ∈ s.legacy.events, e.isSelected mode watermark eligibleTypes = true ∧ e.row = row := by
  rw [Step.served_events member]
  simp only [List.mem_map,List.mem_mergeSort,List.mem_filter,and_assoc]

theorem Tables.target_answers (s : Tables) (cursor sql : String) (parameters : Value) :
    (replyTo (.execute .target cursor sql parameters) s).one =
      ((Greatest.ofText? sql).map fun g => .ofRow (s.greatest g)).getD .null := rfl

/-- The watermark that is found is the newest creation time in the table of the events. -/
theorem foundWatermark_tables (s : Tables) :
    foundWatermark s = .ok (.stamp (s.working "event").mark) := by
  have answered : foundWatermark s = watermarkOf (.ofRow
      [("watermark",((s.working "event").newest.map Value.stamp).getD .null)]) := by
    rw [foundWatermark,Tables.target_answers,Greatest.watermark_read]
    rfl
  rw [answered,Table.mark]
  cases (s.working "event").newest <;> rfl

end Served

end RoomTransfer
