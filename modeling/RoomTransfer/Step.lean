import RoomTransfer.Adjustment
import RoomTransfer.Event
import RoomTransfer.Insert
import RoomTransfer.Link

/-! Steps: each reads the rows of one legacy query in batches, turns them into insert parameters
and writes them, counting as it goes. -/
namespace RoomTransfer

/-- How many rows an insert of `rows` rows wrote: what is reported, or all of them where nothing
usable is. -/
def Insert.written (rows : Nat) : Option Int → Nat
  | some count => if 0 ≤ count then count.toNat else rows
  | none => rows

/-- Writes rows and tells how many were written. Nothing is asked of the database for no rows. -/
def Insert.write {σ : Type} [Store.Database σ] (insert : Insert) (rows : List Parameters) :
    Run σ Nat :=
  match rows with
  | [] => pure 0
  | _ => do
    let reply ← Run.classify (.batchRefused rows.length insert.table)
      (Run.ask (.insert insert.sql rows))
    pure (Insert.written rows.length reply.count)

structure Step where
  entity : String
  /-- Shown with the progress, like the unit. -/
  description : String
  unit : String
  query : String
  parameters : Value := .null
  cursor : String
  insert : Insert
  /-- What is written for a row; rows without parameters are dropped. -/
  convert : Row → Except Failure (Option Parameters)
  /-- What is counted for a batch, given how many rows were read and written. -/
  tally : (read written : Nat) → List (Counter × Int)
  /-- The closing message, given how many rows the step wrote. -/
  closing : (written : Nat) → Counters → String

namespace Step

def rooms (options : Options) : Step where
  entity := "room"
  description := "Migrating rooms"
  unit := "room"
  query := "select id, created_at, opened_at, closed_at, audience, parent_id from rooms " ++
    "where deleted_at is null"
  cursor := "legacy_rooms"
  insert := .rooms
  convert row := do
    let room ← Room.ofRow row options.openRoomYears
    return some room.parameters
  tally read written := [(.roomsRead,read),(.roomsWritten,written)]
  closing written counters :=
    "Rooms upserted: " ++ String.ofList (Number.digits written) ++ " (read " ++
      String.ofList (Number.integerText (counters .roomsRead)) ++ ")"

def adjustments : Step where
  entity := "adjustment"
  description := "Migrating adjustments"
  unit := "room"
  query := "select id, opened_at, closed_at, stream from rooms where deleted_at is null and " ++
    "stream != '\x7b\x7d'::jsonb"
  cursor := "legacy_streams"
  insert := .adjustments
  convert row := do
    let adjustment ← Adjustment.ofRow row
    return some adjustment.parameters
  tally read written := [(.adjustmentsRead,read),(.adjustmentsInserted,written),
    (.adjustmentsSkipped,(read : Int) - written)]
  closing written counters :=
    "Adjustments inserted: " ++ String.ofList (Number.digits written) ++ " (skipped " ++
      String.ofList (Number.integerText (counters .adjustmentsSkipped)) ++ " already migrated)"

/-- The query for events beyond the watermark, which itself belongs to them only in inclusive
mode. -/
def eventsQuery (mode : ModeOption) : String :=
  let bound := match mode with
    | .mode .inclusive => ">="
    | _ => ">"
  "select id, type, room_id, created_at, data, audience, account_id, \"offset\" from events " ++
    "where deleted_at is null and created_at " ++ bound ++ " %(watermark)s " ++
    "and type = any(%(types)s) order by created_at, id"

/-- Only in inclusive mode may an event be there already. -/
def eventInsert : ModeOption → Insert
  | .mode .inclusive => .inclusiveEvents
  | _ => .strictEvents

def events (options : Options) (watermark : Value) : Step where
  entity := "event"
  description := "Migrating events"
  unit := "event"
  query := eventsQuery options.watermarkMode
  parameters := .ofRow [("watermark",watermark),
    ("types",.list (EventType.all.map fun type => .text type.name))]
  cursor := "legacy_events"
  insert := eventInsert options.watermarkMode
  convert row := do
    let event ← Event.ofRow row options.agentLabel
    return event.map fun event => event.parameters options.pendingMarker
  tally read written := [(.eventsRead,read),(.eventsInserted,written)]
  closing written counters :=
    "Events inserted: " ++ String.ofList (Number.digits written) ++ " (read " ++
      String.ofList (Number.integerText (counters .eventsRead)) ++ ")"

variable {σ : Type}

def drop (step : Step) (row : Row) : Run σ Unit := do
  Run.log (.about Log.debug step.entity ("Dropping legacy " ++ step.entity ++ " " ++
    (row.get "id").plain ++ " of type " ++ (row.get "type").shown))
  Run.record .eventsDropped 1

def prepare (step : Step) : List Row → Run σ (List Parameters)
  | [] => pure []
  | row :: rest => do
    match ← Run.ofExcept (step.convert row) with
    | some parameters => do
      let others ← prepare step rest
      pure (parameters :: others)
    | none => do
      step.drop row
      prepare step rest

def recordAll : List (Counter × Int) → Run σ Unit
  | [] => pure ()
  | (key,count) :: rest => do
    Run.record key count
    recordAll rest

variable [Store.Database σ]

/-- Transfers one batch, on top of `written` rows written before. -/
def transfer (step : Step) (written : Nat) (batch : List Row) : Run σ Nat := do
  let rows ← step.prepare batch
  let count ← step.insert.write rows
  recordAll (step.tally batch.length count)
  Run.note (.progressUpdate batch.length)
  pure (written + count)

def run (step : Step) (options : Options) : Run σ Nat := do
  Run.note (.progressOpen step.description step.unit (!options.showProgress.isGiven))
  let written ← Run.ensuring
    (Link.fetch ⟨step.query,step.parameters,options.batchSize,step.cursor⟩ step.transfer 0)
    (Run.note .progressClose)
  Run.log (.about Log.info step.entity (step.closing written (← Run.state).counters)
    [("count",.int written)])
  pure written

end Step

def watermarkQuery : String := "select max(created_at) as watermark from event"

/-- The watermark in the answer to its query; the first moment of all where there is none. -/
def watermarkOf (row : Value) : Except Failure Value := do
  let found ← match row with
    | .null => pure .null
    | .object fields => match Value.field? fields "watermark" with
      | some v => pure v
      | none => .error (.missingKey "watermark")
    | .list (first :: _) | .tuple (first :: _) => pure first
    | .list [] | .tuple [] => .error (.indexOutOfRange row.typeName)
    | .text s => match s.toList with
      | c :: _ => pure (.text c.toString)
      | [] => .error (.indexOutOfRange row.typeName)
    | v => .error (.notIndexable v.qualifiedTypeName)
  return if found.isNull then .stamp .first else found

/-- What is logged of the watermark: its moment and the mode, each of which must have a text. -/
def watermarkMessage (watermark : Value) (mode : ModeOption) : Except Failure String :=
  match watermark,mode with
  | .stamp t,.mode mode => .ok ("Event watermark: " ++ t.iso ++ " (" ++ mode.name ++ ")")
  | .stamp _,.unchecked given => .error (.missingAttribute given.qualifiedTypeName "value")
  | v,_ => .error (.missingAttribute v.qualifiedTypeName "isoformat")

section Run

variable {σ : Type} [Store.Database σ]

def readWatermark : Run σ Value := do
  let reply ← Run.ask (.execute .target "" watermarkQuery .null)
  Run.ofExcept (watermarkOf reply.one)

def transferRooms (options : Options) : Run σ Nat := (Step.rooms options).run options

def transferAdjustments (options : Options) : Run σ Nat := Step.adjustments.run options

/-- The watermark is read before the first event is written, so it includes none of this run. -/
def transferEvents (options : Options) : Run σ Nat := do
  let watermark ← readWatermark
  Run.modifyState fun s => { s with watermark }
  let message ← Run.ofExcept (watermarkMessage watermark options.watermarkMode)
  Run.log (.about Log.info "event" message)
  (Step.events options watermark).run options

end Run

end RoomTransfer
