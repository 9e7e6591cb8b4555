import RoomTransfer.Link

/-! What the target store holds. -/
namespace RoomTransfer

structure TargetStatus where
  rooms : Value
  adjustments : Value
  events : Value
  /-- Events that still have the marker in place of their original time. -/
  pendingEvents : Value
  watermark : Value

namespace TargetStatus

def query : String :=
  "select (select count(*) from room) as rooms, (select count(*) from adjustment) as adjustments, " ++
    "(select count(*) from event) as events, (select count(*) from event " ++
    "where original_occurred_at = %(pending)s) as pending_events, " ++
    "(select max(created_at) from event) as watermark"

/-- A column of the answer, which has to be a mapping. -/
def column (row : Value) (name : String) : Except Failure Value :=
  match row with
  | .object fields => match Value.field? fields name with
    | some v => .ok v
    | none => .error (.missingKey name)
  | .list _ | .tuple _ | .text _ => .error (.wrongIndex row.typeName)
  | v => .error (.notIndexable v.qualifiedTypeName)

def ofAnswer (row : Value) : Except Failure TargetStatus := do
  return ⟨← column row "rooms",← column row "adjustments",← column row "events",
    ← column row "pending_events",← column row "watermark"⟩

def collect {σ : Type} [Store.Database σ] (settings : Settings) : Run σ TargetStatus := do
  Run.ofExcept settings.requireTarget
  let row ← Run.classify .statusRefused do
    let _ ← Run.ask (.connect .target (some settings.targetAddress) [namedRows])
    let reply ← Run.leaving .target (Run.ask (.execute .target "" query
      (.ofRow [("pending",.int settings.options.pendingMarker)])))
    pure reply.one
  Run.ofExcept (ofAnswer row)

/-- A moment as text; nothing stands for an empty event table. -/
def watermarkText : Value → Except Failure String
  | .null => .ok "none (event table is empty)"
  | .stamp t => .ok t.iso
  | .date d => .ok (String.ofList d.chars)
  | v => .error (.missingAttribute v.qualifiedTypeName "isoformat")

def rule : String := "============================================================"

def opening (s : TargetStatus) : List String :=
  [rule,"TARGET STORE STATUS",rule,
    "Rooms:        " ++ s.rooms.plain,
    "Adjustments:  " ++ s.adjustments.plain,
    "Events:       " ++ s.events.plain]

def closing (s : TargetStatus) : Except Failure (List String) := do
  return ["Watermark:    " ++ (← watermarkText s.watermark),
    "Events awaiting original_occurred_at backfill: " ++ s.pendingEvents.plain,rule]

end TargetStatus

end RoomTransfer
