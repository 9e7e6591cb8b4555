import RoomTransfer.Room
import RoomTransfer.Value.Json

/-! Events. Every eligible legacy type has one mapping to a kind, a set, a label and data; other
types are dropped. Times are counted in microseconds. -/
namespace RoomTransfer

structure Account where
  label : Value
  audience : Value

structure Agent where
  account : Account
  label : Value

def Agent.text (a : Agent) : String :=
  a.label.plain ++ "." ++ a.account.label.plain ++ "." ++ a.account.audience.plain

structure Event where
  id : Value
  roomId : Value
  kind : String
  set : String
  label : Option String
  data : Value
  occurredAt : Int
  createdBy : Agent
  createdAt : Value
  /-- Computed by a later job; absent while that is pending. -/
  originalOccurredAt : Option Int := none

namespace Event

def isPending (e : Event) : Bool := e.originalOccurredAt.isNone

/-- The insert parameters of an event; the marker stands for a pending original time. -/
def parameters (e : Event) (marker : Int) : Parameters :=
  [("id",.value e.id),("room_id",.value e.roomId),("kind",.value (.text e.kind)),
    ("set",.value (.text e.set)),
    ("label",.value ((e.label.map Value.text).getD .null)),
    ("data",.document e.data),("occurred_at",.value (.int e.occurredAt)),
    ("account_label",.value e.createdBy.account.label),
    ("account_audience",.value e.createdBy.account.audience),
    ("agent_label",.value e.createdBy.label),("created_at",.value e.createdAt),
    ("original_occurred_at",.value (.int (e.originalOccurredAt.getD marker)))]

end Event

inductive EventType where
  | document
  | documentDelete
  | stream
  | message
  | draw
  | layout
  | leader
  deriving DecidableEq, Repr

namespace EventType

def name : EventType → String
  | .document => "document"
  | .documentDelete => "document-delete"
  | .stream => "stream"
  | .message => "message"
  | .draw => "draw"
  | .layout => "layout"
  | .leader => "leader"

/-- All eligible types, in the order in which they are asked for. -/
def all : List EventType :=
  [.document,.documentDelete,.stream,.message,.draw,.layout,.leader]

def ofName? (s : String) : Option EventType := all.find? (·.name = s)

/-- The type that a value names; a value that cannot be looked up is refused. -/
def ofValue? (v : Value) : Except Failure (Option EventType) :=
  match v.unhashableType with
  | some typeName => .error (.unhashable typeName)
  | none => .ok (match v with
    | .text s => ofName? s
    | _ => none)

end EventType

def isEligible (v : Value) : Except Failure Bool := (EventType.ofValue? v).map Option.isSome

structure EventContent where
  kind : String
  set : String
  label : Option String
  data : Value

namespace EventContent

def fail {α : Type} (row : Row) (reason : String) : Except Failure α :=
  .error (.record "event" (row.get "id") reason)

def fields (row : Row) : Except Failure (List (Value × Value)) :=
  match row.get "data" with
  | .object fields => .ok fields
  | v => fail row ("data must be a JSON object, got " ++ v.typeName)

def address (row : Row) : Except Failure String := do
  match Value.field? (← fields row) "url" with
  | some (.text url) =>
    if url.isEmpty then fail row ((row.get "type").plain ++ " event has no data.url")
    else return addressHash url
  | _ => fail row ((row.get "type").plain ++ " event has no data.url")

/-- A value as plain text: a text is itself, anything else is in object notation. -/
def plainText (v : Value) : Except Failure String :=
  match v with
  | .text s => .ok s
  | v => match Json.refusal? true v with
    | some refusal => .error (.notSerializable refusal)
    | none => .ok (Json.text v)

def removed (fields : List (Value × Value)) : Value :=
  .object (Value.setField "_removed" (.bool true) fields)

/-- The content of a drawing: its set names the document and the page, its label the shape. -/
def ofDrawing (row : Row) : Except Failure EventContent := do
  let data ← fields row
  let page ← match (Value.field? data "page").getD .null with
    | .null => fail row "draw event has no data.page"
    | page => pure page
  let geometry ← match (Value.field? data "geometry").getD .null with
    | .object geometry => pure geometry
    | _ => fail row "draw event has no data.geometry object"
  let shape ← match (Value.field? geometry "_id").getD .null with
    | .null => fail row "draw event has no data.geometry._id"
    | shape => pure shape
  let address ← address row
  let pageText ← plainText page
  let label ← plainText shape
  return ⟨"draw","draw_" ++ address ++ "_" ++ pageText,some label,.object geometry⟩

def ofRow (row : Row) : EventType → Except Failure EventContent
  | .document => do
    return ⟨"document","document",some (← address row),row.get "data"⟩
  | .documentDelete => do
    let label ← address row
    return ⟨"document","document-delete",some label,removed (← fields row)⟩
  | .stream => .ok ⟨"stream","stream",some (row.get "id").plain,row.get "data"⟩
  | .message => .ok ⟨"message","message",some (row.get "id").plain,row.get "data"⟩
  | .draw => ofDrawing row
  | .layout => .ok ⟨"layout","layout",none,row.get "data"⟩
  | .leader => .ok ⟨"leader","leader",none,row.get "data"⟩

end EventContent

namespace Event

/-- Columns that must hold a value, in the order in which they are checked. -/
def requiredColumns : List String := ["id","room_id","created_at","account_id","audience"]

/-- The offset of a row in milliseconds; truth values are no integers. -/
def offset (row : Row) : Except Failure Int :=
  match row.get "offset" with
  | .int i => .ok i
  | v => EventContent.fail row ("offset must be an integer, got " ++ v.shown)

/-- The event of a legacy row, or none where its type is not transferred. -/
def ofRow (row : Row) (agentLabel : Value) : Except Failure (Option Event) := do
  match ← EventType.ofValue? (row.get "type") with
  | none => return none
  | some type =>
    match requiredColumns.find? fun name => (row.get name).isNull with
    | some name => EventContent.fail row ("missing " ++ name)
    | none =>
      let offset ← offset row
      let content ← EventContent.ofRow row type
      return some {
        id := row.get "id"
        roomId := row.get "room_id"
        kind := content.kind
        set := content.set
        label := content.label
        data := content.data
        occurredAt := offset * 1000000
        createdBy := ⟨⟨row.get "account_id",row.get "audience"⟩,agentLabel⟩
        createdAt := row.get "created_at" }

end Event

end RoomTransfer
