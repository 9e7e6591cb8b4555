import RoomTransfer.Interval

/-! Rooms. A room is open from its open time to its close time; one that was never closed stays
open for a number of calendar years. -/
namespace RoomTransfer

structure Room where
  id : Value
  audience : Value
  sourceRoomId : Value
  time : Interval Value
  createdAt : Value

/-- A value of the row that must be there, null or not. -/
def Row.require (row : Row) (name : String) : Except Failure Value :=
  match row.find? name with
  | some v => .ok v
  | none => .error (.missingKey name)

def shiftYears (moment : Value) (years : Int) : Except Failure Value :=
  match moment with
  | .stamp t =>
    let year := (t.date.year : Int) + years
    if year < -0x80000000 ∨ 0x80000000 ≤ year then .error (.yearTooFar year)
    else match t.addYears years with
      | .ok shifted => .ok (.stamp shifted)
      | .error cause => .error (.calendar cause)
  | .text _ => .error (.missingAttribute "str" "year")
  | v => .error (.missingAttribute v.qualifiedTypeName "replace")

namespace Room

/-- The end of a room's time: when it was closed, or `years` years after it opened. -/
def closeTime (row : Row) (openedAt : Value) (years : Int) : Except Failure Value :=
  match row.get "closed_at" with
  | .null => shiftYears openedAt years
  | closed => .ok closed

def reversedReason (openedAt closed : Value) : String :=
  "closed_at " ++ closed.plain ++ " is before opened_at " ++ openedAt.plain

def ofRow (row : Row) (years : Int) : Except Failure Room :=
  match row.get "opened_at" with
  | .null => .error (.record "room" (row.get "id") "missing opened_at")
  | openedAt => do
    let closed ← closeTime row openedAt years
    match closed.less openedAt with
    | .error cause => .error (.order "<" cause)
    | .ok true => .error (.record "room" (row.get "id") (reversedReason openedAt closed))
    | .ok false =>
      let id ← row.require "id"
      let audience ← row.require "audience"
      let time ← Interval.ofValues openedAt closed
      let createdAt ← row.require "created_at"
      return { id, audience, sourceRoomId := row.get "parent_id", time, createdAt }

def parameters (r : Room) : Parameters :=
  [("id",.value r.id),("audience",.value r.audience),("source_room_id",.value r.sourceRoomId),
    ("time",.timeRange r.time),("created_at",.value r.createdAt)]

end Room

end RoomTransfer
