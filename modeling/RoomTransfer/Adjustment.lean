import RoomTransfer.Room

/-! Adjustments: the recorded pieces of a room's stream as whole-number ranges, and the offset
of its beginning. Numbers are rounded to the nearest integer, halves away from zero. -/
namespace RoomTransfer

structure Adjustment where
  roomId : Value
  startedAt : Value
  segments : List (Interval Int)
  offset : Option Int
  createdAt : Value

/-- The integer nearest to a finite number; truth values and texts are no numbers. -/
def Value.toInteger? : Value → Option Int
  | .int i => some i
  | .float x => if x.isFinite then some x.roundAway else none
  | _ => none

namespace Adjustment

def fail {α : Type} (id : Value) (reason : String) : Except Failure α :=
  .error (.record "adjustment" id reason)

def segment (id fragment : Value) : Except Failure (Interval Int) :=
  match fragment with
  | .list [a,b] => match a.toInteger?,b.toInteger? with
    | some lower,some upper =>
      if upper < lower then fail id ("fragment " ++ fragment.shown ++ " ends before it starts")
      else Interval.ofInts lower upper
    | _,_ => fail id ("fragment " ++ fragment.shown ++ " is not a numeric pair")
  | _ => fail id ("fragment " ++ fragment.shown ++ " is not a numeric pair")

/-- The ranges of a stream's fragments, in order; none where the stream has no fragments. -/
def segmentsOf (id fragments : Value) : Except Failure (List (Interval Int)) :=
  match fragments with
  | .null => .ok []
  | .list items => items.mapM (segment id)
  | _ => fail id "stream.fragments is not an array"

def prerollOf (id preroll : Value) : Except Failure (Option Int) :=
  match preroll with
  | .null => .ok none
  | v => match v.toInteger? with
    | some i => .ok (some i)
    | none => fail id ("preroll " ++ v.shown ++ " is not a number")

/-- The adjustment of a legacy room row with a stream; the open time stands in for the start of
playback. -/
def ofRow (row : Row) : Except Failure Adjustment :=
  let id := row.get "id"
  match row.get "stream" with
  | .object stream => do
    let offset ← prerollOf id ((Value.field? stream "preroll").getD .null)
    let roomId ← row.require "id"
    let startedAt ← row.require "opened_at"
    let segments ← segmentsOf id ((Value.field? stream "fragments").getD .null)
    return { roomId, startedAt, segments, offset, createdAt := row.get "closed_at" }
  | _ => fail id "stream is not a JSON object"

def parameters (a : Adjustment) : Parameters :=
  [("room_id",.value a.roomId),("started_at",.value a.startedAt),
    ("segments",.intRanges a.segments),
    ("offset",.value ((a.offset.map Value.int).getD .null)),
    ("created_at",.value a.createdAt)]

end Adjustment

end RoomTransfer
