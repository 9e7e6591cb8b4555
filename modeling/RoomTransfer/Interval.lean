import RoomTransfer.Failure

/-! Half-open intervals, the lower bound belonging to them and the upper one not, and the values
bound to the placeholders of a statement. -/
namespace RoomTransfer

structure Interval (α : Type) where
  lower : α
  upper : α
  deriving DecidableEq

namespace Interval

/-- An interval between two values that are in an order; the lower one must not lie after the
upper one. -/
def ofValues (lower upper : Value) : Except Failure (Interval Value) :=
  match upper.less lower with
  | .error cause => .error (.order ">" cause.swap)
  | .ok true => .error (.badValue
      ("Interval lower bound " ++ lower.plain ++ " is after upper bound " ++ upper.plain))
  | .ok false => .ok ⟨lower,upper⟩

/-- An interval between two integers, checked like any other. -/
def ofInts (lower upper : Int) : Except Failure (Interval Int) :=
  (ofValues (.int lower) (.int upper)).map fun _ => ⟨lower,upper⟩

end Interval

inductive Parameter where
  | value (v : Value)
  /-- A value stored as a document. -/
  | document (v : Value)
  | timeRange (range : Interval Value)
  | intRanges (ranges : List (Interval Int))

abbrev Parameters := List (String × Parameter)

end RoomTransfer
