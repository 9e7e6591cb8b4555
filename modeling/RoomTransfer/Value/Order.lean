import RoomTransfer.Value

/-! The order of dynamic values. Numbers, texts, timestamps, dates, identifiers and sequences
have one, each kind among itself; anything else is refused with the reason. -/
namespace RoomTransfer

inductive OrderError where
  | kinds (left right : String)
  | naive
  | timeOfDay
  deriving DecidableEq, Repr

def OrderError.message (symbol : String) : OrderError → String
  | .kinds left right =>
    "'" ++ symbol ++ "' not supported between instances of '" ++ left ++ "' and '" ++ right ++ "'"
  | .naive => "can't compare offset-naive and offset-aware datetimes"
  | .timeOfDay => "can't compare datetime.datetime to datetime.date"

def OrderError.swap : OrderError → OrderError
  | .kinds left right => .kinds right left
  | .naive => .naive
  | .timeOfDay => .timeOfDay

namespace Value

/-- The order of two values that hold no others; `none` where a number is no number. -/
def compareScalars (v w : Value) : Except OrderError (Option Ordering) :=
  match v,w with
  | .text s,.text t => .ok (some (compare s t))
  | .uuid u,.uuid u' => .ok (some (compare u.bits.toNat u'.bits.toNat))
  | .date d,.date e => .ok (some (compare d.dayNumber e.dayNumber))
  | .stamp s,.stamp t => match s.compare? t with
    | some o => .ok (some o)
    | none => .error .naive
  | .stamp _,.date _ | .date _,.stamp _ => .error .timeOfDay
  | .bytes b,.bytes c => .ok (some (compare (b.map UInt8.toNat) (c.map UInt8.toNat)))
  | v,w => match v.numeric?,w.numeric? with
    | some a,some b => .ok (a.compare? b)
    | _,_ => .error (.kinds v.qualifiedTypeName w.qualifiedTypeName)

mutual

/-- Whether the first value lies before the second. Sequences are compared at the first place
where they differ. -/
def less : Value → Value → Except OrderError Bool
  | .list xs,.list ys => lessItems xs ys
  | .tuple xs,.tuple ys => lessItems xs ys
  | v,w => (compareScalars v w).map (· == some .lt)

def lessItems : List Value → List Value → Except OrderError Bool
  | [],ys => .ok !ys.isEmpty
  | _ :: _,[] => .ok false
  | x :: xs,y :: ys => if same x y then lessItems xs ys else less x y

end

end Value

end RoomTransfer
