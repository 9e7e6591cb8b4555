import RoomTransfer.Failure

/-! Items of values: by their number in sequences and texts, by their key in objects. -/
namespace RoomTransfer.Value

def keyed? (fields : List (Value × Value)) (key : Value) : Option Value :=
  (fields.find? fun (k,_) => k.same key).map (·.2)

/-- The item with a number. Objects are asked for it as a key. -/
def item (v : Value) (n : Nat) : Except Failure Value :=
  let pick (xs : List Value) : Except Failure Value := match xs[n]? with
    | some x => .ok x
    | none => .error (.indexOutOfRange v.typeName)
  match v with
  | .list xs | .tuple xs => pick xs
  | .text s => pick (s.toList.map fun c => .text c.toString)
  | .bytes bs => pick (bs.map fun b => .int b.toNat)
  | .object fields => match keyed? fields (.int n) with
    | some x => .ok x
    | none => .error (.missingItem (.int n))
  | v => .error (.notIndexable v.qualifiedTypeName)

def itemNamed (v : Value) (name : String) : Except Failure Value :=
  match v with
  | .object fields => match field? fields name with
    | some x => .ok x
    | none => .error (.missingKey name)
  | .list _ | .tuple _ | .text _ | .bytes _ => .error (.wrongIndex v.typeName)
  | v => .error (.notIndexable v.qualifiedTypeName)

end RoomTransfer.Value
