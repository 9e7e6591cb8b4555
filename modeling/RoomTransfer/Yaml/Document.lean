import RoomTransfer.Yaml.Made

/-! The values in a document. Collections are filled level by level, so of two parts that cannot be
made the one nearer to the root is reported. A collection may hold itself: it is filled once, and
its value says so at the place where it comes round. Values are written out one field of the root at
a time, since one that is named again and again may be huge. -/
namespace RoomTransfer.Yaml

namespace Node

mutual

def size : Node → Nat
  | .scalar _ _ _ | .named _ => 1
  | .sequence _ _ items => 1 + itemsSize items
  | .mapping _ _ fields => 1 + fieldsSize fields

def itemsSize : List Node → Nat
  | [] => 0
  | x :: xs => size x + itemsSize xs

def fieldsSize : List (Node × Node) → Nat
  | [] => 0
  | (key,value) :: rest => size key + size value + fieldsSize rest

end

def tag : Node → Tag
  | .scalar _ tag _ | .sequence _ tag _ | .mapping _ tag _ => tag
  | .named _ => .unknown

def place : Node → Nat
  | .scalar place _ _ | .sequence place _ _ | .mapping place _ _ => place
  | .named _ => 0

/-- Whether a node is filled after it has been made; all others are made at once. -/
def isFilled (n : Node) : Bool :=
  n.tag = .sequence || n.tag = .mapping || n.tag = .set || n.tag = .pairs

end Node

namespace Document

/-- No path that does not come round is longer. -/
def size (d : Document) : Nat :=
  d.root.size + Node.itemsSize (d.anchors.map (·.2))

def resolve (d : Document) : Node → Node
  | .named name => (List.lookup name d.anchors).getD default
  | n => n

def tagOf (d : Document) (n : Node) : Tag := (d.resolve n).tag

/-- The text that a node spells: a mapping stands for the value of its default key. -/
def spelled? (d : Document) : (fuel : Nat) → Node → Option (List Char)
  | 0,_ => none
  | fuel + 1,n => match d.resolve n with
    | .scalar _ _ cs => some cs
    | .mapping _ _ fields => match fields.find? fun (key,_) => d.tagOf key = .kind .value with
      | some (_,value) => spelled? d fuel value
      | none => none
    | _ => none

def text? (d : Document) (n : Node) : Option (List Char) :=
  match d.resolve n with
  | .scalar _ _ cs => some cs
  | _ => d.spelled? (d.size + 1) n

/-- The value of a node that is made at once. A moment has to be spelled by the node itself. -/
def made (d : Document) (n : Node) : Except Fault Value :=
  match d.tagOf n,d.text? n,d.resolve n with
  | .unknown,_,_ | .kind .merge,_,_ | .kind .value,_,_ | .kind .indicator,_,_ =>
    .error .malformed
  | _,none,_ => .error .malformed
  | .kind .timestamp,some _,.mapping _ _ _ =>
    Made.refuse (.wrongType "expected string or bytes-like object, got 'list'")
  | tag,some cs,_ => Made.ofText tag cs

/-- A default key within a mapping is a text. -/
def asKey (d : Document) (n : Node) : Node :=
  match d.resolve n with
  | .scalar place (.kind .value) cs => .scalar place (.kind .text) cs
  | _ => n

/-- The fields of a mapping after those that it merges in. Of several mappings the last one merged
comes first, so that the first one has the last word. Those that are being merged already, from
the places `within`, have nothing to add. -/
def merged (d : Document) :
    (fuel : Nat) → (within : List Nat) → Node → Except Fault (List (Node × Node))
  | 0,_,_ => .error .malformed
  | fuel + 1,within,n => match d.resolve n with
    | .mapping place _ fields =>
      if within.contains place then .ok []
      else do
        let own := (fields.filter fun (key,_) => d.tagOf key ≠ .kind .merge).map
          fun (key,value) => (d.asKey key,value)
        let sources := fields.filter fun (key,_) => d.tagOf key = .kind .merge
        let others ← sources.mapM fun (_,value) => match d.resolve value with
          | .mapping _ _ _ => merged d fuel (place :: within) value
          | .sequence _ _ items => do
            let groups ← items.mapM (merged d fuel (place :: within))
            return groups.reverse.flatten
          | _ => .error .malformed
        return others.flatten ++ own
    | _ => .error .malformed

def fieldsOf (d : Document) (n : Node) : Except Fault (List (Node × Node)) :=
  d.merged (d.size + 1) [] n

/-- The places of the collections met so far. -/
abbrev Making := StateT (List Nat) (Except Fault)

/-- Makes a node, or puts it off where it is filled later, which happens once. -/
def visit (d : Document) (n : Node) : Making (List Node) := do
  let place := (d.resolve n).place
  if (d.resolve n).isFilled then
    if (← get).contains place then return []
    else
      modify (place :: ·)
      return [n]
  else
    let _ ← d.made n
    return []

def visitKey (d : Document) (n : Node) : Making Unit := do
  if (d.resolve n).isFilled then throw .malformed
  else
    let _ ← d.visit n

def visitField (d : Document) (field : Node × Node) : Making (List Node) := do
  d.visitKey field.1
  d.visit field.2

def visitPair (d : Document) (n : Node) : Making (List Node) := do
  match d.resolve n with
  | .mapping _ _ [(key,value)] =>
    let first ← d.visit key
    let second ← d.visit value
    return first ++ second
  | _ => throw .malformed

def fill (d : Document) (n : Node) : Making (List Node) := do
  match d.tagOf n,d.resolve n with
  | .sequence,.sequence _ _ items => return (← items.mapM d.visit).flatten
  | .pairs,.sequence _ _ items => return (← items.mapM d.visitPair).flatten
  | .mapping,.mapping _ _ _ | .set,.mapping _ _ _ =>
    return (← (← d.fieldsOf n).mapM d.visitField).flatten
  | _,_ => throw .malformed

/-- Fills collections level by level. -/
def fillAll (d : Document) : (fuel : Nat) → List Node → Making Unit
  | _,[] => return
  | 0,_ => throw .malformed
  | fuel + 1,level => do
    let groups ← level.mapM d.fill
    fillAll d fuel groups.flatten

/-- Whether a number that is none is written as such: all of these are one and the same. -/
def isWrittenNaN (d : Document) (n : Node) : Bool :=
  (d.text? n).any Made.isNaNText

/-- Whether two keys are the same one. Numbers that are none are equal to no number, but each of
them is the same as itself. -/
def sameKey (d : Document) (x y : Node × Value) : Bool :=
  x.2.same y.2 || match x.2,y.2 with
    | .float a,.float b =>
      a.isNaN && b.isNaN && ((d.resolve x.1).place = (d.resolve y.1).place ||
        (d.isWrittenNaN x.1 && d.isWrittenNaN y.1))
    | _,_ => false

def setKey (d : Document) (key : Node × Value) (value : Value) :
    List ((Node × Value) × Value) → List ((Node × Value) × Value)
  | [] => [(key,value)]
  | (other,old) :: rest =>
    if d.sameKey other key then (other,value) :: rest else (other,old) :: setKey d key value rest

def plainFields (fields : List ((Node × Value) × Value)) : List (Value × Value) :=
  fields.map fun ((_,key),value) => (key,value)

def madeFields (d : Document) (make : Node → Value) (n : Node) : List (Value × Value) :=
  plainFields (((d.fieldsOf n).toOption.getD []).foldl
    (fun acc (key,value) => d.setKey (key,make key) (make value) acc) [])

def valueBy (d : Document) (make : Node → Value) (n : Node) : Value :=
  match d.tagOf n,d.resolve n with
  | .sequence,.sequence _ _ items => .list (items.map make)
  | .pairs,.sequence _ _ items => .list (items.map fun pair => match d.resolve pair with
      | .mapping _ _ ((key,value) :: _) => .tuple [make key,make value]
      | _ => .null)
  | .mapping,.mapping _ _ _ => .object (d.madeFields make n)
  | .set,.mapping _ _ _ => .set ((d.madeFields make n).map (·.1))
  | _,_ => (d.made n).toOption.getD .null

/-- The value of a node all of whose parts can be made, inside of the nodes at the places
`within`. -/
def valueOf (d : Document) : (fuel : Nat) → (within : List Nat) → Node → Value
  | 0,_,_ => .null
  | fuel + 1,within,n =>
    let place := (d.resolve n).place
    if within.contains place then .around (d.tagOf n = .mapping)
    else d.valueBy (valueOf d fuel (place :: within)) n

def make (d : Document) : Except Fault Unit := do
  let _ ← ((do d.fillAll (d.size + 1) (← d.visit d.root)) : Making Unit).run []

/-- The value of a field of the root. It is a value of its own: one that leads back to the root goes
round once before it is cut off. -/
def field? (d : Document) (name : String) : Option Value :=
  let valueOf := d.valueOf (d.size + 2) []
  let fields := (d.fieldsOf d.root).toOption.getD []
  (fields.reverse.find? fun (key,_) => (valueOf key).isText name).map fun (_,value) =>
    valueOf value

end Document

inductive Content where
  | nothing
  /-- Fields by their names. -/
  | mapping (field? : String → Option Value)
  | other

def Document.content (d : Document) : Content :=
  match d.tagOf d.root with
  | .mapping => .mapping d.field?
  | .kind .null => .nothing
  | _ => .other

def read (source : Source) : Except Fault Content := do
  match ← Document.ofSource? source with
  | some d =>
    d.make
    return d.content
  | none => return .nothing

end RoomTransfer.Yaml
