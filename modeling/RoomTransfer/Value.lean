import RoomTransfer.Digest.Uuid
import RoomTransfer.Number.Shortest
import RoomTransfer.Timestamp

/-! Dynamic values: what a database column, a settings file or a log context may hold. Fields
of an object keep their order, and a field that is absent differs from one that is null. -/
namespace RoomTransfer

inductive Value where
  | null
  | bool (b : Bool)
  | int (i : Int)
  | float (x : Number.Binary64)
  | text (s : String)
  | stamp (t : Timestamp)
  | date (d : Date)
  | uuid (u : Uuid)
  | bytes (bs : List UInt8)
  | list (xs : List Value)
  | tuple (xs : List Value)
  | set (xs : List Value)
  | object (fields : List (Value × Value))
  /-- An object, or else a list, inside of which this place lies: it holds itself here. -/
  | around (isObject : Bool)

abbrev Row := List (String × Value)

/-- The value of a column; `none` where the row lacks it. -/
def Row.find? (row : Row) (name : String) : Option Value := List.lookup name row

/-- The value of a column, null where the row lacks it. -/
def Row.get (row : Row) (name : String) : Value := (row.find? name).getD .null

namespace Value

instance : Inhabited Value := ⟨.null⟩

def isNull : Value → Bool
  | .null => true
  | _ => false

def typeName : Value → String
  | .null => "NoneType"
  | .bool _ => "bool"
  | .int _ => "int"
  | .float _ => "float"
  | .text _ => "str"
  | .stamp _ => "datetime"
  | .date _ => "date"
  | .uuid _ => "UUID"
  | .bytes _ => "bytes"
  | .list _ => "list"
  | .tuple _ => "tuple"
  | .set _ => "set"
  | .object _ | .around true => "dict"
  | .around false => "list"

def qualifiedTypeName : Value → String
  | .stamp _ => "datetime.datetime"
  | .date _ => "datetime.date"
  | v => v.typeName

/-- Zero, the empty text and empty collections do not count as given. -/
def isGiven : Value → Bool
  | .null => false
  | .bool b => b
  | .int i => i ≠ 0
  | .float x => !x.isZero
  | .text s => !s.isEmpty
  | .bytes bs => !bs.isEmpty
  | .list xs | .tuple xs | .set xs => !xs.isEmpty
  | .object fields => !fields.isEmpty
  | _ => true

def isText (s : String) : Value → Bool
  | .text t => t = s
  | _ => false

def field? (fields : List (Value × Value)) (name : String) : Option Value :=
  (fields.find? fun (key,_) => key.isText name).map (·.2)

/-- Sets a field with a text key in place, or adds it at the end. -/
def setField (name : String) (value : Value) : List (Value × Value) → List (Value × Value)
  | [] => [(.text name,value)]
  | (key,old) :: rest =>
    if key.isText name then (key,value) :: rest else (key,old) :: setField name value rest

def ofRow (row : Row) : Value := .object (row.map fun (name,value) => (.text name,value))

inductive Numeric where
  | int (i : Int)
  | float (x : Number.Binary64)

def numeric? : Value → Option Numeric
  | .bool b => some (.int (if b then 1 else 0))
  | .int i => some (.int i)
  | .float x => some (.float x)
  | _ => none

/-- Numbers are compared by their exact values; what is no number is in no order. -/
def Numeric.compare? : Numeric → Numeric → Option Ordering
  | .int i,.int j => some (compare i j)
  | .float x,.float y => x.compare? y
  | .float x,.int j => x.compareInt? j
  | .int i,.float y => (y.compareInt? i).map Ordering.swap

mutual

/-- Equality of content: numbers of different kinds are equal when their values are, timestamps
when their instants are, and objects when they have equal values under equal keys. -/
def same : Value → Value → Bool
  | .null,.null => true
  | .text s,.text t => s = t
  | .stamp s,.stamp t => s.compare? t == some .eq
  | .date d,.date e => d = e
  | .uuid u,.uuid v => u = v
  | .bytes b,.bytes c => b = c
  | .list xs,.list ys => sameItems xs ys
  | .tuple xs,.tuple ys => sameItems xs ys
  | .set xs,.set ys => xs.length = ys.length && containsAll ys xs
  | .object fs,.object gs => fs.length = gs.length && agreesAll gs fs
  | v,w => match v.numeric?,w.numeric? with
    | some a,some b => a.compare? b == some .eq
    | _,_ => false

def sameItems : List Value → List Value → Bool
  | [],[] => true
  | x :: xs,y :: ys => same x y && sameItems xs ys
  | _,_ => false

def containsAll (ys : List Value) : List Value → Bool
  | [] => true
  | x :: xs => ys.any (same x) && containsAll ys xs

def agreesAll (gs : List (Value × Value)) : List (Value × Value) → Bool
  | [] => true
  | (key,value) :: fs => gs.any (fun g => same key g.1 && same value g.2) && agreesAll gs fs

end

/-- Sets a key, in its first place where it is there already. -/
def setKey (key value : Value) : List (Value × Value) → List (Value × Value)
  | [] => [(key,value)]
  | (k,v) :: rest =>
    if k.same key then (k,value) :: rest else (k,v) :: setKey key value rest

mutual

/-- Whether a value may serve as a key: collections that can change may not. -/
def isHashable : Value → Bool
  | .list _ | .set _ | .object _ | .around _ => false
  | .tuple xs => allHashable xs
  | _ => true

def allHashable : List Value → Bool
  | [] => true
  | x :: xs => isHashable x && allHashable xs

end

def unhashableType : Value → Option String
  | v@(.list _) | v@(.set _) | v@(.object _) | v@(.around _) => some v.typeName
  | .tuple xs => (xs.find? fun x => !x.isHashable).map typeName
  | _ => none

end Value

end RoomTransfer
