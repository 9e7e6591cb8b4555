import RoomTransfer.Value.Shown

/-! Values as text of the object notation, in printable ASCII on one line. What the notation
has no form for is written as a text. -/
namespace RoomTransfer.Json

def escapeUnit (n : Nat) : List Char := '\\' :: 'u' :: Text.hexDigits 4 n

/-- One character inside a quoted text. Beyond printable ASCII it is escaped by its one or two
sixteen-bit units. -/
def escapeChar (c : Char) : List Char :=
  let n := c.toNat
  if c = '"' || c = '\\' then ['\\',c]
  else if 0x20 ≤ n ∧ n ≤ 0x7E then [c]
  else if c = '\n' then ['\\','n']
  else if c = '\r' then ['\\','r']
  else if c = '\t' then ['\\','t']
  else if n = 0x0C then ['\\','f']
  else if n = 0x08 then ['\\','b']
  else if n < 0x10000 then escapeUnit n
  else escapeUnit (0xD800 + (n - 0x10000) / 0x400) ++ escapeUnit (0xDC00 + (n - 0x10000) % 0x400)

def quotedChars (cs : List Char) : List Char := '"' :: (cs.flatMap escapeChar ++ ['"'])

def quoted (s : String) : List Char := quotedChars s.toList

def joined : List (List Char) → List Char
  | [] => []
  | [x] => x
  | x :: xs => x ++ ',' :: ' ' :: joined xs

/-- The key of a field: scalars are written as texts. -/
def keyChars : Value → List Char
  | .text s => quoted s
  | .null => quoted "null"
  | .bool b => quoted (if b then "true" else "false")
  | .float x => quoted (String.ofList (x.text Number.Binary64.structured))
  | v => quoted v.plain

mutual

/-- The text of a value. Integers are written in full, beyond `Number.mostDigits` as well. -/
def chars : Value → List Char
  | .null => "null".toList
  | .bool b => (if b then "true" else "false").toList
  | .int i => Number.integerText i
  | .float x => x.text Number.Binary64.structured
  | .text s => quoted s
  | .list xs | .tuple xs => '[' :: (joined (itemChars xs) ++ [']'])
  | .object fields => '\x7b' :: (joined (fieldChars fields) ++ ['\x7d'])
  | .set xs => quoted (Value.set xs).plain
  | .stamp t => quoted (Value.stamp t).plain
  | .date d => quoted (Value.date d).plain
  | .uuid u => quoted (Value.uuid u).plain
  | .bytes bs => quoted (Value.bytes bs).plain
  | .around isObject => quoted (Value.around isObject).plain

def itemChars : List Value → List (List Char)
  | [] => []
  | x :: xs => chars x :: itemChars xs

def fieldChars : List (Value × Value) → List (List Char)
  | [] => []
  | (key,value) :: rest => (keyChars key ++ ':' :: ' ' :: chars value) :: fieldChars rest

end

def text (v : Value) : String := String.ofList (chars v)

inductive Refusal where
  /-- A part of a type that the notation has no form for. -/
  | part (typeName : String)
  /-- A key that is no scalar of the notation. -/
  | key (typeName : String)

def isKey : Value → Bool
  | .null | .bool _ | .int _ | .float _ | .text _ => true
  | _ => false

mutual

/-- The first part of a value that cannot be written. Unless told to be `strict`, a part that the
notation has no form for is no hindrance. -/
def refusal? (strict : Bool) : Value → Option Refusal
  | .list xs | .tuple xs => itemRefusal? strict xs
  | .object fields => fieldRefusal? strict fields
  | v@(.set _) | v@(.stamp _) | v@(.date _) | v@(.uuid _) | v@(.bytes _) =>
    if strict then some (.part v.typeName) else none
  | _ => none

def itemRefusal? (strict : Bool) : List Value → Option Refusal
  | [] => none
  | x :: xs => (refusal? strict x).or (itemRefusal? strict xs)

def fieldRefusal? (strict : Bool) : List (Value × Value) → Option Refusal
  | [] => none
  | (key,value) :: rest =>
    if isKey key then (refusal? strict value).or (fieldRefusal? strict rest)
    else some (.key key.qualifiedTypeName)

end

end RoomTransfer.Json
