import RoomTransfer.Number.Rounding
import RoomTransfer.Value

/-! The text of values inside messages: texts are quoted within collections, and a value by
itself is written plainly. -/
namespace RoomTransfer.Value

def bracketed (opening closing : String) (items : List String) : String :=
  opening ++ ", ".intercalate items ++ closing

mutual

/-- The text of a value with its kind made visible. Integers are written in full here: only options
and documents keep the limit `Number.mostDigits`. -/
def shown : Value → String
  | .null => "None"
  | .bool b => if b then "True" else "False"
  | .int i => String.ofList (Number.integerText i)
  | .float x => String.ofList (x.text Number.Binary64.plain)
  | .text s => Text.quoted s
  | .stamp t => t.constructed
  | .date d => d.constructed
  | .uuid u => "UUID('" ++ u.text ++ "')"
  | .bytes bs => Text.quotedBytes bs
  | .list xs => bracketed "[" "]" (shownItems xs)
  | .tuple xs => match shownItems xs with
    | [x] => "(" ++ x ++ ",)"
    | items => bracketed "(" ")" items
  | .set xs => match shownItems xs with
    | [] => "set()"
    | items => bracketed "\x7b" "\x7d" items
  | .object fields => bracketed "\x7b" "\x7d" (shownFields fields)
  | .around true => bracketed "\x7b" "\x7d" ["..."]
  | .around false => bracketed "[" "]" ["..."]

def shownItems : List Value → List String
  | [] => []
  | x :: xs => shown x :: shownItems xs

def shownFields : List (Value × Value) → List String
  | [] => []
  | (key,value) :: rest => (shown key ++ ": " ++ shown value) :: shownFields rest

end

mutual

/-- Whether no integer in a value has too many digits to be written. -/
def isWritable : Value → Bool
  | .int i => !Number.isTooLong i
  | .list xs | .tuple xs | .set xs => allWritable xs
  | .object fields => fieldsWritable fields
  | _ => true

def allWritable : List Value → Bool
  | [] => true
  | x :: xs => isWritable x && allWritable xs

def fieldsWritable : List (Value × Value) → Bool
  | [] => true
  | (key,value) :: rest => isWritable key && isWritable value && fieldsWritable rest

end

/-- The text of a value by itself: a text is itself, and times are written for reading. -/
def plain : Value → String
  | .text s => s
  | .stamp t => t.shown
  | .date d => String.ofList d.chars
  | .uuid u => u.text
  | v => v.shown

end RoomTransfer.Value
