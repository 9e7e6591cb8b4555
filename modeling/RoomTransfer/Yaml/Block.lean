import RoomTransfer.Value
import RoomTransfer.Yaml.Style

/-! Documents in block notation: a field to a line, the fields of a nested mapping indented. -/
namespace RoomTransfer.Yaml

inductive Block where
  | null
  | bool (b : Bool)
  | int (i : Int)
  | float (x : Number.Binary64)
  | text (s : String)
  | mapping (fields : List (String × Block))

/-- Doubles keep a fraction in front of an exponent. -/
def floatLayout : Number.Binary64.Layout :=
  { Number.Binary64.plain with notNumber := ".nan", infinite := ".inf" }

def writeFloat (x : Number.Binary64) : List Char :=
  let cs := x.text floatLayout
  if cs.contains '.' then cs else cs.flatMap fun c => if c = 'e' then ['.','0','e'] else [c]

def fieldIndent : Nat := 2

mutual

/-- A value behind the colon of its field, from `column` on; fields are indented by `indent`. -/
def Block.write (indent column : Nat) : Block → List Char
  | .null => " null\n".toList
  | .bool b => (if b then " true\n" else " false\n").toList
  | .int i => ' ' :: Number.integerText i ++ ['\n']
  | .float x => ' ' :: writeFloat x ++ ['\n']
  | .text s => ' ' :: writeText (indent + fieldIndent) (column + 1) s.toList ++ ['\n']
  | .mapping [] => " \x7b\x7d\n".toList
  | .mapping (field :: fields) => '\n' :: writeFields (indent + fieldIndent) (field :: fields)

def writeFields (indent : Nat) : List (String × Block) → List Char
  | [] => []
  | (name,value) :: rest =>
    List.replicate indent ' ' ++ name.toList ++
      ':' :: value.write indent (indent + name.length + 1) ++ writeFields indent rest

end

def document (fields : List (String × Block)) : List Char := writeFields 0 fields

end RoomTransfer.Yaml
