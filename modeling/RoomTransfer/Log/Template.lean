import RoomTransfer.Log.Template.Braces
import RoomTransfer.Log.Template.Dollar
import RoomTransfer.Log.Template.Percent
import RoomTransfer.Text.Blank

/-! Templates of log lines: text with fields, in one of three spellings. -/
namespace RoomTransfer.Log

inductive Spelling where
  | percent
  | braces
  | dollar
  deriving DecidableEq

namespace Spelling

def sign : Spelling → String
  | .percent => "%"
  | .braces => "\x7b"
  | .dollar => "$"

def all : List Spelling := [.percent,.braces,.dollar]

/-- The spelling with a sign; a sign has to be a text, or at least something that may serve as a
key. -/
def ofSign (v : Value) : Except Failure Spelling :=
  match all.find? fun spelling => v.isText spelling.sign,v.unhashableType with
  | some spelling,_ => .ok spelling
  | none,some typeName => .error (.unhashable typeName)
  | none,none => .error (.badValue ("Style must be one of: " ++ ",".intercalate (all.map sign)))

def timeMarks : Spelling → List String
  | .percent => ["%(asctime)"]
  | .braces => ["\x7basctime"]
  | .dollar => ["$asctime","$\x7basctime\x7d"]

end Spelling

namespace Template

def check (spelling : Spelling) (s : String) : Except Failure Unit :=
  match spelling with
  | .percent =>
    if Percent.hasField s.toList then .ok ()
    else .error (.badValue ("Invalid format '" ++ s ++ "' for '" ++ spelling.sign ++ "' style"))
  | .braces => Braces.check false (Braces.pieces s)
  | .dollar => Dollar.check (Dollar.pieces s)

/-- Whether a template asks for the time, or looks as if it did. -/
def usesTime (spelling : Spelling) (s : String) : Bool :=
  spelling.timeMarks.any fun mark => Text.occursIn mark.toList s.toList

def writeWith (spelling : Spelling) (s : String) (row : Row) : Except Failure (List Char) :=
  match spelling with
  | .percent =>
    let whole := Value.ofRow row
    Percent.write { rest := [whole], named? := some whole.itemNamed } (Percent.pieces s)
  | .braces => Braces.write row.find? (Braces.pieces s)
  | .dollar => Dollar.write row.find? (Dollar.pieces s)

/-- Writes a template. A key that is nowhere found is a field that the row lacks. -/
def write (spelling : Spelling) (s : String) (row : Row) : Except Failure (List Char) :=
  match writeWith spelling s row with
  | .error failure => match failure with
    | .missingKey _ | .missingItem _ =>
      .error (.badValue ("Formatting field not found in record: " ++ failure.message))
    | _ => .error failure
  | written => written

end Template

end RoomTransfer.Log
