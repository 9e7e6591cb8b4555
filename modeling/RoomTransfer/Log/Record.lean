import RoomTransfer.Failure

/-! Log records: a level, a message, context fields in the order given, and what is attached of
a failure. -/
namespace RoomTransfer.Log

/-- Levels are numbers; five of them have a meaning of their own. -/
abbrev Level := Int

def debug : Level := 10
def info : Level := 20
def warning : Level := 30
def error : Level := 40
def critical : Level := 50

/-- The name of a level, or its number where it has none. -/
def levelName (level : Level) : String :=
  if level = 0 then "NOTSET"
  else if level = debug then "DEBUG"
  else if level = info then "INFO"
  else if level = warning then "WARNING"
  else if level = error then "ERROR"
  else if level = critical then "CRITICAL"
  else "Level " ++ String.ofList (Number.integerText level)

/-- What a record carries of a failure: nothing, a note that none was at hand, or its kind. -/
inductive Attachment where
  | none
  | absent
  | failure (kind : String)
  deriving DecidableEq

structure Record where
  level : Level
  message : String
  context : Row := []
  attached : Attachment := .none

/-- A record about one kind of entity. -/
def Record.about (level : Level) (entity message : String) (more : Row := []) : Record :=
  { level, message, context := ("entity",.text entity) :: more }

end RoomTransfer.Log
