import RoomTransfer.Log.Record
import RoomTransfer.Log.Template
import RoomTransfer.Value.Json

/-! Layouts of log records: one object per line, or a line by a template. -/
namespace RoomTransfer.Log

structure Origin where
  logger : String
  module : String
  line : Int := 1
  /-- Seconds since the start of 1970. -/
  moment : Int
  millis : Int := 0

/-- A line by a template, if asked for with the context behind it. -/
structure LineLayout where
  template : String
  spelling : Spelling := .percent
  datePattern : Value := .null
  withContext : Bool := false

inductive Layout where
  /-- One object with the record's own fields and those of its context. -/
  | object (datePattern : Value)
  | line (layout : LineLayout)

namespace Layout

/-- Names that belong to records themselves; a context field with such a name is not shown. -/
def ownNames : List String :=
  ["args","asctime","created","exc_info","exc_text","filename","funcName","levelname",
    "levelno","lineno","module","msecs","message","msg","name","pathname","process",
    "processName","relativeCreated","stack_info","taskName","thread","threadName"]

def visible (context : Row) : Row := context.filter fun (name,_) => !ownNames.contains name

def ownFields (origin : Origin) (record : Record) : Row := [
  ("name",.text origin.logger),("msg",.text record.message),("args",.tuple []),
  ("levelname",.text (levelName record.level)),("levelno",.int record.level),
  ("pathname",.text ""),("filename",.text ""),("module",.text origin.module),
  ("exc_info",match record.attached with
    | .absent => .tuple [.null,.null,.null]
    | _ => .null),
  ("exc_text",match record.attached with
    | .failure _ => .text "<traceback>"
    | _ => .null),
  ("stack_info",.null),("lineno",.int origin.line),("funcName",.null),
  ("created",.int origin.moment),("msecs",.int origin.millis),
  ("relativeCreated",.float .zero),("thread",.int 1),("threadName",.text "MainThread"),
  ("processName",.text "MainProcess"),("process",.int 1)]

def setField (row : Row) (name : String) (v : Value) : Row :=
  if (row.find? name).isSome then row.map fun (k,old) => (k,if k = name then v else old)
  else row ++ [(name,v)]

/-- The fields of a record: its own, and over them those of its context. -/
def fields (origin : Origin) (record : Record) : Row :=
  record.context.foldl (fun row (name,v) => setField row name v) (ownFields origin record)

def secondOf : Value → Except Failure Int
  | .int i => .ok i
  | .bool b => .ok (if b then 1 else 0)
  | .float x =>
    if x.isNaN then .error (.badValue "Invalid value NaN (not a number)")
    else if x.isInfinite then .error (.numberTooLarge "timestamp out of range for platform time_t")
    else
      let n : Int := x.units
      .ok ((if x.negative then -n else n) / (Number.Binary64.scale : Int))
  | v => .error (.wrongType ("'" ++ v.typeName ++ "' object cannot be interpreted as an integer"))

/-- What the clock shows at a second. Seconds beyond a machine word, years beyond half of one, and
years that only a part of the system can count are refused. -/
def faceOf (second : Int) : Except Failure Timestamp.Face :=
  if second < -0x8000000000000000 ∨ 0x8000000000000000 ≤ second then
    .error (.numberTooLarge "timestamp out of range for platform time_t")
  else if second < -67768040609740800 ∨ 67768036191676800 ≤ second then .error .timeTooFar
  else
    let face := Timestamp.Face.ofEpoch second
    if 0x7FFFFFFF < face.year then
      .error (.numberTooLarge "signed integer is greater than maximum")
    else .ok face

def timePattern : String := "%Y-%m-%d %H:%M:%S"

/-- The time of a record with the given fields: by the pattern, or with milliseconds behind a
comma. -/
def timeText (datePattern : Value) (row : Row) : Except Failure String := do
  let face ← faceOf (← secondOf (row.get "created"))
  if datePattern.isGiven then
    match datePattern with
    | .text s =>
      if s.toList.any (·.toNat = 0) then throw (.badValue "embedded null character")
      return String.ofList (Timestamp.Pattern.write face s.toList)
    | v => throw (.wrongType ("strftime() argument 1 must be str, not " ++ v.typeName))
  else
    let time := String.ofList (Timestamp.Pattern.write face timePattern.toList)
    Percent.fill "%s,%03d" (.tuple [.text time,row.get "msecs"])

/-- What a record with the given fields says. Arguments, if there are any, are filled in. -/
def messageText (row : Row) : Except Failure String :=
  let message := (row.get "msg").plain
  let arguments := row.get "args"
  if arguments.isGiven then Percent.fill message arguments else .ok message

/-- One object: the time, the level, the message and the module, then the context. -/
def objectText (datePattern : Value) (origin : Origin) (record : Record) :
    Except Failure String := do
  let row := fields origin record
  let time ← timeText datePattern row
  let message ← messageText row
  let opening := [(.text "time",.text time),(.text "level",row.get "levelname"),
    (.text "message",.text message),(.text "module",row.get "module")]
  let object : Value := .object ((visible record.context).foldl
    (fun fields (name,value) => Value.setField name value fields) opening)
  match Json.refusal? false object with
  | some refusal => throw (.notSerializable refusal)
  | none => return Json.text object

/-- The text of what went wrong, as a triple tells it. Only one that tells of nothing has a text. -/
def causeText (triple : Value) : Except Failure String := do
  let place ← triple.item 2
  let _ ← triple.item 0
  let cause ← triple.item 1
  if place.isNull && cause.isNull then return "NoneType: None"
  else throw (.missingAttribute place.qualifiedTypeName "tb_frame")

def below (line : String) : Value → Except Failure String
  | .text s => .ok (line ++ (if line.endsWith "\n" then "" else "\n") ++ s)
  | v => .error (.wrongType ("can only concatenate str (not \"" ++ v.typeName ++ "\") to str"))

/-- What is attached to a record with the given fields, below its line. -/
def withAttached (row : Row) (line : String) : Except Failure String := do
  let known := row.get "exc_text"
  let cause := row.get "exc_info"
  let known ← if cause.isGiven && !known.isGiven then Value.text <$> causeText cause else pure known
  let line ← if known.isGiven then below line known else pure line
  let stack := row.get "stack_info"
  if stack.isGiven then below line stack else return line

/-- The context in alphabetical order of its names. -/
def contextText (context : Row) : String :=
  let fields := (visible context).mergeSort fun a b => a.1 ≤ b.1
  if fields.isEmpty then ""
  else " [" ++ " ".intercalate (fields.map fun (name,v) => name ++ "=" ++ v.plain) ++ "]"

def lineText (layout : LineLayout) (origin : Origin) (record : Record) :
    Except Failure String := do
  let row := fields origin record
  let row := setField row "message" (.text (← messageText row))
  let row ← if Template.usesTime layout.spelling layout.template then do
      pure (setField row "asctime" (.text (← timeText layout.datePattern row)))
    else pure row
  let line ← Template.write layout.spelling layout.template row
  let line ← withAttached row (String.ofList line)
  return line ++ (if layout.withContext then contextText record.context else "")

def text (layout : Layout) (origin : Origin) (record : Record) : Except Failure String :=
  match layout with
  | .object datePattern => objectText datePattern origin record
  | .line layout => lineText layout origin record

def bare : Layout := .line { template := "%(message)s" }

def plainTemplate : String := "%(asctime)s - %(levelname)s - %(message)s"

def verboseTemplate : String :=
  "%(asctime)s - %(name)s - %(levelname)s - [%(module)s:%(lineno)d] - %(message)s"

def console (verbose : Bool) : Layout :=
  .line { template := if verbose then verboseTemplate else plainTemplate }

def logFile : Layout := .line { template := plainTemplate, withContext := true }

def spellingOption (options : Row) : Except Failure Spelling :=
  match options.find? "style" with
  | none => .ok .percent
  | some v => Spelling.ofSign v

def templateOf : Value → Except Failure String
  | .text s => .ok s
  | _ => .error (.wrongType "expected string or bytes-like object")

def knownOptions (known : List String) (options : Row) : Except Failure Unit :=
  match List.find? (fun (name,_) => !known.contains name) options with
  | some (name,_) => .error (.unknownArgument name)
  | none => .ok ()

/-- The object layout by its options. A template is checked, unless told otherwise, though objects
have no use for it. -/
def objectByOptions (options : Row) : Except Failure Layout := do
  knownOptions ["fmt","datefmt","style","validate","defaults"] options
  let spelling ← spellingOption options
  let template := options.get "fmt"
  let validate := (options.find? "validate").all Value.isGiven
  if validate && template.isGiven then Template.check spelling (← templateOf template)
  return .object (options.get "datefmt")

/-- The line layout by its options; a verbose one has its own template. -/
def lineByOptions (options : Row) : Except Failure Layout := do
  knownOptions ["fmt","datefmt","style","verbose","include_context"] options
  let asked := options.get "fmt"
  let template : Value :=
    if (options.get "verbose").isGiven then .text verboseTemplate
    else if asked.isGiven then asked
    else .text plainTemplate
  let spelling ← spellingOption options
  let template ← templateOf template
  Template.check spelling template
  return .line { template, spelling, datePattern := options.get "datefmt"
                 withContext := (options.get "include_context").isGiven }

end Layout

end RoomTransfer.Log
