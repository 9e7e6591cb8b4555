import RoomTransfer.Files
import RoomTransfer.Log.Layout

/-! The journal: where log records go. Each handler takes the records from its level on, the
console as text and files as bytes; without any handler, warnings still reach the console. -/
namespace RoomTransfer.Log

inductive Sink where
  | console
  /-- A file, written from `position` on. -/
  | file (path : String) (position : Nat)

structure Handler where
  sink : Sink
  level : Level
  layout : Layout

structure Journal where
  origin : Origin
  /-- Zero until the journal is set up. -/
  level : Level := 0
  handlers : List Handler := []
  /-- What has been written to the console. -/
  console : String := ""
  files : Files := {}

namespace Journal

/-- The level from which on records are taken. One that is not set up takes warnings. -/
def threshold (j : Journal) : Level := if j.level = 0 then warning else j.level

def takes (j : Journal) (level : Level) : Bool := 0 < level && j.threshold ≤ level

def reservedNames : List String :=
  ["message","asctime","name","msg","args","levelname","levelno","pathname","filename",
    "module","exc_info","exc_text","stack_info","lineno","funcName","created","msecs",
    "relativeCreated","thread","threadName","processName","process"]

/-- Puts bytes over a content from a position on. -/
def overwrite (content : List UInt8) (position : Nat) (bytes : List UInt8) : List UInt8 :=
  let before := content.take position
  before ++ List.replicate (position - before.length) 0 ++ bytes ++
    content.drop (position + bytes.length)

def writeLine (j : Journal) (line : String) : Sink → Journal × Sink
  | .console => ({ j with console := j.console ++ line ++ "\n" },.console)
  | .file path position =>
    let bytes := Text.Utf8.encode (line ++ "\n")
    let content := (j.files.read path).toOption.getD []
    let files := (j.files.write path (overwrite content position bytes)).toOption.getD j.files
    ({ j with files },.file path (position + bytes.length))

/-- Hands a record to every handler of its level. A layout that cannot show it leaves no line. -/
def deliver (record : Record) : Journal → List Handler → Journal × List Handler
  | j,[] => (j,[])
  | j,h :: rest =>
    let (j,h) :=
      if h.level ≤ record.level then
        match h.layout.text j.origin record with
        | .ok line =>
          let (j,sink) := j.writeLine line h.sink
          (j,{ h with sink })
        | .error _ => (j,h)
      else (j,h)
    let (j,rest) := deliver record j rest
    (j,h :: rest)

def lastResort : Handler := ⟨.console,warning,.bare⟩

def put (j : Journal) (record : Record) : Journal :=
  if j.takes record.level then
    match j.handlers with
    | [] => (deliver record j [lastResort]).1
    | handlers =>
      let (j,handlers) := deliver record j handlers
      { j with handlers }
  else j

def putAll (j : Journal) (records : List Record) : Journal := records.foldl put j

def given (context : Row) : Row := context.filter fun (_,v) => !v.isNull

/-- Logs a message with a context. A field with a reserved name is refused once the record is
taken; two names belong to the call itself. -/
def log (j : Journal) (level : Level) (message : String) (context : Row) :
    Journal × Except Failure Unit :=
  match List.find? (fun (name,_) => name = "level" || name = "message") context with
  | some (name,_) => (j,.error (.ambiguousArgument name))
  | none =>
    let attached := if (context.get "exc_info").isGiven then Attachment.absent else .none
    let fields := (given context).filter fun (name,_) => name ≠ "exc_info"
    if j.takes level then
      match List.find? (fun (name,_) => reservedNames.contains name) fields with
      | some (name,_) =>
        (j,.error (.reservedName name))
      | none => (j.put ⟨level,message,fields,attached⟩,.ok ())
    else (j,.ok ())

def fileName : String := "migration.log"

/-- Adds a handler that writes every record of a run to a file, which starts empty. -/
def openFile (j : Journal) (folder : String) : Journal × Except Failure Level :=
  match j.files.makeFolders folder with
  | (files,.error failure) => ({ j with files },.error failure)
  | (files,.ok ()) =>
    let path := Files.join folder fileName
    match files.write path [] with
    | .error cause => ({ j with files },.error (.file cause path))
    | .ok files =>
      let handler : Handler := ⟨.file path 0,debug,.logFile⟩
      let j := { j with files, handlers := j.handlers ++ [handler] }
      (j.put ⟨info,"Main log file created at: " ++ path,[],.none⟩,.ok handler.level)

def consoleHandler (verbose objects : Bool) : Handler :=
  ⟨.console,if verbose then debug else info,if objects then .object .null else .console verbose⟩

/-- Sets the journal up anew: a console and, where a folder is named, a file. -/
def setUp (j : Journal) (verbose : Bool) (folder : String) (objects : Bool) :
    Journal × Except Failure Unit :=
  let j := { j with level := debug, handlers := [consoleHandler verbose objects] }
  if folder.isEmpty then (j,.ok ())
  else
    let (j,result) := j.openFile folder
    (j,result.map fun _ => ())

def ready (j : Journal) : Journal :=
  if j.handlers.isEmpty then { j with level := info, handlers := [consoleHandler false false] }
  else j

end Journal

end RoomTransfer.Log
