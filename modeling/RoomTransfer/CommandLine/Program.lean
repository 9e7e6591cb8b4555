import RoomTransfer.CommandLine.Arguments
import RoomTransfer.CommandLine.Page
import RoomTransfer.CommandLine.Question
import RoomTransfer.LegacyIndex
import RoomTransfer.Migration
import RoomTransfer.Report
import RoomTransfer.Settings.File
import RoomTransfer.Settings.Starter
import RoomTransfer.Status
import RoomTransfer.Timestamp.Pattern

/-! The program: what each command does in a session, and the code with which it ends. A command
ends with one where its work failed, arguments that are refused end with two. -/
namespace RoomTransfer.CommandLine

variable {σ : Type} [Store.Database σ]

def versionLine : String := Scope.programName ++ ", version 0.1.0"

def loadSettings (env : Environment) (path : String) : Work σ Settings := do
  let (result,records) := Settings.load (← get).journal.files path env
  Work.logAll records
  Work.ofExcept result

/-- How a command ends that is not `migrate`: errors are logged, an interrupt breaks it off. -/
def settle (work : Work σ Unit) : Work σ Ending := do
  match ← work.attempt with
  | .ok () => pure (.exit 0)
  | .error failure =>
    if failure.endsProgram then pure (.unhandled failure)
    else if failure.isInterrupt then do
      Work.complain "\nAborted!\n"
      pure (.exit 1)
    else do
      Work.logAll (Summary.ofCommand failure true)
      pure (.exit 1)

def status (env : Environment) (config : String) : Work σ Unit := do
  let settings ← loadSettings env config
  let status ← Work.perform (TargetStatus.collect settings)
  Work.printLines status.opening
  Work.printLines (← Work.ofExcept status.closing)

def ensureIndex (env : Environment) (config : String) (yes : Bool) : Work σ Unit := do
  let settings ← loadSettings env config
  Work.ofExcept settings.requireLegacy
  let confirmed ← if yes then pure true
    else Question.ask ("Create index " ++ LegacyIndex.name ++ " on " ++ settings.legacy.location ++ "?")
  if confirmed then
    Work.perform (LegacyIndex.ensure settings.legacy)
    Work.log Log.info ("Index " ++ LegacyIndex.name ++ " is in place.")
  else Work.log Log.info "Index creation cancelled."

def initConfig (output : String) : Work σ Ending := do
  let (files,result,records) := Settings.Starter.write (← get).journal.files output
  Work.modifyJournal fun j => { j with files }
  Work.logAll records
  return .exit (if ← Work.ofExcept result then 0 else 1)

/-- The folder of a run is named for the moment at which it starts. -/
def runFolder (t : Timestamp) : String :=
  Files.join "migration_logs" (String.ofList (t.byPattern "run_%Y%m%d_%H%M%S".toList))

/-- The name of the watermark mode; a value that was never checked has none. -/
def modeName : ModeOption → Except Failure String
  | .mode mode => .ok mode.name
  | .unchecked v => .error (.missingAttribute v.qualifiedTypeName "value")

def batchText (options : Options) : Except Failure String :=
  if Number.isTooLong options.batchSize then .error (.badValue Number.writeTooLong)
  else .ok (String.ofList (Number.digits options.batchSize))

def logSettings (settings : Settings) (dryRun : Bool) : Work σ Unit := do
  Work.log Log.info "Starting legacy room migration"
  Work.log Log.info ("Legacy store: " ++ settings.legacy.location)
  Work.log Log.info ("Batch size: " ++ (← Work.ofExcept (batchText settings.options)))
  let mode ← Work.ofExcept (modeName settings.options.watermarkMode)
  Work.log Log.info ("Event watermark mode: " ++ mode)
  Work.log Log.info ("Dry run: " ++ if dryRun then "True" else "False")

/-- Writes the report of a run. That the file system refuses it is only logged. -/
def writeReport (folder : String) : Work σ Unit := do
  let state := (← get).world.state
  match ← (Work.withFiles fun t => Report.write t state folder Report.fileName).attempt with
  | .ok path => Work.logAll [Report.written path]
  | .error failure =>
    if failure.isFile then
      Work.log Log.warning ("Failed to write migration report: " ++ failure.message)
    else throw failure

/-- Runs the transfer and writes its report, whether it went well or not. A run that never began
has no report. -/
def transfer (env : Environment) (config : String) (dryRun : Bool) (folder : String) :
    Work σ Ending := do
  let began : Work σ Settings := do
    let settings ← loadSettings env config
    logSettings settings dryRun
    return settings
  match ← began.attempt with
  | .error failure =>
    Work.logAll (Summary.ofCommand failure true)
    return .exit 1
  | .ok settings =>
    modify fun s => { s with world := { s.world with state := { dryRun } } }
    match ← (Work.perform (Migration.migrate settings)).attempt with
    | .ok () =>
      writeReport folder
      return .exit 0
    | .error failure =>
      if failure.endsProgram then return .unhandled failure
      Work.logAll (Summary.ofCommand failure true)
      writeReport folder
      return .exit 1

/-- The `migrate` command: the folder of the run comes first, so that all of it is in the log. -/
def migrate (env : Environment) (config : String) (verbose dryRun jsonLogs : Bool) :
    Work σ Ending := do
  let folder := runFolder (← Work.perform Run.now)
  Work.withFiles (·.makeFolders folder)
  Work.withJournal (·.setUp verbose folder jsonLogs)
  Work.log Log.info ("Output directory: " ++ folder)
  transfer env config dryRun folder

def withConsole (verbose : Bool) : Work σ Unit := Work.withJournal (·.setUp verbose "" false)

def perform (env : Environment) : Order → Work σ Ending
  | .migrate config verbose dryRun jsonLogs => migrate env config verbose dryRun jsonLogs
  | .status config verbose => do
    withConsole verbose
    settle (status env config)
  | .ensureIndex config verbose yes => do
    withConsole verbose
    settle (ensureIndex env config yes)
  | .initConfig output => do
    withConsole false
    initConfig output

def refuse (scope : Scope) (fault : Fault) : Work σ Unit := do
  if fault.showsUsage then
    Work.complain (scope.usage ++ "\nTry '" ++ scope.path ++ " --help' for help.\n\n")
  Work.complain ("Error: " ++ fault.message ++ "\n")

def answer (env : Environment) : Request → Work σ Ending
  | .version => do
    Work.printLines [versionLine]
    return .exit 0
  | .page scope => do
    Work.printLines (Page.lines scope)
    return .exit 0
  | .order order => perform env order
  | .refused scope fault => do
    refuse scope fault
    return .exit 2

def run (arguments : List String) (env : Environment) (s : Session σ) : Ending × Session σ :=
  match (answer env (Request.ofArguments arguments)).run.run s with
  | (.ok ending,s) => (ending,s)
  | (.error failure,s) => (.unhandled failure,s)

end RoomTransfer.CommandLine
