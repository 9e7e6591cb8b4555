import RoomTransfer.CommandLine.Program
import Std.Time.DateTime.Timestamp

/-! The program as it is started. It gathers what a session needs from the system, runs the
session and hands its outcome back. No database is linked in, so every session with one is
refused. -/
namespace RoomTransfer.Main

structure Unreachable where

instance : Store.Database Unreachable where
  answer _ s := (.error ⟨"connect",.raised (.database "OperationalError") "no database is linked in"⟩,s)

def settingNames : List String :=
  ["SOURCE_HOST","SOURCE_PORT","SOURCE_DB","SOURCE_USER","SOURCE_PASSWORD","DATABASE_URL"]

def environment : IO Environment := do
  let mut env := []
  for name in settingNames do
    if let some value := ← IO.getEnv name then env := env ++ [(name,value)]
  return env

def now : IO Int := do
  let t ← Std.Time.Timestamp.now
  return t.toSecondsSinceUnixEpoch.val

/-- The paths that a session may look at. -/
def pathsOf (moment : Timestamp) : CommandLine.Request → List String
  | .order (.migrate config _ _ _) =>
    let folder := CommandLine.runFolder moment
    [config,Files.join folder Log.Journal.fileName,Files.join folder Report.fileName]
  | .order (.status config _) | .order (.ensureIndex config _ _) => [config]
  | .order (.initConfig output) => [output]
  | _ => []

def look (path : String) : IO (Option FileEntry) := do
  try
    let content ← IO.FS.readBinFile path
    return some (.file content.toList)
  catch
    | .inappropriateType _ code _ => return if code = 21 then some .folder else none
    | _ => return none

def gather (paths : List String) : IO Files := do
  let mut tree : Files := {}
  for path in paths.flatMap Files.chain do
    if let some entry := ← look path then
      if (Files.find tree path).toOption.isNone then tree := tree.withEntry path entry
  return tree

/-- Writes what is new or changed. -/
def store (before after : Files) : IO Unit := do
  for (path,entry) in after.everything do
    if (before.find path).toOption ≠ some entry then
      match entry with
      | .folder => IO.FS.createDirAll path
      | .file content => IO.FS.writeBinFile path ⟨content.toArray⟩

/-- Only an order that asks a question reads what the user types. -/
def typed : CommandLine.Request → IO (List String)
  | .order (.ensureIndex _ _ false) => do
    return CommandLine.linesOf (← (← IO.getStdin).readToEnd)
  | _ => return []

def run (arguments : List String) : IO UInt32 := do
  let request := CommandLine.Request.ofArguments arguments
  let second ← now
  let moment := (Timestamp.ofEpoch? second).getD default
  let files ← gather (pathsOf moment request)
  let origin : Log.Origin := { logger := "room_migrator", module := "logging", moment := second }
  let session : CommandLine.Session Unreachable := {
    journal := { origin, files }
    world := { stores := {}, clock := [moment] }
    answers := ← typed request }
  let (ending,session) := CommandLine.run arguments (← environment) session
  store files session.journal.files
  IO.print session.printed
  IO.eprint session.journal.console
  match ending with
  | .exit code => return code.toUInt32
  | .unhandled failure => do
    IO.eprintln (failure.kind.name ++ ": " ++ failure.message)
    return 1

end RoomTransfer.Main

def main (arguments : List String) : IO UInt32 := RoomTransfer.Main.run arguments
