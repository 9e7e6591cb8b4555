import RoomTransfer.Files
import RoomTransfer.Log.Record
import RoomTransfer.Settings
import RoomTransfer.Yaml.Document

/-! Settings from a file and the environment. A missing or unreadable file leaves the defaults,
option values that are not valid are refused. -/
namespace RoomTransfer.Settings

def record (level : Log.Level) (message : String) : Log.Record := ⟨level,message,[],.none⟩

def unusable (path : String) : List Log.Record :=
  [record Log.warning ("Failed to load config file " ++ path)]

/-- What is in a file; nothing where there is no file to read. -/
def readFile (t : Files) (path : String) : Except Failure Yaml.Content × List Log.Record :=
  match t.holds path with
  | .error cause => (.error (.file cause path),[])
  | .ok false =>
    (.ok .nothing,
      [record Log.debug ("Config file " ++ path ++ " not found, using default settings")])
  | .ok true => match t.read path with
    | .error _ => (.ok .nothing,unusable path)
    | .ok bytes => match Yaml.read (.ofBytes bytes) with
      | .ok content => (.ok content,[record Log.info ("Loaded configuration from " ++ path)])
      | .error (.refused cause) => (.error cause,[])
      | .error _ => (.ok .nothing,unusable path)

def optionsOf (path : String) : Yaml.Content → Except Failure Options
  | .nothing => .ok .default
  | .mapping field? => match Options.ofGiven field? with
    | .ok options => .ok options
    | .error cause => .error (.settingsInvalid path cause)
  | .other => .error (.settingsNotMapping path)

/-- The settings from a file and the environment, and what is logged on the way. -/
def load (t : Files) (path : String) (env : Environment) :
    Except Failure Settings × List Log.Record :=
  let path := Files.tidy path
  let (content,records) := readFile t path
  (do
    let options ← optionsOf path (← content)
    withEnvironment { options } env,records)

end RoomTransfer.Settings
