import RoomTransfer.Files
import RoomTransfer.Log.Record
import RoomTransfer.Yaml.Block

/-! The starter settings file: every option with its default. -/
namespace RoomTransfer.Settings.Starter

/-- The options by name, in alphabetical order. -/
def fields : List (String × Yaml.Block) := [
  ("agent_label",.text "web"),
  ("batch_size",.int Options.default.batchSize),
  ("open_room_years",.int Options.default.openRoomYears),
  ("pending_original_occurred_at",.int Options.default.pendingMarker),
  ("show_progress",.bool true),
  ("watermark_mode",.text WatermarkMode.strict.name)]

def note : String :=
  "# Credentials are read from SOURCE_HOST, SOURCE_PORT, SOURCE_DB,\n" ++
  "# SOURCE_USER, SOURCE_PASSWORD and DATABASE_URL.\n"

def content : List UInt8 :=
  Text.Utf8.encode (note ++ String.ofList (Yaml.document fields))

def record (level : Log.Level) (message : String) : Log.Record := ⟨level,message,[],.none⟩

/-- Writes the starter file, but never over something that is there. -/
def write (t : Files) (path : String) : Files × Except Failure Bool × List Log.Record :=
  let path := Files.tidy path
  match t.holds path with
  | .error cause => (t,.error (.file cause path),[])
  | .ok true =>
    (t,.ok false,
      [record Log.warning ("Config file " ++ path ++ " already exists, not overwriting")])
  | .ok false => match t.write path content with
    | .ok t => (t,.ok true,[record Log.info ("Created default config file at " ++ path)])
    | .error cause =>
      let failure := Failure.file cause path
      if failure.isFile then
        (t,.ok false,
          [record Log.error ("Failed to create default config file: " ++ failure.message)])
      else (t,.error failure,[])

end RoomTransfer.Settings.Starter
