import RoomTransfer.Files
import RoomTransfer.Log.Record
import RoomTransfer.RunState
import RoomTransfer.Yaml.Block

/-! The report of a run: its outcome and its counters, as a document. -/
namespace RoomTransfer.Report

def moment : Value → Except Failure Yaml.Block
  | .null => .ok .null
  | .stamp t => .ok (.text t.iso)
  | v => .error (.missingAttribute v.qualifiedTypeName "isoformat")

def error : Value → Except Failure Yaml.Block
  | .null => .ok .null
  | .bool b => .ok (.bool b)
  | .int i => .ok (.int i)
  | .float x => .ok (.float x)
  | .text s => .ok (.text s)
  | v => .error (.notSerializable (.part v.typeName))

def counter (s : RunState) (key : Counter) : Yaml.Block := .int (s.counters key)

/-- The report of a run; its duration is rounded to milliseconds. -/
def ofState (s : RunState) : Except Failure (List (String × Yaml.Block)) := do
  let startedAt ← moment s.startedAt
  let finishedAt ← moment s.finishedAt
  let duration ← s.duration
  return [
    ("migration_summary",.mapping [
      ("dry_run",.bool s.dryRun),
      ("committed",.bool s.committed),
      ("started_at",startedAt),
      ("finished_at",finishedAt),
      ("duration_seconds",.float (duration.roundPlaces 3)),
      ("event_watermark",← moment s.watermark),
      ("failed",.bool s.hasErrors),
      ("error",← error s.error)]),
    ("rooms",.mapping [("read",counter s .roomsRead),("written",counter s .roomsWritten)]),
    ("adjustments",.mapping [
      ("read",counter s .adjustmentsRead),
      ("inserted",counter s .adjustmentsInserted),
      ("skipped",counter s .adjustmentsSkipped)]),
    ("events",.mapping [
      ("read",counter s .eventsRead),
      ("inserted",counter s .eventsInserted),
      ("dropped",counter s .eventsDropped)])]

def fileName : String := "migration_report.yaml"

/-- Writes the report into a folder. The file is there, if empty, where the report itself cannot
be made. -/
def write (t : Files) (s : RunState) (folder name : String) : Files × Except Failure String :=
  match t.makeFolders folder with
  | (t,.error failure) => (t,.error failure)
  | (t,.ok ()) =>
    let path := Files.join folder name
    match t.write path [] with
    | .error cause => (t,.error (.file cause path))
    | .ok opened => match ofState s with
      | .error failure => (opened,.error failure)
      | .ok report =>
        let content := Text.Utf8.encode (String.ofList (Yaml.document report))
        ((opened.write path content).toOption.getD opened,.ok path)

def written (path : String) : Log.Record :=
  ⟨Log.info,"Migration report written to " ++ path,[],.none⟩

end RoomTransfer.Report
