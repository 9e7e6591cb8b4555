import RoomTransfer.Log.Record
import RoomTransfer.RunState

/-! The log records that close a run: what was written, or what went wrong and was rolled back. -/
namespace RoomTransfer.Summary

def count (n : Int) : String := String.ofList (Number.integerText n)

def tenths (x : Number.Binary64) : String := String.ofList (x.fixed 1)

def outcome (s : RunState) : Log.Record :=
  if s.dryRun then
    ⟨Log.info,"DRY RUN COMPLETED - ALL CHANGES ROLLED BACK",[("outcome",.text "dry_run_complete")],.none⟩
  else if s.counters .roomsRead = 0 ∧ s.counters .eventsRead = 0 then
    ⟨Log.warning,"MIGRATION COMPLETED BUT THE LEGACY STORE RETURNED NO ROWS",
      [("outcome",.text "no_work")],.none⟩
  else
    ⟨Log.info,"LEGACY ROOM MIGRATION COMMITTED SUCCESSFULLY",[("outcome",.text "success")],.none⟩

def durationLine (duration : Number.Binary64) : Log.Record :=
  ⟨Log.info,"Duration: " ++ tenths (duration.divNat 60) ++ " minutes (" ++ tenths duration ++ " seconds)",
    [("duration_seconds",.float duration)],.none⟩

/-- The watermark, where the run has read one. -/
def watermarkLines : Value → Except Failure (List Log.Record)
  | .null => .ok []
  | .stamp t => .ok [⟨Log.info,"Event watermark used: " ++ t.iso,[("stat",.text "watermark")],.none⟩]
  | v => .error (.missingAttribute v.qualifiedTypeName "isoformat")

def statistic (level : Log.Level) (name message : String) (n : Int) : Log.Record :=
  ⟨level,message,[("stat",.text name),("count",.int n)],.none⟩

def labels : List (Counter × String) :=
  [(.roomsWritten,"Rooms upserted"),(.adjustmentsInserted,"Adjustments inserted"),
    (.adjustmentsSkipped,"Adjustments already present"),(.eventsInserted,"Events inserted")]

def counterLines (s : RunState) : List Log.Record :=
  labels.map fun (key,label) =>
    statistic Log.info key.name
      (label ++ ": " ++ count (s.counters key) ++ (if s.dryRun then " (would be written)" else ""))
      (s.counters key)

def droppedLines (s : RunState) : List Log.Record :=
  if s.counters .eventsDropped = 0 then []
  else [statistic Log.warning "events_dropped"
    ("Events dropped (ineligible type): " ++ count (s.counters .eventsDropped))
    (s.counters .eventsDropped)]

/-- The records of a run that reached its end. They come in order, so a part that cannot be shown
leaves those before it. -/
def ofSuccess (s : RunState) : List (Except Failure (List Log.Record)) :=
  match s.duration with
  | .error failure => [.error failure]
  | .ok duration =>
    [.ok [outcome s,durationLine duration],
      watermarkLines s.watermark,
      .ok (counterLines s),
      .ok [statistic Log.info "total_written"
        ("Total rows written: " ++ count s.totalWritten) s.totalWritten],
      .ok (droppedLines s),
      .ok (if s.dryRun then
        [⟨Log.info,"Run again without --dry_run to commit the migration.",[],.none⟩] else [])]

/-- What failed. An interrupt is no failure of the run. -/
def failureLines (run : String) (duration : Number.Binary64) (failure : Failure) : List Log.Record :=
  if failure.isInterrupt then
    [⟨Log.warning,run ++ " INTERRUPTED BY USER",
      [("outcome",.text "interrupted"),("exception_type",.text failure.kind.name)],.none⟩]
  else
    [⟨Log.error,run ++ " FAILED",[("outcome",.text "failed"),
        ("exception_type",.text failure.kind.name),
        ("exception_message",.text failure.message)],.none⟩,
      ⟨Log.error,"Exception: " ++ failure.kind.name ++ ": " ++ failure.message,
        [("duration_seconds",.float duration)],.none⟩]

def rolledBack (s : RunState) : String :=
  "ROLLED BACK: " ++ count (s.counters .roomsWritten) ++ " room(s), " ++
    count (s.counters .adjustmentsInserted) ++ " adjustment(s), " ++
    count (s.counters .eventsInserted) ++ " event(s)"

/-- The records of a run that failed; `handled` tells that there is a stack to show. -/
def ofFailure (s : RunState) (failure : Failure) (handled : Bool) :
    Except Failure (List Log.Record) := do
  let duration ← s.duration
  let run := if s.dryRun then "DRY RUN" else "LEGACY ROOM MIGRATION"
  let level := if failure.isInterrupt then Log.warning else Log.error
  return failureLines run duration failure ++
    [⟨level,rolledBack s,[("outcome",.text "rolled_back")],.none⟩] ++
    (if handled && !failure.isInterrupt then [⟨Log.debug,"Traceback:",[],.none⟩] else []) ++
    [⟨level,"Nothing from this run was committed. Fix the data or configuration and run the " ++
      "migration again.",[],.none⟩]

/-- What a command logs of the failure that ended it. The transfer's own failures take one line,
anything unexpected shows its stack where it was `raised`. -/
def ofCommand (failure : Failure) (raised : Bool) : List Log.Record :=
  if failure.isOwn then [⟨Log.error,failure.message,[],.none⟩]
  else if failure.isDatabase then
    [⟨Log.error,"Database error: " ++ failure.message,[],.none⟩,
      ⟨Log.info,"Check that both stores are reachable and the target schema is up to date.",[],
        .none⟩]
  else if failure.isInterrupt then
    [⟨Log.warning,"Migration interrupted by user.",[],.none⟩,
      ⟨Log.info,"The transaction was rolled back; run the migration again when ready.",[],
        .none⟩]
  else
    [⟨Log.error,"Migration failed: " ++ failure.message,[],
      if raised then .failure failure.kind.name else .absent⟩]

end RoomTransfer.Summary
