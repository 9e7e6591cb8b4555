import RoomTransfer.Failure

/-! What is tracked during a run: counters that only grow, the watermark, and the outcome. The
watermark, the times and the error are null until they are known. -/
namespace RoomTransfer

/-- The counters of a run. -/
inductive Counter where
  | roomsRead
  | roomsWritten
  | adjustmentsRead
  | adjustmentsInserted
  | adjustmentsSkipped
  | eventsRead
  | eventsInserted
  | eventsDropped
  deriving DecidableEq, Repr

namespace Counter

def name : Counter → String
  | .roomsRead => "rooms_read"
  | .roomsWritten => "rooms_written"
  | .adjustmentsRead => "adjustments_read"
  | .adjustmentsInserted => "adjustments_inserted"
  | .adjustmentsSkipped => "adjustments_skipped"
  | .eventsRead => "events_read"
  | .eventsInserted => "events_inserted"
  | .eventsDropped => "events_dropped"

def all : List Counter :=
  [.roomsRead,.roomsWritten,.adjustmentsRead,.adjustmentsInserted,.adjustmentsSkipped,
    .eventsRead,.eventsInserted,.eventsDropped]

def ofName? (s : String) : Option Counter := all.find? (·.name = s)

end Counter

/-- A count for every counter. -/
def Counters : Type := Counter → Int

namespace Counters

def zero : Counters := fun _ => 0

def add (c : Counters) (key : Counter) (n : Nat) : Counters :=
  fun k => if k = key then c k + n else c k

@[simp] theorem zero_apply (k : Counter) : zero k = 0 := rfl

end Counters

structure RunState where
  counters : Counters := Counters.zero
  watermark : Value := .null
  dryRun : Bool := false
  committed : Bool := false
  startedAt : Value := .null
  finishedAt : Value := .null
  error : Value := .null

namespace RunState

/-- Adds to a counter; counts are never negative. -/
def record (s : RunState) (key : Counter) (count : Int) : Except Failure RunState :=
  if count < 0 then .error (.negativeCount count)
  else .ok { s with counters := s.counters.add key count.toNat }

/-- Adds to the counter with the given name. -/
def recordNamed (s : RunState) (name : String) (count : Int) : Except Failure RunState :=
  match Counter.ofName? name with
  | none => .error (.unknownCounter name)
  | some key => s.record key count

/-- The state at the start of a new run; only the dry-run flag is kept. -/
def reset (s : RunState) : RunState := { dryRun := s.dryRun }

def hasErrors (s : RunState) : Bool := !s.error.isNull

/-- Seconds from start to finish, zero until both are known. -/
def duration (s : RunState) : Except Failure Number.Binary64 :=
  match s.startedAt,s.finishedAt with
  | .null,_ | _,.null => .ok .zero
  | .stamp started,.stamp finished => match started.until? finished with
    | some micros => .ok (secondsOfMicros micros)
    | none => .error .timeDifference
  | started,finished => match started.numeric?,finished.numeric? with
    | some _,some _ => .error (.missingAttribute finished.typeName "total_seconds")
    | _,_ => .error .timeDifference

def totalWritten (s : RunState) : Int :=
  s.counters .roomsWritten + s.counters .adjustmentsInserted + s.counters .eventsInserted

end RunState

end RoomTransfer
