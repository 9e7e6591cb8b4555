import RoomTransfer.Step
import RoomTransfer.Summary

/-! One all-or-nothing transfer: rooms, adjustments and events in this order, inside one target
transaction. The legacy link opens before any write and closes on every way out. -/
namespace RoomTransfer

variable {σ α : Type}

def Run.logParts : List (Except Failure (List Log.Record)) → Run σ Unit
  | [] => pure ()
  | part :: rest => do
    Run.logAll (← Run.ofExcept part)
    logParts rest

namespace Migration

variable [Store.Database σ]

/-- What a transaction that was rolled back makes of the failure of its body: one that asked for
just that goes no further. -/
def passOn (failure : Failure) : Except Failure Unit :=
  if failure.isRollback then .ok () else .error failure

/-- Runs `body` inside a target transaction. It is rolled back where `body` fails and at the end
of a dry run, and committed otherwise. -/
def transaction (body : Run σ Unit) : Run σ Unit := do
  let _ ← Run.ask .begin
  match ← Run.attempt body with
  | .error failure => do
    Run.note (.rollback failure.kind.name)
    Run.ofExcept (passOn failure)
  | .ok () =>
    if (← Run.state).dryRun then Run.note (.rollback "Rollback")
    else do
      let _ ← Run.ask .commit

def openTarget (settings : Settings) : Run σ Unit := do
  let _ ← Run.classify .targetRefused (Run.ask
    (.connect .target (some settings.targetAddress) [("autocommit",.bool true),namedRows]))

def closeTarget : Run σ Unit := do
  let _ ← Run.ask (.close .target)

def announced (entity : String) (step : Run σ Nat) : Run σ Unit := do
  Run.log (.about Log.debug entity ("Running " ++ entity ++ " step"))
  let _ ← step

/-- The steps in the order in which their rows refer to each other. -/
def steps (options : Options) : Run σ Unit := do
  Run.note (.cursor .target none)
  announced "room" (transferRooms options)
  announced "adjustment" (transferAdjustments options)
  announced "event" (transferEvents options)

def writeAll (settings : Settings) : Run σ Unit := do
  openTarget settings
  Run.ensuring (do
    transaction (steps settings.options)
    Run.modifyState fun s => { s with committed := !s.dryRun }) closeTarget

def conclude (failure : Failure) : Run σ Unit := do
  let finishedAt ← Run.now
  Run.modifyState fun s =>
    { s with
      finishedAt := .stamp finishedAt
      error := .text failure.message
      committed := false }
  Run.logAll (← Run.ofExcept (Summary.ofFailure (← Run.state) failure true))

/-- What becomes of a failure: the transfer's own failures and interrupts are booked, a database
failure that no step has classified becomes one of the transaction, others pass. -/
def settle (failure : Failure) : Run σ Unit := do
  if failure.isOwn || failure.isInterrupt then
    conclude failure
    Run.fail failure
  else if failure.isDatabase then
    let failure := Failure.transactionFailed failure.message
    conclude failure
    Run.fail failure
  else Run.fail failure

/-- The records and the clock at the start of a run; nothing of an earlier run is left. -/
def start : Run σ Unit := do
  Run.modifyState RunState.reset
  let startedAt ← Run.now
  Run.modifyState fun s => { s with startedAt := .stamp startedAt }
  let mark := if (← Run.state).dryRun then "[DRY RUN] " else ""
  Run.log ⟨Log.info,mark ++ "Starting legacy room migration",[],.none⟩

def finish : Run σ Unit := do
  let finishedAt ← Run.now
  Run.modifyState fun s => { s with finishedAt := .stamp finishedAt }
  Run.logParts (Summary.ofSuccess (← Run.state))

def migrate (settings : Settings) : Run σ Unit := do
  Run.ofExcept settings.requireLegacy
  Run.ofExcept settings.requireTarget
  start
  match ← Run.attempt (Link.within settings.legacy (writeAll settings)) with
  | .error failure => settle failure
  | .ok () => finish

end Migration

end RoomTransfer
