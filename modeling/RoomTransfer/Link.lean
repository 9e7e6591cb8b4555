import RoomTransfer.Run
import RoomTransfer.Settings

/-! The legacy link: one read-only session per job, inside one repeatable-read transaction, so
that every step sees the same snapshot. Its rows come in batches. -/
namespace RoomTransfer

def namedRows : String × Value := ("row_factory",.text "dict_row")

/-- How many of `length` rows a request for `size` rows takes: a negative size leaves that many
rows at the end. -/
def batchLength (size : Int) (length : Nat) : Nat :=
  if size < 0 then length - size.natAbs else size.toNat

def batchesFrom (size : Int) : Nat → List Row → List (List Row)
  | 0,_ => []
  | fuel + 1,rows => match rows.take (batchLength size rows.length) with
    | [] => []
    | batch => batch :: batchesFrom size fuel (rows.drop batch.length)

def batches (size : Int) (rows : List Row) : List (List Row) := batchesFrom size rows.length rows

namespace Link

variable {σ α : Type} [Store.Database σ]

def entity : String := "legacy_link"

/-- Opens the session, which is set up before its first statement. An open link stays as it
is. -/
def acquire (credentials : Credentials) : Run σ Unit := do
  if (← Run.world).linkOpen then pure ()
  else
    Run.log (.about Log.info entity ("Opening legacy link to " ++ credentials.location))
    let _ ← Run.classify (.legacyRefused credentials.location)
      (Run.ask (.connect .legacy none (credentials.keywords ++ [namedRows])))
    Run.note (.assign "isolation_level" (.text "REPEATABLE_READ"))
    Run.note (.assign "read_only" (.bool true))
    Run.setLink true

/-- Closes the session. That a database fails to close it is only logged, and a closed link stays
as it is. -/
def release : Run σ Unit := do
  if (← Run.world).linkOpen then
    Run.setLink false
    match ← Run.attempt (Run.ask (.close .legacy)) with
    | .ok _ => Run.log (.about Log.info entity "Legacy link closed")
    | .error failure =>
      if failure.isDatabase then
        Run.log (.about Log.warning entity ("Error while closing legacy link: " ++ failure.message))
      else Run.fail failure
  else pure ()

def connection : Run σ Unit := do
  if (← Run.world).linkOpen then pure () else Run.fail .linkClosed

def openCursor (name : String) : Run σ Unit := do
  connection
  Run.note (.cursor .legacy (if name.isEmpty then none else some name))

/-- Runs `body` with the session open and closes it however `body` ends. -/
def within (credentials : Credentials) (body : Run σ α) : Run σ α := do
  acquire credentials
  Run.ensuring body release

structure Query where
  sql : String
  parameters : Value := .null
  size : Int
  cursor : String := ""

/-- What a failure while rows are fetched is to the one who takes them. What the database reports
is a failed query, and the signal that an iteration is over must not pass for the end of the rows. -/
def fetchFailure (failure : Failure) : Failure :=
  if failure.isDatabase then .legacyQuery failure.message
  else if failure.endsIteration then .iterationEnded
  else failure

def serve (q : Query) (rows : Nat) : Run σ Unit :=
  Run.mapFailure fetchFailure (Run.askRows (.fetch q.cursor q.size rows))

/-- Serves batch after batch and hands each on before the next is asked for. The last request
finds no rows. -/
def consume (q : Query) (each : α → List Row → Run σ α) (a : α) : List (List Row) → Run σ α
  | [] => do
    serve q 0
    pure a
  | batch :: rest => do
    serve q batch.length
    let next ← each a batch
    consume q each next rest

def fetch (q : Query) (each : α → List Row → Run σ α) (a : α) : Run σ α := do
  openCursor q.cursor
  let reply ← Run.mapFailure fetchFailure
    (Run.ask (.execute .legacy q.cursor q.sql q.parameters))
  consume q each a (batches q.size reply.rows)

def fetchAll (q : Query) : Run σ (List (List Row)) :=
  fetch q (fun got batch => pure (got ++ [batch])) []

end Link

end RoomTransfer
