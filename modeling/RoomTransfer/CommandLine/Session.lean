import RoomTransfer.Log.Journal
import RoomTransfer.Run

/-! Sessions: what a command works on. It has a journal with the files around it, the world of its
runs, and a user who reads what is printed and answers in lines. -/
namespace RoomTransfer.CommandLine

structure Session (σ : Type) where
  journal : Log.Journal
  world : World σ
  /-- What the databases have been asked, in order. -/
  trace : List Store.Item := []
  printed : String := ""
  /-- What the user is going to answer. -/
  answers : List String := []

/-- How a session ends: with a code, or with a failure that nothing has handled. -/
inductive Ending where
  | exit (code : Nat)
  | unhandled (failure : Failure)

/-- Work within a session. What it did stays done when it fails. -/
abbrev Work (σ α : Type) := ExceptT Failure (StateM (Session σ)) α

namespace Work

variable {σ α : Type}

def modifyJournal (f : Log.Journal → Log.Journal) : Work σ Unit :=
  modify fun s => { s with journal := f s.journal }

def ofExcept : Except Failure α → Work σ α
  | .ok a => pure a
  | .error failure => throw failure

/-- Does some work and hands its result on, a failure included. -/
def attempt (work : Work σ α) : Work σ (Except Failure α) := ExceptT.lift work.run

def withJournal (f : Log.Journal → Log.Journal × Except Failure α) : Work σ α := do
  let (journal,result) := f (← get).journal
  modifyJournal fun _ => journal
  ofExcept result

def withFiles (f : Files → Files × Except Failure α) : Work σ α :=
  withJournal fun j =>
    let (files,result) := f j.files
    ({ j with files },result)

def logAll (records : List Log.Record) : Work σ Unit := modifyJournal (·.putAll records)

def log (level : Log.Level) (message : String) : Work σ Unit :=
  logAll [⟨level,message,[],.none⟩]

/-- Runs something in the session's world. Its records go to the journal. -/
def perform (run : Run σ α) : Work σ α := do
  let s ← get
  let outcome := run s.world
  set { s with
    world := outcome.world
    journal := s.journal.putAll (logsOf outcome.effects)
    trace := s.trace ++ traceOf outcome.effects }
  ofExcept outcome.result

def print (text : String) : Work σ Unit := modify fun s => { s with printed := s.printed ++ text }

def printLines (lines : List String) : Work σ Unit := print (String.join (lines.map (· ++ "\n")))

def complain (text : String) : Work σ Unit :=
  modifyJournal fun j => { j with console := j.console ++ text }

end Work

def linesOf (s : String) : List String :=
  let lines := Text.pieces '\n' s
  match lines.getLast? with
  | some "" => lines.dropLast
  | _ => lines

end RoomTransfer.CommandLine
