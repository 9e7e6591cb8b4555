import RoomTransfer.Log.Record
import RoomTransfer.RunState
import RoomTransfer.Store.Request

/-! Runs: computations that talk to the databases, keep the run's state and leave effects behind.
A run that fails keeps its world and its effects; nothing that happened is forgotten. -/
namespace RoomTransfer

/-- What can be seen of a run from outside, in order. -/
inductive Effect where
  | item (item : Store.Item)
  | log (record : Log.Record)

def traceOf (effects : List Effect) : List Store.Item :=
  effects.filterMap fun
    | .item item => some item
    | .log _ => none

def logsOf (effects : List Effect) : List Log.Record :=
  effects.filterMap fun
    | .item _ => none
    | .log record => some record

/-- All that a run can change: the databases, the run's state, the clock, and whether the legacy
link is open. -/
structure World (σ : Type) where
  stores : σ
  state : RunState := {}
  clock : List Timestamp := []
  linkOpen : Bool := false

structure Outcome (σ α : Type) where
  result : Except Failure α
  world : World σ
  effects : List Effect

def Run (σ α : Type) : Type := World σ → Outcome σ α

namespace Run

variable {σ α β : Type}

instance : Monad (Run σ) where
  pure a := fun w => ⟨.ok a,w,[]⟩
  bind x f := fun w =>
    let o := x w
    match o.result with
    | .error failure => ⟨.error failure,o.world,o.effects⟩
    | .ok a =>
      let p := f a o.world
      ⟨p.result,p.world,o.effects ++ p.effects⟩

@[simp] theorem pure_apply (a : α) (w : World σ) : (pure a : Run σ α) w = ⟨.ok a,w,[]⟩ := rfl

theorem bind_apply (x : Run σ α) (f : α → Run σ β) (w : World σ) :
    (x >>= f) w = match (x w).result with
      | .error failure => ⟨.error failure,(x w).world,(x w).effects⟩
      | .ok a => ⟨(f a (x w).world).result,(f a (x w).world).world,
          (x w).effects ++ (f a (x w).world).effects⟩ := rfl

def fail (failure : Failure) : Run σ α := fun w => ⟨.error failure,w,[]⟩

def ofExcept : Except Failure α → Run σ α
  | .ok a => pure a
  | .error failure => fail failure

def effect (e : Effect) : Run σ Unit := fun w => ⟨.ok (),w,[e]⟩

def note (item : Store.Item) : Run σ Unit := effect (.item item)

def log (record : Log.Record) : Run σ Unit := effect (.log record)

def logAll : List Log.Record → Run σ Unit
  | [] => pure ()
  | record :: rest => do
    log record
    logAll rest

def world : Run σ (World σ) := fun w => ⟨.ok w,w,[]⟩

def state : Run σ RunState := fun w => ⟨.ok w.state,w,[]⟩

def modifyState (f : RunState → RunState) : Run σ Unit :=
  fun w => ⟨.ok (),{ w with state := f w.state },[]⟩

def setLink (isOpen : Bool) : Run σ Unit := fun w => ⟨.ok (),{ w with linkOpen := isOpen },[]⟩

/-- Runs `x` and hands its result on, a failure included. -/
def attempt (x : Run σ α) : Run σ (Except Failure α) := fun w =>
  let o := x w
  ⟨.ok o.result,o.world,o.effects⟩

/-- Runs `cleanup` after `x` however `x` ends; a failure of `cleanup` takes the place of `x`'s. -/
def ensuring (x : Run σ α) (cleanup : Run σ Unit) : Run σ α := do
  let result ← attempt x
  cleanup
  ofExcept result

/-- Replaces a failure of `x`. -/
def mapFailure (f : Failure → Failure) (x : Run σ α) : Run σ α := do
  match ← attempt x with
  | .ok a => pure a
  | .error failure => fail (f failure)

/-- Gives a database failure the meaning that it has for the transfer; others pass. -/
def classify (f : String → Failure) (x : Run σ α) : Run σ α :=
  mapFailure (fun failure => if failure.isDatabase then f failure.message else failure) x

/-- Leaves a session however `x` ended, noting what it ended with. -/
def leaving (side : Store.Side) (x : Run σ α) : Run σ α := do
  match ← attempt x with
  | .ok a => do
    note (.exit side none)
    pure a
  | .error failure => do
    note (.exit side (some failure.kind.name))
    fail failure

def record (key : Counter) (count : Int) : Run σ Unit := do
  match (← state).record key count with
  | .ok next => modifyState fun _ => next
  | .error failure => fail failure

/-- A look at the clock: it moves on to its next time, and the last one stays. -/
def now : Run σ Timestamp := fun w =>
  match w.clock with
  | [] => ⟨.ok default,w,[]⟩
  | [t] => ⟨.ok t,w,[]⟩
  | t :: rest => ⟨.ok t,{ w with clock := rest },[]⟩

/-- Asks a database. The request is in the trace before its answer is known; a fault is noted
after it. -/
def ask [Store.Database σ] (request : Store.Request) : Run σ Store.Reply := fun w =>
  let (answer,stores) := Store.Database.answer request w.stores
  match answer with
  | .ok reply => ⟨.ok reply,{ w with stores },[.item (.request request)]⟩
  | .error fault => ⟨.error fault.failure,{ w with stores },
      [.item (.request request),.item (.failed request.side fault.label)]⟩

/-- Asks for rows. Only rows that were served are in the trace. -/
def askRows [Store.Database σ] (request : Store.Request) : Run σ Unit := fun w =>
  let (answer,stores) := Store.Database.answer request w.stores
  match answer with
  | .ok _ => ⟨.ok (),{ w with stores },[.item (.request request)]⟩
  | .error fault => ⟨.error fault.failure,{ w with stores },
      [.item (.failed request.side fault.label)]⟩

end Run

end RoomTransfer
