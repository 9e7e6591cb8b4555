import RoomTransfer.Interval

/-! What passes between the program and its two databases, and the items of a trace. -/
namespace RoomTransfer.Store

inductive Side where
  | legacy
  | target
  deriving DecidableEq, Repr

inductive Request where
  | connect (side : Side) (address : Option String) (keywords : Row)
  | execute (side : Side) (cursor : String) (sql : String) (parameters : Value)
  | insert (sql : String) (rows : List Parameters)
  /-- The next rows of a legacy cursor: how many are asked for and how many it has. -/
  | fetch (cursor : String) (size : Int) (served : Nat)
  | begin
  | commit
  | close (side : Side)

/-- What a database answers: the rows of a query, its single row, and the number of rows that an
insert reports. -/
structure Reply where
  rows : List Row := []
  one : Value := .null
  count : Option Int := none

structure Fault where
  label : String
  failure : Failure

/-- A database that answers requests; `σ` is what it remembers between them. -/
class Database (σ : Type) where
  answer : Request → σ → Except Fault Reply × σ

def Request.side : Request → Side
  | .connect side _ _ | .execute side _ _ _ | .close side => side
  | .insert _ _ | .begin | .commit => .target
  | .fetch _ _ _ => .legacy

/-- An entry of a trace: a request, or something that happens without a reply. -/
inductive Item where
  | request (request : Request)
  | failed (side : Side) (label : String)
  | assign (name : String) (value : Value)
  | cursor (side : Side) (name : Option String)
  | rollback (kind : String)
  | exit (side : Side) (kind : Option String)
  | progressOpen (description unit : String) (disabled : Bool)
  | progressUpdate (rows : Nat)
  | progressClose

end RoomTransfer.Store
