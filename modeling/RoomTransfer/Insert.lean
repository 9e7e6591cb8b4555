import RoomTransfer.Failure

/-! Insert statements for the target tables. Each table has its own rule for a row whose key is
already there: overwrite some columns, leave the row alone, or let it be an error. -/
namespace RoomTransfer

inductive ConflictPolicy where
  | update
  | skip
  | none
  deriving DecidableEq, Repr

namespace ConflictPolicy

def name : ConflictPolicy → String
  | .update => "update"
  | .skip => "skip"
  | .none => "none"

def all : List ConflictPolicy := [.update,.skip,.none]

def ofName? (s : String) : Option ConflictPolicy := all.find? (·.name = s)

end ConflictPolicy

structure Insert where
  table : String
  columns : List String
  policy : ConflictPolicy
  /-- The columns that identify a row. -/
  conflictTarget : List String := []
  /-- The columns that an existing row takes over. -/
  updateColumns : List String := []
  /-- Columns whose value is not simply their placeholder. -/
  expressions : List (String × String) := []
  deriving DecidableEq

namespace Insert

/-- Update columns that are not inserted, sorted and without repetition. -/
def unknownColumns (i : Insert) : List String :=
  ((i.updateColumns.filter fun c => !i.columns.contains c).eraseDups).mergeSort (· ≤ ·)

/-- Why an insert cannot be built: what to overwrite or what identifies a row is missing, or a
column to overwrite is not inserted. -/
def defect? (i : Insert) : Option String :=
  if i.policy = .update ∧ i.updateColumns = [] then
    some (i.table ++ ": UPDATE policy needs update_columns")
  else if i.policy ≠ .none ∧ i.conflictTarget = [] then
    some (i.table ++ ": " ++ i.policy.name ++ " policy needs a conflict target")
  else if i.unknownColumns ≠ [] then
    some (i.table ++ ": cannot update unknown columns " ++
      (Value.list (i.unknownColumns.map .text)).shown)
  else none

def check (i : Insert) : Except Failure Insert :=
  match i.defect? with
  | some message => .error (.badValue message)
  | none => .ok i

def reserved : List String := ["offset","set","time"]

def quotedName (column : String) : String :=
  if reserved.contains column then "\"" ++ column ++ "\"" else column

def listed (items : List String) : String := ", ".intercalate items

/-- The value of a column: its expression, or the placeholder of its name. -/
def valueOf (i : Insert) (column : String) : String :=
  (List.lookup column i.expressions).getD ("%(" ++ column ++ ")s")

def assignment (column : String) : String :=
  quotedName column ++ " = excluded." ++ quotedName column

def conflictClause (i : Insert) : String :=
  let target := listed (i.conflictTarget.map quotedName)
  match i.policy with
  | .none => ""
  | .skip => " on conflict (" ++ target ++ ") do nothing"
  | .update => " on conflict (" ++ target ++ ") do update set " ++
      listed (i.updateColumns.map assignment)

def sql (i : Insert) : String :=
  "insert into " ++ i.table ++ " (" ++ listed (i.columns.map quotedName) ++ ") values (" ++
    listed (i.columns.map i.valueOf) ++ ")" ++ i.conflictClause

def rooms : Insert where
  table := "room"
  columns := ["id","audience","source_room_id","time","created_at"]
  policy := .update
  conflictTarget := ["id"]
  updateColumns := ["time"]

/-- Adjustments are never touched once written. -/
def adjustments : Insert where
  table := "adjustment"
  columns := ["room_id","started_at","segments","offset","created_at"]
  policy := .skip
  conflictTarget := ["room_id"]

def eventColumns : List String :=
  ["id","room_id","kind","set","label","data","occurred_at","created_by","created_at",
    "original_occurred_at"]

def authorExpression : String :=
  "row(row(%(account_label)s, %(account_audience)s)::account_id, %(agent_label)s)::agent_id"

/-- Events after the watermark: a row that is already there is an error. -/
def strictEvents : Insert where
  table := "event"
  columns := eventColumns
  policy := .none
  expressions := [("created_by",authorExpression)]

/-- Events from the watermark on: rows that are already there are skipped. -/
def inclusiveEvents : Insert where
  table := "event"
  columns := eventColumns
  policy := .skip
  conflictTarget := ["id"]
  expressions := [("created_by",authorExpression)]

end Insert

end RoomTransfer
