import RoomTransfer.Proofs.TextReading
import RoomTransfer.Step

/-! The text of a query, read. A query names the columns that it asks for, the conditions that a row
has to meet and the columns that the rows are ordered by. It is carried out over rows that are known
by what stands in their columns, so all that is served follows from the text. -/
namespace RoomTransfer.Store

open Text Text.Reader

/-- A condition on the rows of a table. Parameters go by their names. -/
inductive Condition where
  | absent (column : String)
  /-- Something other than the empty document stands there. -/
  | filled (column : String)
  | beyond (column : String) (inclusive : Bool) (parameter : String)
  | among (column parameter : String)
  deriving DecidableEq

structure Query where
  columns : List String
  table : String
  conditions : List Condition
  order : List String
  deriving DecidableEq

/-- A query for the greatest value of a column, and the name under which it is answered. -/
structure Greatest where
  column : String
  label : String
  table : String
  deriving DecidableEq

section Reading

def smallName : Reader String := do
  let cs ← span fun c => c.isLower || c = '_'
  return String.ofList cs

def columnName : Reader String := (do mark "\""; let s ← smallName; mark "\""; return s) <|> smallName

def placeholder : Reader String := do
  mark "%("
  let s ← smallName
  mark ")s"
  return s

def condition : Reader Condition := do
  let column ← columnName
  (do mark " is null"; return .absent column) <|>
    (do mark " != '\x7b\x7d'::jsonb"; return .filled column) <|>
    (do mark " >= "; let parameter ← placeholder; return .beyond column true parameter) <|>
    (do mark " > "; let parameter ← placeholder; return .beyond column false parameter) <|>
    (do
      mark " = any("
      let parameter ← placeholder
      mark ")"
      return .among column parameter)

def query : Reader Query := do
  mark "select "
  let columns ← separated (mark " from ") (mark ", ") columnName
  let table ← smallName
  mark " where "
  let conditions ← separated (ended <|> mark " order by ") (mark " and ") condition
  let order ← separated ended (mark ", ") columnName
  return ⟨columns,table,conditions,order⟩

def greatest : Reader Greatest := do
  mark "select max("
  let column ← columnName
  mark ") as "
  let label ← smallName
  mark " from "
  let table ← smallName
  return ⟨column,label,table⟩

end Reading

/-- What a reader finds that takes the whole text of a query, byte by byte. All that it knows are
characters of one byte. -/
def found? {α : Type} (r : Reader α) (sql : String) : Option α :=
  match r.run (sql.toByteArray.data.toList.map fun byte => Char.ofNat byte.toNat) with
  | some (a,[]) => some a
  | _ => none

def Query.ofText? (sql : String) : Option Query := found? query sql

def Greatest.ofText? (sql : String) : Option Greatest := found? greatest sql

/-- A row by what stands in its columns; nothing where a column is null. -/
abbrev Cells := String → Option Value

def parameter? (parameters : Value) (name : String) : Option Value :=
  match parameters with
  | .object fields => Value.field? fields name
  | _ => none

/-- Whether something other than the empty document stands in a column. Nothing is known to differ from
that where the column is null. -/
def isFilled : Option Value → Bool
  | none | some (.object []) => false
  | some _ => true

/-- Whether a row meets a condition. Of a column that is null nothing else is known. -/
def Condition.holds (parameters : Value) (row : Cells) : Condition → Bool
  | .absent column => (row column).isNone
  | .filled column => isFilled (row column)
  | .beyond column inclusive parameter => match row column,parameter? parameters parameter with
    | some (.stamp moment),some (.stamp bound) =>
      if inclusive then bound.instant ≤ moment.instant else bound.instant < moment.instant
    | _,_ => false
  | .among column parameter => match row column,parameter? parameters parameter with
    | some (.text s),some (.list values) => values.any (·.isText s)
    | _,_ => false

/-- Whether a value comes before another; moments are compared wherever they were told. -/
def comesBefore : Value → Value → Bool
  | .stamp s,.stamp t => s.instant < t.instant
  | v,u => match v.less u with
    | .ok before => before
    | .error _ => false

/-- Whether rows are in order of these columns, by the first one that tells them apart. What is null
comes last. -/
def inOrder : List String → Cells → Cells → Bool
  | [],_,_ => true
  | column :: rest,row,other => match row column,other column with
    | some v,some u => comesBefore v u || (!comesBefore u v && inOrder rest row other)
    | none,none => inOrder rest row other
    | some _,none => true
    | none,some _ => false

/-- The rows of a table that a query asks for, each with the columns that it names. -/
def Query.select (q : Query) (parameters : Value) (rows : List Cells) : List Row :=
  let chosen := rows.filter fun row => q.conditions.all (·.holds parameters row)
  let sorted := if q.order = [] then chosen else chosen.mergeSort (inOrder q.order)
  sorted.map fun row => q.columns.map fun column => (column,(row column).getD .null)

section Known

def Query.liveRooms : Query where
  columns := ["id","created_at","opened_at","closed_at","audience","parent_id"]
  table := "rooms"
  conditions := [.absent "deleted_at"]
  order := []

/-- Of these the ones with a stream. -/
def Query.streams : Query where
  columns := ["id","opened_at","closed_at","stream"]
  table := "rooms"
  conditions := [.absent "deleted_at",.filled "stream"]
  order := []

/-- The events that are not deleted, of the types that are given, beyond the watermark. -/
def Query.eventsBeyond (mode : WatermarkMode) : Query where
  columns := ["id","type","room_id","created_at","data","audience","account_id","offset"]
  table := "events"
  conditions := [.absent "deleted_at",.beyond "created_at" (mode = .inclusive) "watermark",
    .among "type" "types"]
  order := ["created_at","id"]

theorem Query.rooms_read (options : Options) :
    ofText? (Step.rooms options).query = some liveRooms := by
  change ofText? (Step.rooms .default).query = _
  decide +kernel

theorem Query.streams_read : ofText? Step.adjustments.query = some streams := by decide +kernel

theorem Query.events_read (mode : WatermarkMode) :
    ofText? (Step.eventsQuery (.mode mode)) = some (eventsBeyond mode) := by
  cases mode <;> decide +kernel

theorem Greatest.watermark_read :
    ofText? watermarkQuery = some ⟨"created_at","watermark","event"⟩ := by decide +kernel

end Known

end RoomTransfer.Store
