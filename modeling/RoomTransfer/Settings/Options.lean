import RoomTransfer.Value.Shown

/-! Tuning options of a run and the checks on raw option values. Every option has a default,
so an empty mapping is valid. -/
namespace RoomTransfer

/-- How the watermark bounds what is read: after it, or from it on with known rows skipped. -/
inductive WatermarkMode where
  | strict
  | inclusive
  deriving DecidableEq, Repr

namespace WatermarkMode

def name : WatermarkMode → String
  | .strict => "strict"
  | .inclusive => "inclusive"

def all : List WatermarkMode := [.strict,.inclusive]

def ofName? (s : String) : Option WatermarkMode := all.find? (·.name = s)

end WatermarkMode

/-- The watermark option: only texts are checked against the modes, other values are kept. -/
inductive ModeOption where
  | mode (mode : WatermarkMode)
  | unchecked (given : Value)

/-- Why an option value is refused. -/
inductive SettingError where
  | unknownMode (given : String)
  | notInteger (option : String) (given : Value)
  | notPositive (option : String) (given : Int)
  | emptyLabel
  /-- An option that would be named in a message, but holds an integer of too many digits. -/
  | unwritable

def SettingError.message : SettingError → String
  | .unknownMode given =>
    "Invalid watermark_mode '" ++ given ++ "'. Must be one of: " ++
      ", ".intercalate (WatermarkMode.all.map WatermarkMode.name)
  | .notInteger option given => option ++ " must be an integer, got " ++ given.shown
  | .notPositive option given => option ++ " must be positive, got " ++ (Value.int given).shown
  | .emptyLabel => "agent_label must not be empty"
  | .unwritable => Number.writeTooLong

structure Options where
  batchSize : Nat
  agentLabel : Value
  openRoomYears : Nat
  /-- Written in place of an original time that is still to be computed. -/
  pendingMarker : Int
  watermarkMode : ModeOption
  showProgress : Value
  batchSize_pos : 0 < batchSize
  openRoomYears_pos : 0 < openRoomYears

namespace Options

def default : Options :=
  ⟨1000,.text "web",10,-1,.mode .strict,.bool true,by decide,by decide⟩

instance : Inhabited Options := ⟨default⟩

/-- The origin label of transferred events where none is given. -/
def defaultLabel : Value := .text "web"

/-- A text must name a mode. -/
def checkMode : Value → Except SettingError ModeOption
  | .text s => match WatermarkMode.ofName? s with
    | some mode => .ok (.mode mode)
    | none => .error (.unknownMode s)
  | v => .ok (.unchecked v)

/-- Truth values are no integers. -/
def checkInteger (option : String) : Value → Except SettingError Int
  | .int i => .ok i
  | v => .error (if v.isWritable then .notInteger option v else .unwritable)

def checkPositive (option : String) (i : Int) : Except SettingError { n : Nat // 0 < n } :=
  if h : 0 < i then .ok ⟨i.toNat,by omega⟩
  else .error (if Number.isTooLong i then .unwritable else .notPositive option i)

def checkLabel (v : Value) : Except SettingError Value :=
  if v.isGiven then .ok v else .error .emptyLabel

/-- The options from what is given for them by name. The mode is checked first, then that numbers
are integers, then that they are positive, then the label. -/
def ofGiven (given? : String → Option Value) : Except SettingError Options := do
  let raw (option : String) (value : Value) := (given? option).getD value
  let mode ← checkMode (raw "watermark_mode" (.text "strict"))
  let batch ← checkInteger "batch_size" (raw "batch_size" (.int 1000))
  let years ← checkInteger "open_room_years" (raw "open_room_years" (.int 10))
  let marker ← checkInteger "pending_original_occurred_at"
    (raw "pending_original_occurred_at" (.int (-1)))
  let batch ← checkPositive "batch_size" batch
  let years ← checkPositive "open_room_years" years
  let label ← checkLabel (raw "agent_label" defaultLabel)
  return {
    batchSize := batch.1
    agentLabel := label
    openRoomYears := years.1
    pendingMarker := marker
    watermarkMode := mode
    showProgress := raw "show_progress" (.bool true)
    batchSize_pos := batch.2
    openRoomYears_pos := years.2 }

/-- The options of a mapping; keys that are no option are ignored. -/
def ofFields (fields : List (Value × Value)) : Except SettingError Options :=
  ofGiven (Value.field? fields)

end Options

end RoomTransfer
