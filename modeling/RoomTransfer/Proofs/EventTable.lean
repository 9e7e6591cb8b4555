import RoomTransfer.Proofs.Columns
import RoomTransfer.Proofs.Verdict

/-! The table by which rows become events. A row of an eligible type is refused exactly for what it
lacks, and every other one becomes the event that the table has for its type. -/
namespace RoomTransfer

def Row.member (row : Row) (name : String) : Value := (row.get "data").member name

/-- The data of a row has an address. -/
def Row.Addresses (row : Row) (url : String) : Prop := row.member "url" = .text url ∧ url ≠ ""

/-- A value as part of a name: a text is itself, anything else is in object notation. -/
def Value.rendered : Value → String
  | .text s => s
  | v => Json.text v

/-- Fields with a mark that tells that the document was removed. The others are as they were. -/
structure EventContent.Marked (fields marked : List (Value × Value)) : Prop where
  mark : Value.field? marked "_removed" = some (.bool true)
  others : (marked.filter fun field => !field.1.isText "_removed") =
    fields.filter fun field => !field.1.isText "_removed"
  keys : marked.map Prod.fst = if (Value.field? fields "_removed").isSome
    then fields.map Prod.fst else fields.map Prod.fst ++ [.text "_removed"]

/-- The table: kind, set, label and data of the events of each type. -/
inductive EventContent.Table (row : Row) : EventType → EventContent → Prop where
  | document {url : String} (address : row.Addresses url) :
      Table row .document ⟨"document","document",some (addressHash url),row.get "data"⟩
  | documentDelete {url : String} {fields marked : List (Value × Value)}
      (address : row.Addresses url) (data : row.get "data" = .object fields)
      (removed : Marked fields marked) :
      Table row .documentDelete ⟨"document","document-delete",some (addressHash url),.object marked⟩
  | stream : Table row .stream ⟨"stream","stream",some (row.get "id").plain,row.get "data"⟩
  | message : Table row .message ⟨"message","message",some (row.get "id").plain,row.get "data"⟩
  | draw {url : String} {shape : List (Value × Value)} (address : row.Addresses url)
      (page : row.member "page" ≠ .null) (geometry : row.member "geometry" = .object shape)
      (named : (Value.field? shape "_id").getD .null ≠ .null) :
      Table row .draw ⟨"draw","draw_" ++ addressHash url ++ "_" ++ (row.member "page").rendered,
        some ((Value.field? shape "_id").getD .null).rendered,.object shape⟩
  | layout : Table row .layout ⟨"layout","layout",none,row.get "data"⟩
  | leader : Table row .leader ⟨"leader","leader",none,row.get "data"⟩

/-- What keeps a row from being an event of a type. -/
inductive Event.Unfit (row : Row) (type : EventType) : Prop where
  | column (name : String) (missing : row.get name = .null)
      (required : name ∈ ["id","room_id","created_at","account_id","audience"])
  | offset (other : ∀ i, row.get "offset" ≠ .int i)
  | address (needed : type ∈ [.document,.documentDelete,.draw]) (none : ∀ url, ¬ row.Addresses url)
  | page (draws : type = .draw) (missing : row.member "page" = .null)
  | geometry (draws : type = .draw) (other : ∀ shape, row.member "geometry" ≠ .object shape)
  | shape (draws : type = .draw) {shape : List (Value × Value)}
      (geometry : row.member "geometry" = .object shape)
      (missing : (Value.field? shape "_id").getD .null = .null)

/-- The event of a row of a type. -/
structure Event.Mapped (row : Row) (agentLabel : Value) (type : EventType) (event : Event) :
    Prop where
  content : EventContent.Table row type ⟨event.kind,event.set,event.label,event.data⟩
  id : event.id = row.get "id"
  room : event.roomId = row.get "room_id"
  time : ∃ seconds, row.get "offset" = .int seconds ∧ event.occurredAt = seconds * 1000000
  author : event.createdBy = ⟨⟨row.get "account_id",row.get "audience"⟩,agentLabel⟩
  created : event.createdAt = row.get "created_at"
  pending : event.originalOccurredAt = none

namespace EventType

theorem ofName?_eq_some {s : String} {type : EventType} :
    ofName? s = some type ↔ s = type.name := by
  constructor
  · intro found
    have named := List.find?_some found
    simpa using (of_decide_eq_true named).symm
  · rintro rfl
    cases type <;> decide

theorem ofValue?_name (type : EventType) : ofValue? (.text type.name) = .ok (some type) :=
  congrArg Except.ok (ofName?_eq_some.mpr rfl)

theorem name_inj {type type' : EventType} (same : type.name = type'.name) : type = type' :=
  Option.some.inj ((ofName?_eq_some.mpr rfl).symm.trans (ofName?_eq_some.mpr same))

theorem ofValue?_eq_some {v : Value} {type : EventType} (found : ofValue? v = .ok (some type)) :
    v = .text type.name := by
  unfold ofValue? at found
  split at found
  · cases found
  · split at found
    next s => rw [ofName?_eq_some.mp (Except.ok.inj found)]
    next => cases found

theorem ofValue?_returns {v : Value} (typed : ColumnType.text.admits v = true) :
    (∃ type : EventType, v = .text type.name) ∨
      (ofValue? v = .ok none ∧ ∀ type : EventType, v ≠ .text type.name) := by
  rcases ColumnType.text_cases typed with rfl | ⟨s,rfl⟩
  · exact .inr ⟨rfl,nofun⟩
  · cases found : ofName? s with
    | some type => exact .inl ⟨type,by rw [ofName?_eq_some.mp found]⟩
    | none =>
      refine .inr ⟨congrArg Except.ok found,fun type same => ?_⟩
      rw [ofName?_eq_some.mpr (Value.text.inj same)] at found
      cases found

end EventType

namespace EventContent

variable {row : Row}

/-- Refused in the name of the row, or because a part of its data cannot be written. -/
inductive Refused (row : Row) (type : EventType) : Failure → Prop where
  | unfit (unfit : Event.Unfit row type) (reason : String) :
      Refused row type (.record "event" (row.get "id") reason)
  | unwritable (refused : Json.refusal? true (row.get "data") ≠ none) (cause : Json.Refusal) :
      Refused row type (.notSerializable cause)

theorem fields_decided {bad : Failure → Prop}
    (other : (∀ fields, row.get "data" ≠ .object fields) →
      ∀ reason, bad (.record "event" (row.get "id") reason)) :
    Decided bad (fun fields => row.get "data" = .object fields) (fields row) := by
  unfold fields
  cases data : row.get "data" with
  | object fields => exact .ok rfl
  | _ => exact .error (other (by simp [data]) _)

theorem member_of_object {fields : List (Value × Value)} (data : row.get "data" = .object fields)
    (name : String) : row.member name = (Value.field? fields name).getD .null := by
  simp [Row.member,Value.member,data]

theorem not_addresses (other : ∀ fields, row.get "data" ≠ .object fields) (url : String) :
    ¬ row.Addresses url := by
  rintro ⟨given,_⟩
  unfold Row.member Value.member at given
  split at given
  next fields data => exact other fields data
  next => cases given

theorem address_decided {bad : Failure → Prop} (none : (∀ url, ¬ row.Addresses url) →
      ∀ reason, bad (.record "event" (row.get "id") reason)) :
    Decided bad (fun hash => ∃ url, row.Addresses url ∧ hash = addressHash url) (address row) := by
  refine (fields_decided fun other => none (not_addresses other)).bind fun fields data => ?_
  have member := member_of_object data "url"
  split
  next url found =>
    have given : row.member "url" = .text url := by rw [member,found]; rfl
    by_cases empty : url = ""
    · subst empty
      exact .error (none (fun url addressed => addressed.2 (Value.text.inj (addressed.1.symm.trans given)))
        _)
    · have filled : url.isEmpty = false := by simpa [String.isEmpty_iff] using empty
      simp only [filled]
      exact .ok ⟨url,⟨given,empty⟩,rfl⟩
  next others =>
    refine .error (none (fun url addressed => ?_) _)
    obtain ⟨given,_⟩ := addressed
    rw [member] at given
    cases found : Value.field? fields "url" with
    | none => simp [found] at given
    | some v => exact others url (by simpa [found] using given)

theorem plainText_decided {bad : Failure → Prop} {v : Value}
    (unwritable : Json.refusal? true v ≠ none → ∀ cause, bad (.notSerializable cause)) :
    Decided bad (fun text => text = v.rendered) (plainText v) := by
  unfold plainText
  split
  · exact .ok rfl
  next others =>
    cases refused : Json.refusal? true v with
    | some cause => exact .error (unwritable (by simp [refused]) cause)
    | none =>
      refine .ok ?_
      cases v with
      | text s => exact absurd rfl (others s)
      | _ => rfl

/-- What cannot be written of a member cannot be written of the data. -/
theorem member_writable {name : String} (unwritable : Json.refusal? true (row.member name) ≠ none) :
    Json.refusal? true (row.get "data") ≠ none := by
  unfold Row.member Value.member at unwritable
  split at unwritable
  next fields data =>
    rw [data]
    exact Json.refusal?_field name unwritable
  · exact absurd rfl unwritable

theorem ofDrawing_decided : Decided (Refused row .draw) (Table row .draw) (ofDrawing row) := by
  have refusal {α β : Type} (reason : String) (f : α → Except Failure β) :
      (fail row reason >>= f) = .error (.record "event" (row.get "id") reason) := rfl
  refine (fields_decided fun other => .unfit (.address (by simp) (not_addresses other))).bind
    fun fields data => ?_
  have member := member_of_object data
  simp only [refusal,pure_bind,← member]
  -- The page and the shape are looked at before the address.
  split
  next missing => exact .error (.unfit (.page rfl missing) _)
  next page given =>
    split
    next shape geometry =>
      split
      next missing => exact .error (.unfit (.shape rfl geometry missing) _)
      next id named =>
        refine (address_decided fun none => .unfit (.address (by simp) none)).bind ?_
        rintro _ ⟨url,address,rfl⟩
        refine (plainText_decided fun refused => .unwritable (member_writable refused)).bind ?_
        rintro _ rfl
        have inner (refused : Json.refusal? true ((Value.field? shape "_id").getD .null) ≠ none) :
            Json.refusal? true (row.member "geometry") ≠ none := by
          rw [geometry]
          exact Json.refusal?_field "_id" refused
        refine (plainText_decided fun refused => .unwritable (member_writable (inner refused))).bind ?_
        rintro _ rfl
        exact .ok (.draw address given geometry named)
    next other => exact .error (.unfit (.geometry rfl other) _)

theorem ofRow_decided (type : EventType) : Decided (Refused row type) (Table row type) (ofRow row type) := by
  have addressed (needed : type ∈ [.document,.documentDelete,.draw]) :
      Decided (Refused row type) (fun hash => ∃ url, row.Addresses url ∧ hash = addressHash url)
        (address row) := address_decided fun none => .unfit (.address needed none)
  cases type with
  | document =>
    refine (addressed (by simp)).bind ?_
    rintro _ ⟨url,address,rfl⟩
    exact .ok (.document address)
  | documentDelete =>
    refine (addressed (by simp)).bind ?_
    rintro _ ⟨url,address,rfl⟩
    refine (fields_decided fun other => absurd address (not_addresses other url)).bind
      fun fields data => .ok (.documentDelete address data ?_)
    exact ⟨Value.field?_setField_same,Value.setField_others,Value.setField_keys⟩
  | stream => exact .ok .stream
  | message => exact .ok .message
  | draw => exact ofDrawing_decided
  | layout => exact .ok .layout
  | leader => exact .ok .leader

end EventContent

namespace Event

variable {row : Row} {type : EventType}

/-- A row that the table has content for lacks nothing. -/
theorem not_unfit (columns : ∀ name ∈ ["id","room_id","created_at","account_id","audience"],
    row.get name ≠ .null) {seconds : Int} (timed : row.get "offset" = .int seconds)
    {content : EventContent} (table : EventContent.Table row type content) : ¬ Unfit row type := by
  intro unfit
  cases unfit with
  | column name missing required => exact columns name required missing
  | offset other => exact other seconds timed
  | address needed none =>
    cases table with
    | document address | documentDelete address | draw address => exact none _ address
    | _ => simp at needed
  | page draws missing =>
    subst draws
    cases table with
    | draw _ page => exact page missing
  | geometry draws other =>
    subst draws
    cases table with
    | draw _ _ geometry => exact other _ geometry
  | shape draws geometry missing =>
    subst draws
    cases table with
    | draw _ _ geometry' named =>
      cases geometry.symm.trans geometry'
      exact named missing

theorem ofRow_decided (agentLabel : Value) (given : row.get "type" = .text type.name) :
    Decided (EventContent.Refused row type)
      (fun found => ∃ event, found = some event ∧ ¬ Unfit row type ∧ Mapped row agentLabel type event)
      (ofRow row agentLabel) := by
  have known : Decided (EventContent.Refused row type) (fun found => found = some type)
      (EventType.ofValue? (row.get "type")) := by
    rw [given,EventType.ofValue?_name]
    exact .ok rfl
  refine known.bind ?_
  rintro _ rfl
  dsimp only
  have null {v : Value} : v.isNull = true ↔ v = .null := by cases v <;> simp [Value.isNull]
  split
  next name missing =>
    have nothing := List.find?_some (p := fun name => (row.get name).isNull) missing
    exact .error (.unfit (.column name (null.mp nothing) (List.mem_of_find?_eq_some missing)) _)
  next present =>
    have columns : ∀ name ∈ requiredColumns, row.get name ≠ .null := by
      intro name required
      have nothing := List.find?_eq_none.mp present name required
      rwa [null] at nothing
    have timed : Decided (EventContent.Refused row type) (fun i => row.get "offset" = .int i)
        (offset row) := by
      unfold offset
      cases offset : row.get "offset" with
      | int i => exact .ok rfl
      | _ => exact .error (.unfit (.offset (by simp [offset])) _)
    refine timed.bind fun seconds timed => (EventContent.ofRow_decided type).bind fun content table => ?_
    exact .ok ⟨_,rfl,not_unfit columns timed table,table,rfl,rfl,⟨seconds,timed,rfl⟩,rfl,rfl,rfl⟩

/-- A row whose type is a text or null, and whose data can be written, is dropped exactly where its
type is not in the table, and refused in its own name exactly where it lacks something. Every
other row becomes the event that the table has for it. -/
theorem exactly_mapped (row : Row) (agentLabel : Value)
    (typed : ColumnType.text.admits (row.get "type") = true)
    (written : ColumnType.json.admits (row.get "data") = true) :
    (ofRow row agentLabel = .ok none ↔ ∀ type : EventType, row.get "type" ≠ .text type.name) ∧
      ∀ type : EventType, row.get "type" = .text type.name →
        ((∃ reason, ofRow row agentLabel = .error (.record "event" (row.get "id") reason)) ↔
          Unfit row type) ∧
        (¬ Unfit row type → ∃ event, ofRow row agentLabel = .ok (some event) ∧
          Mapped row agentLabel type event) := by
  have writable : Json.refusal? true (row.get "data") = none := by
    cases data : row.get "data" with
    | null => rfl
    | _ =>
      rw [data] at written
      exact Option.isNone_iff_eq_none.mp written
  constructor
  · rcases EventType.ofValue?_returns typed with ⟨type,given⟩ | ⟨dropped,other⟩
    · refine iff_of_false (fun nothing => ?_) fun other => other type given
      obtain ⟨event,found,_⟩ := (ofRow_decided agentLabel given).made nothing
      cases found
    · refine iff_of_true ?_ other
      unfold ofRow
      rw [dropped]
      rfl
  · intro type given
    have decided := ofRow_decided agentLabel given
    cases result : ofRow row agentLabel with
    | error failure =>
      cases decided.failed result with
      | unfit unfit reason => exact ⟨iff_of_true ⟨reason,rfl⟩ unfit,fun fit => absurd unfit fit⟩
      | unwritable refused => exact absurd writable refused
    | ok found =>
      obtain ⟨event,rfl,fit,mapped⟩ := decided.made result
      exact ⟨iff_of_false (by simp) fit,fun _ => ⟨event,rfl,mapped⟩⟩

/-- A row of a drawing whose data, apart from its shape, are these. -/
def drawingRow (data : List (Value × Value)) : Row :=
  [("id",.uuid ⟨1⟩),("type",.text "draw"),("room_id",.uuid ⟨2⟩),("created_at",.stamp .first),
    ("account_id",.text "alice"),("audience",.text "example.org"),("offset",.int 42),
    ("data",.object (data ++ [(.text "geometry",.object [(.text "_id",.int 7)])]))]

def coverDrawing : Row := drawingRow [(.text "url",.text "a_b"),(.text "page",.text "_cover")]

def looseDrawing : Row := drawingRow [(.text "url",.text "a_b"),(.text "page",.null)]

/-- A drawing on the cover gets a set and a label, and one without a page is refused. -/
theorem cover_drawing_mapped :
    (ColumnType.text.admits (coverDrawing.get "type") = true ∧
      ColumnType.json.admits (coverDrawing.get "data") = true ∧
      ∃ event, ofRow coverDrawing (.text "web") = .ok (some event) ∧
        event.set = "draw_" ++ addressHash "a_b" ++ "_" ++ "_cover" ∧ event.label = some "7") ∧
    ∃ reason, ofRow looseDrawing (.text "web") = .error (.record "event" (.uuid ⟨1⟩) reason) := by
  have fit : ¬ Unfit coverDrawing .draw := by
    have columns : ∀ name ∈ ["id","room_id","created_at","account_id","audience"],
        coverDrawing.get name ≠ .null := by
      intro name required
      simp only [List.mem_cons,List.not_mem_nil,or_false] at required
      rcases required with rfl | rfl | rfl | rfl | rfl <;> (intro missing; cases missing)
    have address : coverDrawing.Addresses "a_b" := ⟨rfl,by decide⟩
    have page : coverDrawing.member "page" ≠ .null := by
      intro missing
      cases missing
    have geometry : coverDrawing.member "geometry" = .object [(.text "_id",.int 7)] := rfl
    have named : (Value.field? [(.text "_id",.int 7)] "_id").getD .null ≠ .null := by
      intro missing
      cases missing
    exact not_unfit columns rfl (.draw address page geometry named)
  obtain ⟨_,drawn⟩ := exactly_mapped coverDrawing (.text "web") rfl rfl
  obtain ⟨event,made,mapped⟩ := (drawn .draw rfl).2 fit
  obtain ⟨_,loose⟩ := exactly_mapped looseDrawing (.text "web") rfl rfl
  refine ⟨⟨rfl,rfl,event,made,?_⟩,(loose .draw rfl).1.mpr (.page rfl rfl)⟩
  obtain ⟨id,roomId,kind,set,label,data⟩ := event
  cases mapped.content with
  | draw address _ geometry =>
    cases address.1
    cases geometry
    exact ⟨rfl,rfl⟩

end Event

end RoomTransfer
