import RoomTransfer.Log.Layout
import RoomTransfer.Proofs.ObjectNotation

/-! Log records as lines of one object each. -/
namespace RoomTransfer.Log.Layout

open Json

section Fields

variable {row context : Row} {name other : String} {v : Value}

theorem setField_find? (differ : other ≠ name) : (setField row name v).find? other = row.find? other := by
  unfold setField Row.find?
  split
  · clear * - differ
    induction row with
    | nil => rfl
    | cons f row ih =>
      obtain ⟨k,old⟩ := f
      rw [List.map_cons]
      dsimp only
      rw [List.lookup_cons,List.lookup_cons,ih]
      cases here : other == k with
      | false => rfl
      | true =>
        have same : k ≠ name := by rwa [← eq_of_beq here]
        rw [if_neg same]
  · have absent : (other == name) = false := by simp [differ]
    rw [List.lookup_append,List.lookup_cons,absent]
    cases List.lookup other row <;> rfl

variable {origin : Origin} {record : Record}

/-- What a record has of its own stays, if its context has no field of that name. -/
theorem fields_find? (absent : other ∉ record.context.map Prod.fst) :
    (fields origin record).find? other = (ownFields origin record).find? other := by
  unfold fields
  generalize ownFields origin record = row
  generalize record.context = context at absent
  induction context generalizing row with
  | nil => rfl
  | cons f context ih =>
    obtain ⟨differ,absent⟩ := not_or.mp (mt List.mem_cons.mpr absent)
    rw [List.foldl_cons,ih _ absent]
    exact setField_find? differ

theorem fields_get (absent : other ∉ record.context.map Prod.fst) :
    (fields origin record).get other = (ownFields origin record).get other := by
  unfold Row.get
  rw [fields_find? absent]

end Fields

section Time

variable {datePattern : Value} {origin : Origin} {record : Record}

/-- The clock can show the moment, and the pattern, if there is one, is a text that it can follow. -/
structure Timely (datePattern : Value) (moment : Int) : Prop where
  shown : ∃ face, faceOf moment = .ok face
  pattern : datePattern.isGiven = true → ∃ s, datePattern = .text s ∧ ∀ c ∈ s.toList, c.toNat ≠ 0

theorem fill_time (time : String) (millis : Int) :
    ∃ s, Percent.fill "%s,%03d" (.tuple [.text time,.int millis]) = .ok s := ⟨_,rfl⟩

/-- The time of a record is told just if that is possible. -/
theorem timeText_ok_iff : (∃ time, timeText datePattern (ownFields origin record) = .ok time) ↔
    Timely datePattern origin.moment := by
  have second : secondOf ((ownFields origin record).get "created") = .ok origin.moment := rfl
  have millis : (ownFields origin record).get "msecs" = .int origin.millis := rfl
  unfold timeText
  rw [second,millis]
  simp only [bind,Except.bind]
  cases shown : faceOf origin.moment with
  | error cause =>
    constructor
    · rintro ⟨time,told⟩
      cases told
    · intro timely
      obtain ⟨face,told⟩ := timely.shown
      rw [shown] at told
      cases told
  | ok face =>
    dsimp only
    constructor
    · rintro ⟨time,told⟩
      refine ⟨⟨face,shown⟩,fun given => ?_⟩
      rw [if_pos given] at told
      split at told
      · next s =>
        split at told
        · cases told
        · next clean => exact ⟨s,rfl,by simpa using clean⟩
      · cases told
    · intro timely
      by_cases given : datePattern.isGiven = true
      · obtain ⟨s,rfl,clean⟩ := timely.pattern given
        rw [if_pos given]
        dsimp only
        rw [if_neg (by simpa using clean)]
        exact ⟨_,rfl⟩
      · rw [if_neg given]
        exact fill_time _ _

end Time

/-- A context whose fields are shown, each under a name of its own and with a value that the notation
has a form for. -/
structure Extra (context : Row) : Prop where
  distinct : (context.map Prod.fst).Nodup
  apart : ∀ name ∈ context.map Prod.fst, name ∉ "time" :: "level" :: ownNames
  native : ∀ f ∈ context, Native f.2

def members (time : String) (origin : Origin) (record : Record) : Row :=
  [("time",.text time),("level",.text (levelName record.level)),("message",.text record.message),
    ("module",.text origin.module)] ++ record.context

section Object

variable {datePattern : Value} {origin : Origin} {record : Record}

theorem members_distinct (extra : Extra record.context) (origin : Origin) (time : String) :
    ((members time origin record).map Prod.fst).Nodup := by
  have own : ["time","level","message","module"].Nodup := by decide
  have known : ∀ name ∈ ["time","level","message","module"], name ∈ "time" :: "level" :: ownNames := by
    decide
  unfold members
  rw [List.map_append]
  refine List.nodup_append.mpr ⟨own,extra.distinct,?_⟩
  rintro name mine other theirs rfl
  exact extra.apart name theirs (known name mine)

theorem members_native (extra : Extra record.context) (origin : Origin) (time : String) :
    Native (Value.ofRow (members time origin record)) := by
  refine .object (members_distinct extra origin time) fun f member => ?_
  rcases List.mem_append.mp member with own | shown
  · simp only [List.mem_cons,List.not_mem_nil,or_false] at own
    rcases own with rfl | rfl | rfl | rfl <;> exact .text _
  · exact extra.native f shown

theorem visible_extra (extra : Extra record.context) : visible record.context = record.context := by
  refine List.filter_eq_self.mpr fun f member => ?_
  have apart := extra.apart f.1 (List.mem_map_of_mem member)
  simp only [List.mem_cons,not_or] at apart
  simpa using apart.2.2

theorem own_get {name : String} (extra : Extra record.context) (own : name ∈ ownNames) :
    (fields origin record).get name = (ownFields origin record).get name := by
  refine fields_get fun member => extra.apart name member ?_
  exact List.mem_cons_of_mem _ (List.mem_cons_of_mem _ own)

theorem objectText_eq (extra : Extra record.context) : objectText datePattern origin record =
    (timeText datePattern (ownFields origin record)).map fun time =>
      Json.text (Value.ofRow (members time origin record)) := by
  have kept (name : String) (own : name ∈ ownNames) :
      (fields origin record).get name = (ownFields origin record).get name := own_get extra own
  have created := kept "created" (by decide)
  have millis := kept "msecs" (by decide)
  have message := kept "msg" (by decide)
  have arguments := kept "args" (by decide)
  have level := kept "levelname" (by decide)
  have place := kept "module" (by decide)
  have same : timeText datePattern (fields origin record) =
      timeText datePattern (ownFields origin record) := by
    unfold timeText
    rw [created,millis]
  have said : messageText (fields origin record) = .ok record.message := by
    unfold messageText
    rw [message,arguments]
    rfl
  unfold objectText
  dsimp only
  rw [same,said,level,place,visible_extra extra]
  cases timeText datePattern (ownFields origin record) with
  | error cause => rfl
  | ok time =>
    have fields : record.context.foldl _
        [(.text "time",.text time),(.text "level",.text (levelName record.level)),
          (.text "message",.text record.message),(.text "module",.text origin.module)] =
        fieldsOf (members time origin record) :=
      foldl_setField (members_distinct extra origin time)
    have accepted : refusal? false (.object (fieldsOf (members time origin record))) = none :=
      refusal?_native (members_native extra origin time)
    have own : (ownFields origin record).get "levelname" = .text (levelName record.level) := rfl
    have home : (ownFields origin record).get "module" = .text origin.module := rfl
    simp only [bind,Except.bind,own,home,fields,accepted]
    rfl

/-- The line of a record is one line of printable characters, and what it says in the notation is
the record's time, level, message and module, and behind them the fields of its context as they are
and in their order, whatever the message and the fields hold. Only a record whose time cannot be told
has no line. -/
theorem object_line_faithful (datePattern : Value) (origin : Origin) (record : Record)
    (extra : Extra record.context) :
    (Timely datePattern origin.moment → ∃ time line,
      timeText datePattern (ownFields origin record) = .ok time ∧
      (Layout.object datePattern).text origin record = .ok line ∧ IsPrintable line.toList ∧
      decode? line = some (Value.ofRow (members time origin record))) ∧
    (¬Timely datePattern origin.moment →
      ∃ cause, (Layout.object datePattern).text origin record = .error cause) := by
  have line : (Layout.object datePattern).text origin record = _ :=
    objectText_eq extra
  constructor
  · intro timely
    obtain ⟨time,told⟩ := timeText_ok_iff.mpr timely
    have native := members_native extra origin time
    refine ⟨time,_,told,?_,?_,decode?_text native⟩
    · rw [line,told]
      rfl
    · rw [Json.text,String.toList_ofList]
      exact chars_isPrintable native
  · intro untold
    cases told : timeText datePattern (ownFields origin record) with
    | ok time => exact absurd (timeText_ok_iff.mp ⟨time,told⟩) untold
    | error cause =>
      rw [line,told]
      exact ⟨cause,rfl⟩

def unruly : Record where
  level := warning
  message := "two\nlines, \"quotes\", a tab\tand 😀"
  context := [("entity",.text "room\u2028"),("count",.int (-12)),
    ("detail",Value.ofRow [("rows",.list [.null,.bool true,.text "\\"]),("empty",Value.ofRow [])])]

theorem unruly_extra : Extra unruly.context where
  distinct := by decide
  apart := by decide
  native := by
    have empty : Native (Value.ofRow []) := .object .nil nofun
    have rows : Native (.list [.null,.bool true,.text "\\"]) := by
      refine .list fun x member => ?_
      simp only [List.mem_cons,List.not_mem_nil,or_false] at member
      rcases member with rfl | rfl | rfl
      exacts [.null,.bool _,.text _]
    have detail : Native (Value.ofRow [("rows",.list [.null,.bool true,.text "\\"]),
        ("empty",Value.ofRow [])]) := by
      refine .object (by decide) fun f member => ?_
      simp only [List.mem_cons,List.not_mem_nil,or_false] at member
      rcases member with rfl | rfl
      exacts [rows,empty]
    intro f member
    simp only [unruly,List.mem_cons,List.not_mem_nil,or_false] at member
    rcases member with rfl | rfl | rfl
    exacts [.text _,.int _,detail]

def newYear : Origin := { logger := "room_migrator", module := "migrator", moment := 1704067200 }

theorem newYear_timely : Timely .null newYear.moment :=
  ⟨⟨_,rfl⟩,nofun⟩

/-- Line ends and quotes of a message stay in its member. -/
theorem unruly_line : Extra unruly.context ∧ Timely .null newYear.moment ∧ ∃ time line,
    (Layout.object .null).text newYear unruly = .ok line ∧ '\n' ∉ line.toList ∧
    decode? line = some (Value.ofRow (members time newYear unruly)) := by
  obtain ⟨time,line,_,said,shown,read⟩ :=
    (object_line_faithful .null newYear unruly unruly_extra).1 newYear_timely
  refine ⟨unruly_extra,newYear_timely,time,line,said,fun member => ?_,read⟩
  exact absurd (shown _ member).1 (by decide)

end Object

end RoomTransfer.Log.Layout
