import RoomTransfer.Proofs.StepTrace

/-! Traces of two sessions. The legacy session opens first and closes last, and all that the target
session leaves lies between. What is promised of a trace is put together from its three parts. -/
namespace RoomTransfer

open Store

/-- The queries that the steps put to the legacy database. -/
def legacyQueries (options : Options) : List String :=
  [(Step.rooms options).query,Step.adjustments.query,Step.eventsQuery options.watermarkMode]

theorem legacyQueries_select {options : Options} {sql : String} (known : sql ∈ legacyQueries options) :
    "select ".toList <+: sql.toList := by
  simp only [legacyQueries,List.mem_cons,List.not_mem_nil,or_false] at known
  rcases known with rfl | rfl | rfl
  · have same : (Step.rooms options).query = (Step.rooms default).query := rfl
    rw [same]
    decide +kernel
  · decide +kernel
  · unfold Step.eventsQuery
    split <;> decide +kernel

namespace Store

/-- The session that an item is seen in; progress is seen in none. -/
def Item.session? : Item → Option Side
  | .request asked => some asked.side
  | .failed side _ | .cursor side _ | .exit side _ => some side
  | .assign _ _ => some .legacy
  | .rollback _ => some .target
  | .progressOpen _ _ _ | .progressUpdate _ | .progressClose => none

def Item.connects (side : Side) : Item → Bool
  | .request (.connect asked _ _) => asked = side
  | _ => false

def Item.closes (side : Side) : Item → Bool
  | .request (.close asked) => asked = side
  | _ => false

/-- A request that opens or closes a session. -/
def Item.bounds : Item → Bool
  | .request asked => asked.isSession
  | _ => false

theorem Item.connects_inner {item : Item} (inner : item.bounds = false) (side : Side) :
    item.connects side = false := by
  cases item with
  | request request => cases request <;> first | rfl | cases inner
  | _ => rfl

theorem Item.closes_inner {item : Item} (inner : item.bounds = false) (side : Side) :
    item.closes side = false := by
  cases item with
  | request request => cases request <;> first | rfl | cases inner
  | _ => rfl

def Item.opensCursor (side : Side) : Item → Bool
  | .cursor asked _ => asked = side
  | _ => false

def repeatableRead : Item := .assign "isolation_level" (.text "REPEATABLE_READ")

def readOnly : Item := .assign "read_only" (.bool true)

/-- What may be seen in a legacy session: it is opened and set up, queried by the steps, and closed. -/
def Item.ReadsLegacy (options : Options) : Item → Prop
  | .request (.execute _ _ sql _) => sql ∈ legacyQueries options
  | .assign name value => .assign name value = repeatableRead ∨ .assign name value = readOnly
  | .request (.connect _ _ _) | .request (.fetch _ _ _) | .request (.close _) => True
  | .cursor _ _ | .failed _ _ => True
  | _ => False

/-- Whether progress is open behind an item. No progress is opened over another, and none is told
or closed that is not open. -/
def Item.turns (isOpen : Bool) : Item → Option Bool
  | .progressOpen _ _ _ => if isOpen then none else some true
  | .progressUpdate _ => if isOpen then some true else none
  | .progressClose => if isOpen then some false else none
  | _ => some isOpen

/-- What stands before these items failed on this side. -/
def failsAt (side : Side) : List Item → Bool
  | .failed failed _ :: _ => failed = side
  | _ => false

/-- A session was opened: it was asked for, and that did not fail. -/
def opened (side : Side) : List Item → Bool
  | [] => false
  | item :: rest => (item.connects side && !failsAt side rest) || opened side rest

/-- Behind its close nothing is seen of a session, but that the close itself may have failed. -/
def Silenced (side : Side) (back : List Item) : Prop :=
  ∃ refusal rest, back = refusal ++ rest ∧ Refusal side refusal ∧
    ∀ item ∈ rest, item.session? ≠ some side

/-- How the sessions of a run are kept in order. -/
structure Disciplined (options : Options) (trace : List Item) : Prop where
  connects : ∀ side, trace.countP (Item.connects side) ≤ 1
  /-- The legacy session is open before the target is asked for one. -/
  legacyFirst : ∀ front item back, trace = front ++ item :: back → item.connects .target = true →
    opened .legacy front = true
  /-- Each session that was opened is closed once, and no other is. -/
  closes : ∀ side, trace.countP (Item.closes side) = if opened side trace then 1 else 0
  silenced : ∀ side front item back, trace = front ++ item :: back → item.closes side = true →
    Silenced side back
  /-- The target session is not closed inside of its transaction. -/
  ended : ∀ front item back, trace = front ++ item :: back → item.closes .target = true →
    succeeded Item.isBegin front = true → front.any Item.endsTransaction = true
  /-- The legacy session is not closed before a target session is. -/
  legacyLast : ∀ front item back, trace = front ++ item :: back → item.closes .legacy = true →
    opened .target trace = true → front.any (Item.closes .target) = true
  /-- The legacy session is set up before its first cursor. -/
  snapshot : ∀ front item back, trace = front ++ item :: back → item.opensCursor .legacy = true →
    repeatableRead ∈ front ∧ readOnly ∈ front
  reads : ∀ item ∈ trace, item.session? = some .legacy → item.ReadsLegacy options
  /-- All progress is closed once, before the next one opens. -/
  progress : trace.foldlM Item.turns false = some false

section Places

variable {kind : Item → Bool} {pre mid post front back : List Item} {item : Item} {side : Side}

/-- An item of a kind that is only in the middle part stands there. -/
theorem place_within (before : ∀ i ∈ pre, kind i = false) (behind : ∀ i ∈ post, kind i = false)
    (found : kind item = true) (place : pre ++ (mid ++ post) = front ++ item :: back) :
    ∃ early late, front = pre ++ early ∧ back = late ++ post ∧ mid = early ++ item :: late := by
  have outside {items : List Item} (absent : ∀ i ∈ items, kind i = false) (member : item ∈ items) :
      False := by
    rw [absent item member] at found
    cases found
  have later : ∃ early, front = pre ++ early ∧ mid ++ post = early ++ item :: back := by
    rcases List.append_eq_append_iff.mp place with ⟨m,rfl,rest⟩ | ⟨m,rfl,rest⟩
    · exact ⟨m,rfl,rest⟩
    · cases m with
      | nil => exact ⟨[],by simp,by simpa using rest.symm⟩
      | cons other m =>
        obtain ⟨rfl,_⟩ := List.cons.inj rest
        exact (outside before (by simp)).elim
  obtain ⟨early,split,rest⟩ := later
  rcases List.append_eq_append_iff.mp rest with ⟨m,_,inside⟩ | ⟨m,inside,outer⟩
  · exact (outside behind (by simp [inside])).elim
  · cases m with
    | nil =>
      have member : item ∈ post := by
        rw [List.nil_append] at outer
        simp [← outer]
      exact (outside behind member).elim
    | cons other m =>
      obtain ⟨rfl,rfl⟩ := List.cons.inj outer
      exact ⟨early,m,split,rfl,inside⟩

theorem opened_append (absent : ∀ i ∈ pre, i.connects side = false) :
    opened side (pre ++ post) = opened side post := by
  induction pre with
  | nil => rfl
  | cons item rest ih =>
    have head : item.connects side = false := absent item (by simp)
    have tail := ih fun other member => absent other (List.mem_cons_of_mem item member)
    simp [opened,head,tail]

theorem opened_absent {trace : List Item} (absent : ∀ i ∈ trace, i.connects side = false) :
    opened side trace = false := by
  have none : opened side (trace ++ []) = opened side [] := opened_append absent
  rw [List.append_nil] at none
  exact none

/-- What comes later opens nothing, unless it connects or starts with a failure. -/
theorem opened_append_left (granted : failsAt side post = false)
    (absent : ∀ i ∈ post, i.connects side = false) : opened side (pre ++ post) = opened side pre := by
  induction pre with
  | nil => exact opened_absent absent
  | cons item rest ih =>
    have same : failsAt side (rest ++ post) = failsAt side rest := by
      cases rest with
      | nil => exact granted
      | cons other rest => cases other <;> rfl
    simp [opened,ih,same]

theorem turns_still {isOpen : Bool} {items : List Item}
    (still : ∀ item ∈ items, item.turns isOpen = some isOpen) :
    items.foldlM Item.turns isOpen = some isOpen := by
  induction items with
  | nil => rfl
  | cons item rest ih =>
    rw [List.foldlM_cons,still item (by simp)]
    exact ih fun other member => still other (List.mem_cons_of_mem item member)

end Places

/-- What closing a session leaves. -/
def Closing (side : Side) (items : List Item) : Prop :=
  ∃ refusal, items = .request (.close side) :: refusal ∧ Refusal side refusal

namespace Closing

variable {side : Side} {items : List Item}

theorem mem (closing : Closing side items) {item : Item} (member : item ∈ items) :
    item = .request (.close side) ∨ ∃ label, item = .failed side label := by
  obtain ⟨refusal,rfl,rfl | ⟨label,rfl⟩⟩ := closing
  · exact .inl (List.mem_singleton.mp member)
  · rcases List.mem_cons.mp member with rfl | last
    · exact .inl rfl
    · exact .inr ⟨label,List.mem_singleton.mp last⟩

theorem session (closing : Closing side items) : ∀ item ∈ items, item.session? = some side := by
  intro item member
  rcases closing.mem member with rfl | ⟨_,rfl⟩ <;> rfl

theorem connects (closing : Closing side items) (asked : Side) :
    ∀ item ∈ items, item.connects asked = false := by
  intro item member
  rcases closing.mem member with rfl | ⟨_,rfl⟩ <;> rfl

theorem granted (closing : Closing side items) (asked : Side) : failsAt asked items = false := by
  obtain ⟨refusal,rfl,_⟩ := closing
  rfl

theorem reads (closing : Closing .legacy items) (options : Options) :
    ∀ item ∈ items, item.ReadsLegacy options := by
  intro item member
  rcases closing.mem member with rfl | ⟨_,rfl⟩ <;> trivial

theorem progress (closing : Closing side items) : items.foldlM Item.turns false = some false := by
  obtain ⟨_,rfl,rfl | ⟨_,rfl⟩⟩ := closing <;> rfl

theorem closes_own (closing : Closing side items) : items.countP (Item.closes side) = 1 := by
  obtain ⟨_,rfl,rfl | ⟨_,rfl⟩⟩ := closing <;> simp [Item.closes]

theorem closes_other (closing : Closing side items) {other : Side} (differ : side ≠ other) :
    ∀ item ∈ items, item.closes other = false := by
  intro item member
  rcases closing.mem member with rfl | ⟨_,rfl⟩
  · simp [Item.closes,differ]
  · rfl

theorem place {front back : List Item} {item : Item} (closing : Closing side items)
    (place : items = front ++ item :: back) (found : item.closes side = true) :
    front = [] ∧ Refusal side back := by
  obtain ⟨refusal,rfl,refused⟩ := closing
  cases front with
  | nil =>
    obtain ⟨_,rfl⟩ := List.cons.inj place
    exact ⟨rfl,refused⟩
  | cons first front =>
    obtain ⟨_,rest⟩ := List.cons.inj place
    have member : item ∈ refusal := by simp [rest]
    rcases refused with rfl | ⟨label,rfl⟩
    · cases member
    · obtain rfl := List.mem_singleton.mp member
      cases found

end Closing

/-- Items within both sessions. They read the legacy database, and progress that they open is closed
by them. -/
structure Inside (options : Options) (items : List Item) : Prop where
  inner : ∀ item ∈ items, item.bounds = false
  reads : ∀ item ∈ items, item.session? = some .legacy → item.ReadsLegacy options
  progress : items.foldlM Item.turns false = some false

theorem inside_nil {options : Options} : Inside options [] := ⟨by simp,by simp,rfl⟩

theorem Inside.append {options : Options} {first second : List Item} (one : Inside options first)
    (two : Inside options second) : Inside options (first ++ second) := by
  refine ⟨?_,?_,?_⟩
  · intro item member
    rcases List.mem_append.mp member with before | after
    · exact one.inner item before
    · exact two.inner item after
  · intro item member
    rcases List.mem_append.mp member with before | after
    · exact one.reads item before
    · exact two.reads item after
  · rw [List.foldlM_append,one.progress]
    exact two.progress

theorem inside_target {options : Options} {item : Item} (inner : item.bounds = false)
    (target : item.session? = some .target) : Inside options [item] := by
  refine ⟨by simp [inner],by simp [target],?_⟩
  cases item <;> first | rfl | cases target

theorem Refusal.inside {options : Options} {items : List Item} (refused : Refusal .target items) :
    Inside options items := by
  rcases refused with rfl | ⟨label,rfl⟩
  · exact inside_nil
  · exact inside_target rfl rfl

/-- What a transaction leaves between the opening and the closing of the target session. -/
structure Work (options : Options) (items : List Item) : Prop extends Inside options items where
  begins : ∃ rest, items = .request .begin :: rest
  ended : succeeded Item.isBegin items = true → items.any Item.endsTransaction = true

/-- What the target session leaves, from its opening on. -/
structure Visit (options : Options) (part : List Item) : Prop where
  first : ∃ address keywords rest, part = .request (.connect .target address keywords) :: rest ∧
    ∀ side, ∀ item ∈ rest, item.connects side = false
  legacy : ∀ item ∈ part, item.closes .legacy = false
  closes : part.countP (Item.closes .target) = if opened .target part then 1 else 0
  silenced : ∀ front item back, part = front ++ item :: back → item.closes .target = true →
    Refusal .target back
  ended : ∀ front item back, part = front ++ item :: back → item.closes .target = true →
    succeeded Item.isBegin front = true → front.any Item.endsTransaction = true
  reads : ∀ item ∈ part, item.session? = some .legacy → item.ReadsLegacy options
  progress : part.foldlM Item.turns false = some false

section Visits

variable {options : Options} {address : Option String} {keywords : Row} {items closing : List Item}

theorem visit_refused (label : String) : Visit options
    [.request (.connect .target address keywords),.failed .target label] := by
  have unclosed (side : Side) : ∀ item ∈
      [Item.request (.connect .target address keywords),.failed .target label],
        item.closes side = false := by
    simp [Item.closes]
  have absurdly {front back : List Item} {item : Item}
      (place : [Item.request (.connect .target address keywords),.failed .target label] =
        front ++ item :: back) (found : item.closes .target = true) : False := by
    have none := unclosed .target item (by simp [place])
    rw [found] at none
    cases none
  refine ⟨⟨address,keywords,_,rfl,by simp [Item.connects]⟩,unclosed .legacy,?_,?_,?_,?_,rfl⟩
  · simp [Item.closes,opened,Item.connects,failsAt]
  · exact fun front item back place found => (absurdly place found).elim
  · exact fun front item back place found => (absurdly place found).elim
  · simp [Item.session?,Request.side]

/-- A target session with a transaction in it, which is closed behind it. -/
theorem visit_made (work : Work options items) (closes : Closing .target closing) :
    Visit options (.request (.connect .target address keywords) :: (items ++ closing)) := by
  have connects (side : Side) : ∀ item ∈ items ++ closing, item.connects side = false := by
    intro item member
    rcases List.mem_append.mp member with inside | last
    · exact Item.connects_inner (work.inner item inside) side
    · exact closes.connects side item last
  obtain ⟨rest,begins⟩ := work.begins
  have granted : failsAt .target (items ++ closing) = false := by
    rw [begins]
    rfl
  have isOpen : opened .target (.request (.connect .target address keywords) ::
      (items ++ closing)) = true := by
    simp [opened,Item.connects,granted]
  have unclosed : ∀ item ∈ Item.request (.connect .target address keywords) :: items,
      item.closes .target = false := by
    intro item member
    rcases List.mem_cons.mp member with rfl | inside
    · rfl
    · exact Item.closes_inner (work.inner item inside) .target
  have at_close {front back : List Item} {item : Item}
      (place : .request (.connect .target address keywords) :: (items ++ closing) =
        front ++ item :: back) (found : item.closes .target = true) :
      front = .request (.connect .target address keywords) :: items ∧ Refusal .target back := by
    have shape : (.request (.connect .target address keywords) :: items) ++ (closing ++ []) =
        front ++ item :: back := by simpa using place
    obtain ⟨early,late,rfl,rfl,inside⟩ := place_within unclosed (by simp) found shape
    obtain ⟨rfl,refused⟩ := closes.place inside found
    exact ⟨by simp,by simpa using refused⟩
  refine ⟨⟨address,keywords,_,rfl,connects⟩,?_,?_,?_,?_,?_,?_⟩
  · intro item member
    rcases List.mem_cons.mp member with rfl | later
    · rfl
    · rcases List.mem_append.mp later with inside | last
      · exact Item.closes_inner (work.inner item inside) .legacy
      · exact closes.closes_other (by decide) item last
  · have none : items.countP (Item.closes .target) = 0 := by
      simpa [List.countP_eq_zero] using fun item inside =>
        Item.closes_inner (work.inner item inside) .target
    rw [isOpen,List.countP_cons,List.countP_append,none,closes.closes_own]
    rfl
  · exact fun front item back place found => (at_close place found).2
  · intro front item back place found begun
    obtain ⟨rfl,_⟩ := at_close place found
    have began : succeeded Item.isBegin items = true := by
      simpa [succeeded,Item.isBegin] using begun
    simpa [Item.endsTransaction,Item.isCommit,Item.isRollback] using work.ended began
  · intro item member legacy
    rcases List.mem_cons.mp member with rfl | later
    · cases legacy
    · rcases List.mem_append.mp later with inside | last
      · exact work.reads item inside legacy
      · rw [closes.session item last] at legacy
        cases legacy
  · change (items ++ closing).foldlM Item.turns false = some false
    rw [List.foldlM_append,work.progress]
    exact closes.progress

end Visits

section Whole

variable {options : Options} {address : Option String} {keywords : Row} {part closing : List Item}

theorem disciplined_nil : Disciplined options [] :=
  ⟨by simp,by simp,by simp [opened],by simp,by simp,by simp,by simp,by simp,rfl⟩

theorem disciplined_refused (label : String) : Disciplined options
    [.request (.connect .legacy address keywords),.failed .legacy label] := by
  have absurdly {kind : Item → Bool} {front back : List Item} {item : Item}
      (absent : ∀ i ∈ [Item.request (.connect .legacy address keywords),.failed .legacy label],
        kind i = false)
      (place : [Item.request (.connect .legacy address keywords),.failed .legacy label] =
        front ++ item :: back) (found : kind item = true) : False := by
    have none := absent item (by simp [place])
    rw [found] at none
    cases none
  have unclosed (side : Side) : ∀ i ∈ [Item.request (.connect .legacy address keywords),
      .failed .legacy label], i.closes side = false := by simp [Item.closes]
  refine ⟨fun side => ?_,?_,fun side => ?_,?_,?_,?_,?_,?_,rfl⟩
  · cases side <;> simp [Item.connects]
  · exact fun front item back place found =>
      (absurdly (by simp [Item.connects]) place found).elim
  · cases side <;> simp [Item.closes,opened,Item.connects,failsAt]
  · exact fun side front item back place found => (absurdly (unclosed side) place found).elim
  · exact fun front item back place found => (absurdly (unclosed .target) place found).elim
  · exact fun front item back place found => (absurdly (unclosed .legacy) place found).elim
  · exact fun front item back place found =>
      (absurdly (by simp [Item.opensCursor]) place found).elim
  · intro item member _
    simp only [List.mem_cons,List.not_mem_nil,or_false] at member
    rcases member with rfl | rfl <;> trivial

namespace Visit

theorem connects_legacy (visit : Visit options part) :
    ∀ item ∈ part, item.connects .legacy = false := by
  obtain ⟨_,_,rest,rfl,others⟩ := visit.first
  intro item member
  rcases List.mem_cons.mp member with rfl | later
  · rfl
  · exact others .legacy item later

theorem connects_target (visit : Visit options part) :
    part.countP (Item.connects .target) = 1 := by
  obtain ⟨_,_,rest,rfl,others⟩ := visit.first
  have none : rest.countP (Item.connects .target) = 0 := by
    simpa [List.countP_eq_zero] using others .target
  simp [none,Item.connects]

end Visit

/-- A legacy session with items in it: it is opened and set up before them, and closed behind. -/
def enclosed (address : Option String) (keywords : Row) (part closing : List Item) : List Item :=
  [.request (.connect .legacy address keywords),repeatableRead,readOnly] ++ (part ++ closing)

section Enclosed

variable {kind : Item → Bool} {front back : List Item} {item : Item}

theorem set_up_absent (connect : kind (.request (.connect .legacy address keywords)) = false)
    (assign : ∀ name value, kind (.assign name value) = false) :
    ∀ item ∈ [Item.request (.connect .legacy address keywords),repeatableRead,readOnly],
      kind item = false := by
  simp [connect,repeatableRead,readOnly,assign]

theorem enclosed_countP (assign : ∀ name value, kind (.assign name value) = false) :
    (enclosed address keywords part closing).countP kind =
      (if kind (.request (.connect .legacy address keywords)) then 1 else 0) +
        part.countP kind + closing.countP kind := by
  simp [enclosed,List.countP_cons,repeatableRead,readOnly,assign]
  omega

theorem enclosed_legacy : opened .legacy (enclosed address keywords part closing) = true := by
  simp [enclosed,opened,Item.connects,failsAt,repeatableRead]

theorem enclosed_target (closes : Closing .legacy closing) :
    opened .target (enclosed address keywords part closing) = opened .target part := by
  unfold enclosed
  rw [opened_append (set_up_absent rfl fun _ _ => rfl),
    opened_append_left (closes.granted .target) (closes.connects .target)]

theorem enclosed_close (visit : Visit options part) (closes : Closing .legacy closing)
    (place : enclosed address keywords part closing = front ++ item :: back)
    (found : item.closes .legacy = true) :
    front = [.request (.connect .legacy address keywords),repeatableRead,readOnly] ++ part ∧
      Refusal .legacy back := by
  have shape : ([.request (.connect .legacy address keywords),repeatableRead,readOnly] ++ part) ++
      (closing ++ []) = front ++ item :: back := by
    rw [← place]
    simp [enclosed]
  have unclosed : ∀ i ∈ [.request (.connect .legacy address keywords),repeatableRead,readOnly] ++
      part, i.closes .legacy = false := by
    intro i member
    rcases List.mem_append.mp member with early | inside
    · exact set_up_absent rfl (fun _ _ => rfl) i early
    · exact visit.legacy i inside
  obtain ⟨early,late,rfl,rfl,inside⟩ := place_within unclosed (by simp) found shape
  obtain ⟨rfl,refused⟩ := closes.place inside found
  exact ⟨by simp,by simpa using refused⟩

theorem enclosed_close_target (closes : Closing .legacy closing)
    (place : enclosed address keywords part closing = front ++ item :: back)
    (found : item.closes .target = true) : ∃ early late,
      front = [.request (.connect .legacy address keywords),repeatableRead,readOnly] ++ early ∧
        back = late ++ closing ∧ part = early ++ item :: late :=
  place_within (set_up_absent rfl fun _ _ => rfl) (closes.closes_other (by decide)) found place

theorem enclosed_silenced (visit : Visit options part) (closes : Closing .legacy closing) (side : Side)
    (place : enclosed address keywords part closing = front ++ item :: back)
    (found : item.closes side = true) : Silenced side back := by
  cases side with
  | legacy =>
    obtain ⟨_,refused⟩ := enclosed_close visit closes place found
    exact ⟨back,[],by simp,refused,by simp⟩
  | target =>
    obtain ⟨early,late,_,rfl,inside⟩ := enclosed_close_target closes place found
    refine ⟨late,closing,rfl,visit.silenced early item late inside found,fun other member => ?_⟩
    rw [closes.session other member]
    nofun

theorem enclosed_ended (visit : Visit options part) (closes : Closing .legacy closing)
    (place : enclosed address keywords part closing = front ++ item :: back)
    (found : item.closes .target = true) (begun : succeeded Item.isBegin front = true) :
    front.any Item.endsTransaction = true := by
  obtain ⟨early,late,rfl,_,inside⟩ := enclosed_close_target closes place found
  rw [succeeded_append early (set_up_absent rfl fun _ _ => rfl)] at begun
  rw [List.any_append,visit.ended early item late inside found begun,Bool.or_true]

theorem enclosed_last (visit : Visit options part) (closes : Closing .legacy closing)
    (place : enclosed address keywords part closing = front ++ item :: back)
    (found : item.closes .legacy = true)
    (made : opened .target (enclosed address keywords part closing) = true) :
    front.any (Item.closes .target) = true := by
  obtain ⟨rfl,_⟩ := enclosed_close visit closes place found
  have count := visit.closes
  rw [enclosed_target closes] at made
  rw [made,if_pos rfl] at count
  have closed : part.any (Item.closes .target) = true :=
    List.any_eq_true.mpr (List.countP_pos_iff.mp (by omega))
  rw [List.any_append,closed,Bool.or_true]

theorem enclosed_snapshot (place : enclosed address keywords part closing = front ++ item :: back)
    (found : item.opensCursor .legacy = true) : repeatableRead ∈ front ∧ readOnly ∈ front := by
  have shape : [.request (.connect .legacy address keywords),repeatableRead,readOnly] ++
      ((part ++ closing) ++ []) = front ++ item :: back := by
    rw [← place]
    simp [enclosed]
  obtain ⟨early,_,rfl,_,_⟩ := place_within (set_up_absent rfl fun _ _ => rfl) (by simp) found shape
  simp

theorem enclosed_reads (visit : Visit options part) (closes : Closing .legacy closing) :
    ∀ item ∈ enclosed address keywords part closing, item.session? = some .legacy →
      item.ReadsLegacy options := by
  intro item member legacy
  rcases List.mem_append.mp member with early | later
  · simp only [List.mem_cons,List.not_mem_nil,or_false] at early
    rcases early with rfl | rfl | rfl
    · trivial
    · exact .inl rfl
    · exact .inr rfl
  · rcases List.mem_append.mp later with inside | last
    · exact visit.reads item inside legacy
    · exact closes.reads options item last

theorem enclosed_progress (visit : Visit options part) (closes : Closing .legacy closing) :
    (enclosed address keywords part closing).foldlM Item.turns false = some false := by
  change (part ++ closing).foldlM Item.turns false = some false
  rw [List.foldlM_append,visit.progress]
  exact closes.progress

end Enclosed

theorem disciplined_enclosed (visit : Visit options part) (closes : Closing .legacy closing) :
    Disciplined options (enclosed address keywords part closing) := by
  refine ⟨?connects,?legacyFirst,?closes,fun side _ _ _ => enclosed_silenced visit closes side,
    fun _ _ _ => enclosed_ended visit closes,fun _ _ _ => enclosed_last visit closes,
    fun _ _ _ => enclosed_snapshot,enclosed_reads visit closes,enclosed_progress visit closes⟩
  case connects =>
    intro side
    have last : closing.countP (Item.connects side) = 0 := by
      simpa [List.countP_eq_zero] using closes.connects side
    rw [enclosed_countP fun _ _ => rfl,last]
    cases side with
    | legacy =>
      have none : part.countP (Item.connects .legacy) = 0 := by
        simpa [List.countP_eq_zero] using visit.connects_legacy
      simp [none,Item.connects]
    | target => simp [visit.connects_target,Item.connects]
  case legacyFirst =>
    intro front item back place found
    obtain ⟨early,_,rfl,_,_⟩ := place_within (set_up_absent rfl fun _ _ => rfl)
      (closes.connects .target) found place
    simp [opened,Item.connects,failsAt,repeatableRead]
  case closes =>
    intro side
    rw [enclosed_countP fun _ _ => rfl]
    cases side with
    | legacy =>
      have none : part.countP (Item.closes .legacy) = 0 := by
        simpa [List.countP_eq_zero] using visit.legacy
      rw [none,closes.closes_own,enclosed_legacy]
      rfl
    | target =>
      have none : closing.countP (Item.closes .target) = 0 := by
        simpa [List.countP_eq_zero] using closes.closes_other (by decide)
      rw [none,visit.closes,enclosed_target closes]
      simp [Item.closes]

end Whole

end Store

end RoomTransfer
