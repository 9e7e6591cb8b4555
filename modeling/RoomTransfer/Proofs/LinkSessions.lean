import RoomTransfer.Proofs.Connections
import RoomTransfer.Proofs.LinkHistory

/-! The sessions of a legacy link. Whatever is done with a link, and however that fails, its trace is
made up of sessions one behind the other, each of which is set up as soon as it is open. The last of
them is open where the link is. -/
namespace RoomTransfer

open Store

namespace Store

/-- How many sessions were opened: asked for, without that failing. -/
def openings (side : Side) : List Item → Nat
  | [] => 0
  | item :: rest =>
    (if item.connects side && !failsAt side rest then 1 else 0) + openings side rest

def closings (side : Side) (trace : List Item) : Nat := trace.countP (Item.closes side)

variable {side : Side} {trace more : List Item}

theorem closings_append : closings side (trace ++ more) =
    closings side trace + closings side more := List.countP_append

/-- A failure tells something of what stands right before it. Where that is no connect, what comes
later counts by itself. -/
theorem openings_append (last : ∀ item ∈ trace.getLast?, item.connects side = false) :
    openings side (trace ++ more) = openings side trace + openings side more := by
  induction trace with
  | nil => simp [openings]
  | cons item rest ih =>
    cases rest with
    | nil =>
      have inner : item.connects side = false := last item (by simp)
      simp [openings,inner]
    | cons other rest =>
      have tail := ih (by simpa using last)
      have same : failsAt side (other :: rest ++ more) = failsAt side (other :: rest) := by
        cases other <;> rfl
      rw [List.cons_append,openings,openings,same,tail]
      omega

theorem openings_inner {item : Item} (inner : item.bounds = false) : openings side [item] = 0 := by
  simp [openings,Item.connects_inner inner]

theorem closings_inner {item : Item} (inner : item.bounds = false) : closings side [item] = 0 := by
  simp [closings,Item.closes_inner inner]

end Store

namespace Link

/-- The traces that a link leaves, by whether it is open behind them. A session that was asked for is
refused, or set up at once. -/
inductive Leaves : Bool → List Item → Prop where
  | nothing : Leaves false []
  | refused {trace} address keywords label (before : Leaves false trace) : Leaves false
      (trace ++ [.request (.connect .legacy address keywords),.failed .legacy label])
  | opened {trace} address keywords (before : Leaves false trace) : Leaves true
      (trace ++ [.request (.connect .legacy address keywords),repeatableRead,readOnly])
  | used {isOpen trace item} (before : Leaves isOpen trace) (inner : item.bounds = false)
      (needs : item.opensCursor .legacy = true → isOpen = true) : Leaves isOpen (trace ++ [item])
  | closed {trace} (before : Leaves true trace) : Leaves false (trace ++ [.request (.close .legacy)])

/-- How the sessions of a link are kept in order. -/
structure Orderly (trace : List Item) (isOpen : Bool) : Prop where
  /-- No session is lost: one more is opened than closed where the link is open, else as many. -/
  balanced : (openings .legacy trace : Int) - closings .legacy trace = if isOpen then 1 else 0
  /-- At no moment is more than one session open. -/
  single : ∀ front, front <+: trace → closings .legacy front ≤ openings .legacy front ∧
    openings .legacy front ≤ closings .legacy front + 1
  /-- A cursor is opened in a session that was set up as soon as it was open. -/
  snapshot : ∀ front item back, trace = front ++ item :: back → item.opensCursor .legacy = true →
    ∃ early address keywords late, front = early ++
      (.request (.connect .legacy address keywords) :: repeatableRead :: readOnly :: late) ∧
        ∀ other ∈ late, other.bounds = false

namespace Leaves

variable {isOpen : Bool} {trace : List Item}

/-- No trace ends with a connect whose outcome is not known. -/
theorem last (leaves : Leaves isOpen trace) :
    ∀ item ∈ trace.getLast?, item.connects .legacy = false := by
  cases leaves with
  | nothing => simp
  | refused => simp [Item.connects]
  | opened => simp [Item.connects,readOnly]
  | used _ inner _ => simpa using Item.connects_inner inner .legacy
  | closed => simp [Item.connects]

theorem balanced (leaves : Leaves isOpen trace) :
    openings .legacy trace = closings .legacy trace + if isOpen then 1 else 0 := by
  induction leaves with
  | nothing => rfl
  | refused address keywords label before ih =>
    rw [openings_append before.last,closings_append,ih]
    simp [openings,closings,Item.connects,Item.closes,failsAt]
  | opened address keywords before ih =>
    rw [openings_append before.last,closings_append,ih]
    simp [openings,closings,Item.connects,Item.closes,failsAt,repeatableRead,readOnly]
  | used before inner needs ih =>
    rw [openings_append before.last,closings_append,ih,openings_inner inner,closings_inner inner]
    omega
  | closed before ih =>
    rw [openings_append before.last,closings_append,ih]
    simp [openings,closings,Item.connects,Item.closes]

/-- What stands in front within two parts lies in the first, or reaches into the second. -/
theorem front_cases {front group : List Item} (part : front <+: trace ++ group) :
    front <+: trace ∨ ∃ more, more <+: group ∧ front = trace ++ more := by
  rcases List.prefix_or_prefix_of_prefix part (List.prefix_append trace group) with
    earlier | ⟨more,rfl⟩
  · exact .inl earlier
  · exact .inr ⟨more,(List.prefix_append_right_inj trace).mp part,rfl⟩

theorem single (leaves : Leaves isOpen trace) : ∀ front, front <+: trace →
    closings .legacy front ≤ openings .legacy front ∧
      openings .legacy front ≤ closings .legacy front + 1 := by
  induction leaves with
  | nothing =>
    intro front part
    rw [List.prefix_nil.mp part]
    decide
  | refused address keywords label before ih =>
    intro front part
    rcases front_cases part with earlier | ⟨more,start,rfl⟩
    · exact ih front earlier
    · rw [openings_append before.last,closings_append,before.balanced]
      simp only [List.prefix_cons_iff,List.prefix_nil] at start
      rcases start with rfl | ⟨_,rfl,rfl | ⟨_,rfl,rfl⟩⟩ <;>
        simp [openings,closings,Item.connects,Item.closes,failsAt]
  | opened address keywords before ih =>
    intro front part
    rcases front_cases part with earlier | ⟨more,start,rfl⟩
    · exact ih front earlier
    · rw [openings_append before.last,closings_append,before.balanced]
      simp only [List.prefix_cons_iff,List.prefix_nil] at start
      rcases start with rfl | ⟨_,rfl,rfl | ⟨_,rfl,rfl | ⟨_,rfl,rfl⟩⟩⟩ <;>
        simp [openings,closings,Item.connects,Item.closes,failsAt,repeatableRead,readOnly]
  | @used isOpen trace item before inner needs ih =>
    intro front part
    rcases List.prefix_concat_iff.mp part with rfl | earlier
    · rw [openings_append before.last,closings_append,openings_inner inner,closings_inner inner]
      exact ih trace (List.prefix_refl trace)
    · exact ih front earlier
  | closed before ih =>
    intro front part
    rcases List.prefix_concat_iff.mp part with rfl | earlier
    · rw [openings_append before.last,closings_append,before.balanced]
      simp [openings,closings,Item.connects,Item.closes]
    · exact ih front earlier

/-- The session that is open was set up at once, and neither it nor another was opened or closed
since. -/
theorem current (leaves : Leaves isOpen trace) (still : isOpen = true) :
    ∃ early address keywords late, trace = early ++
      (.request (.connect .legacy address keywords) :: repeatableRead :: readOnly :: late) ∧
        ∀ other ∈ late, other.bounds = false := by
  induction leaves with
  | nothing | refused | closed => cases still
  | opened address keywords before => exact ⟨_,address,keywords,[],rfl,by simp⟩
  | @used _ _ item before inner needs ih =>
    obtain ⟨early,address,keywords,late,rfl,quiet⟩ := ih still
    refine ⟨early,address,keywords,late ++ [item],by simp,fun other member => ?_⟩
    rcases List.mem_append.mp member with sooner | last
    · exact quiet other sooner
    · rw [List.mem_singleton.mp last]
      exact inner

/-- An item of a kind that is not in the second part stands in the first. -/
private theorem place_before {kind : Item → Bool} {group front back : List Item} {item : Item}
    (absent : ∀ i ∈ group, kind i = false) (found : kind item = true)
    (place : trace ++ group = front ++ item :: back) : ∃ late, trace = front ++ item :: late := by
  have unpreceded : ∀ i ∈ ([] : List Item), kind i = false := by simp
  obtain ⟨_,late,rfl,_,inside⟩ := place_within unpreceded absent found place
  exact ⟨late,inside⟩

theorem snapshot (leaves : Leaves isOpen trace) : ∀ front item back,
    trace = front ++ item :: back → item.opensCursor .legacy = true →
      ∃ early address keywords late, front = early ++
        (.request (.connect .legacy address keywords) :: repeatableRead :: readOnly :: late) ∧
          ∀ other ∈ late, other.bounds = false := by
  induction leaves with
  | nothing =>
    intro front item back place
    simp at place
  | refused address keywords label before ih =>
    intro front item back place found
    obtain ⟨late,inside⟩ := place_before (by simp [Item.opensCursor]) found place
    exact ih front item late inside found
  | opened address keywords before ih =>
    intro front item back place found
    obtain ⟨late,inside⟩ := place_before (by simp [Item.opensCursor,repeatableRead,readOnly])
      found place
    exact ih front item late inside found
  | closed before ih =>
    intro front item back place found
    obtain ⟨late,inside⟩ := place_before (by simp [Item.opensCursor]) found place
    exact ih front item late inside found
  | used before inner needs ih =>
    intro front item back place found
    rcases split_cases place with ⟨late,inside,_⟩ | ⟨rfl,rfl,_⟩ | ⟨m,_,past⟩
    · exact ih front item late inside found
    · exact before.current (needs found)
    · simp at past

theorem orderly (leaves : Leaves isOpen trace) : Orderly trace isOpen := by
  refine ⟨?_,leaves.single,leaves.snapshot⟩
  rw [leaves.balanced]
  cases isOpen <;> simp

end Leaves

variable {σ α β : Type} [Database σ] {credentials : Credentials}

/-- How the state of a link decides what may be done with it. -/
structure Guarded (credentials : Credentials) (v : World σ) : Prop where
  /-- An open link is not opened again. -/
  again : v.linkOpen = true → acquire credentials v = ⟨.ok (),v,[]⟩
  /-- A link is open behind an attempt to open it if and only if that succeeds. -/
  acquired : (acquire credentials v).world.linkOpen = true ↔ (acquire credentials v).result = .ok ()
  /-- A closed link is not closed again. -/
  idle : v.linkOpen = false → release v = ⟨.ok (),v,[]⟩
  /-- A link that was closed is so however the close ends. -/
  released : (release v).world.linkOpen = false
  left : ∀ {α : Type} (body : Run σ α), (within credentials body v).world.linkOpen = false
  /-- A closed link gives access to nothing. -/
  connection : v.linkOpen = false → Link.connection v = ⟨.error .linkClosed,v,[]⟩
  cursor : v.linkOpen = false → ∀ name, openCursor name v = ⟨.error .linkClosed,v,[]⟩
  fetch : v.linkOpen = false → ∀ {α : Type} (q : Query) (each : α → List Row → Run σ α) (a : α),
    Link.fetch q each a v = ⟨.error .linkClosed,v,[]⟩

section Guards

variable {v : World σ}

theorem acquire_again (isOpen : v.linkOpen = true) : acquire credentials v = ⟨.ok (),v,[]⟩ := by
  simp [acquire,Run.world,Run.bind_apply,isOpen]

theorem acquired_iff : (acquire credentials v).world.linkOpen = true ↔
    (acquire credentials v).result = .ok () := by
  refine ⟨fun isOpen => ?_,Migration.acquire_opens⟩
  cases result : (acquire credentials v).result with
  | ok _ => rfl
  | error failure => simp [Migration.acquire_failed result] at isOpen

theorem release_idle (closed : v.linkOpen = false) : release v = ⟨.ok (),v,[]⟩ := by
  simp [release,Run.world,Run.bind_apply,closed]

omit [Database σ] in
theorem connection_closed (closed : v.linkOpen = false) :
    connection v = ⟨.error .linkClosed,v,[]⟩ := by
  simp [connection,Run.world,Run.bind_apply,Run.fail,closed]

omit [Database σ] in
theorem openCursor_closed (closed : v.linkOpen = false) (name : String) :
    openCursor name v = ⟨.error .linkClosed,v,[]⟩ := by
  unfold openCursor
  rw [Run.bind_apply,connection_closed closed]

theorem fetch_closed (closed : v.linkOpen = false) (q : Query) (each : α → List Row → Run σ α)
    (a : α) : fetch q each a v = ⟨.error .linkClosed,v,[]⟩ := by
  unfold fetch
  rw [Run.bind_apply,openCursor_closed closed]

theorem guarded (credentials : Credentials) (v : World σ) : Guarded credentials v where
  again := acquire_again
  acquired := acquired_iff
  idle := release_idle
  released := Migration.release_closed
  left := Migration.within_left
  connection := connection_closed
  cursor := openCursor_closed
  fetch closed := fetch_closed closed

end Guards

omit [Database σ] in
/-- Carries the sessions of a link on, whatever was done with it before. -/
def Tends (x : Run σ α) : Prop := ∀ (w : World σ) (trace : List Item),
  Leaves w.linkOpen trace → Leaves (x w).world.linkOpen (trace ++ traceOf (x w).effects)

section Parts

omit [Database σ] 

/-- What leaves the link and the trace as they are. -/
theorem tends_of_still {x : Run σ α}
    (still : ∀ w, (x w).world.linkOpen = w.linkOpen ∧ traceOf (x w).effects = []) : Tends x := by
  intro w trace leaves
  obtain ⟨same,none⟩ := still w
  rw [same,none,List.append_nil]
  exact leaves

theorem tends_pure (a : α) : Tends (pure a : Run σ α) := tends_of_still fun _ => ⟨rfl,rfl⟩

theorem tends_fail (failure : Failure) : Tends (Run.fail failure : Run σ α) :=
  tends_of_still fun _ => ⟨rfl,rfl⟩

theorem tends_ofExcept (result : Except Failure α) : Tends (Run.ofExcept result : Run σ α) := by
  cases result with
  | ok a => exact tends_pure a
  | error failure => exact tends_fail failure

namespace Tends

theorem bind {x : Run σ α} {f : α → Run σ β} (first : Tends x) (rest : ∀ a, Tends (f a)) :
    Tends (x >>= f) := by
  intro w trace leaves
  have before := first w trace leaves
  cases result : (x w).result with
  | error failure =>
    rw [Run.bind_of_error result]
    exact before
  | ok a =>
    rw [Run.bind_of_ok result,traceOf_append,← List.append_assoc]
    exact rest a _ _ before

theorem attempt {x : Run σ α} (tends : Tends x) : Tends (Run.attempt x) := tends

theorem ensuring {x : Run σ α} {cleanup : Run σ Unit} (body : Tends x) (after : Tends cleanup) :
    Tends (Run.ensuring x cleanup) :=
  body.attempt.bind fun result => after.bind fun _ => tends_ofExcept result

theorem mapFailure {x : Run σ α} (f : Failure → Failure) (tends : Tends x) :
    Tends (Run.mapFailure f x) := by
  intro w trace leaves
  rw [Run.mapFailure_apply]
  exact tends w trace leaves

end Tends

end Parts

section Traffic

theorem tends_ask {request : Request} (inner : request.isSession = false) :
    Tends (Run.ask request : Run σ Reply) := by
  intro w trace leaves
  have asked : Leaves w.linkOpen (trace ++ [.request request]) := leaves.used inner nofun
  rw [Run.ask_world]
  rcases Run.ask_trace request w with ⟨_,_,told⟩ | ⟨_,label,_,told⟩
  · rw [told]
    exact asked
  · rw [told,List.append_cons]
    exact asked.used rfl nofun

theorem tends_askRows {request : Request} (inner : request.isSession = false) :
    Tends (Run.askRows request : Run σ Unit) := by
  intro w trace leaves
  unfold Run.askRows
  dsimp only
  split
  · exact leaves.used inner nofun
  · exact leaves.used rfl nofun

end Traffic

section Operations

theorem tends_acquire (credentials : Credentials) : Tends (acquire credentials : Run σ Unit) := by
  intro w trace leaves
  cases isOpen : w.linkOpen with
  | true =>
    rw [acquire_again isOpen]
    simpa [traceOf] using leaves
  | false =>
    rw [isOpen] at leaves
    obtain ⟨address,keywords,⟨⟨_,refused⟩,label,told⟩ | ⟨acquired,told⟩⟩ :=
      Migration.acquire_trace credentials isOpen
    · rw [Migration.acquire_failed refused,told]
      exact leaves.refused address keywords label
    · rw [Migration.acquire_opens acquired,told]
      exact leaves.opened address keywords

theorem tends_release : Tends (release : Run σ Unit) := by
  intro w trace leaves
  cases isOpen : w.linkOpen with
  | false =>
    rw [release_idle isOpen]
    simpa [traceOf] using leaves
  | true =>
    rw [isOpen] at leaves
    obtain ⟨refusal,told,rfl | ⟨label,rfl⟩⟩ := Migration.release_closing isOpen
    · rw [Migration.release_closed,told]
      exact leaves.closed
    · rw [Migration.release_closed,told,List.append_cons]
      exact leaves.closed.used rfl fun opens => by cases opens

omit [Database σ] in
theorem tends_connection : Tends (connection : Run σ Unit) := by
  refine tends_of_still fun w => ?_
  cases isOpen : w.linkOpen <;>
    simp [connection,Run.world,Run.bind_apply,Run.fail,isOpen,traceOf]

omit [Database σ] in
theorem tends_openCursor (name : String) : Tends (openCursor name : Run σ Unit) := by
  intro w trace leaves
  cases isOpen : w.linkOpen with
  | false =>
    rw [openCursor_closed isOpen]
    simpa [traceOf] using leaves
  | true =>
    have granted : connection w = ⟨.ok (),w,[]⟩ := by
      simp [connection,Run.world,Run.bind_apply,isOpen]
    have whole : openCursor name w =
        ⟨.ok (),w,[.item (.cursor .legacy (if name.isEmpty then none else some name))]⟩ := by
      unfold openCursor
      rw [Run.bind_apply,granted]
      rfl
    rw [whole]
    exact leaves.used rfl fun _ => isOpen

theorem tends_serve (q : Query) (rows : Nat) : Tends (serve q rows : Run σ Unit) :=
  (tends_askRows rfl).mapFailure _

theorem tends_consume (q : Query) {each : α → List Row → Run σ α}
    (tends : ∀ a batch, Tends (each a batch)) (a : α) (batches : List (List Row)) :
    Tends (consume q each a batches) := by
  induction batches generalizing a with
  | nil => exact (tends_serve q 0).bind fun _ => tends_pure a
  | cons batch rest ih =>
    exact (tends_serve q batch.length).bind fun _ => (tends a batch).bind fun next => ih next

theorem tends_fetch (q : Query) {each : α → List Row → Run σ α}
    (tends : ∀ a batch, Tends (each a batch)) (a : α) : Tends (fetch q each a) :=
  (tends_openCursor q.cursor).bind fun _ =>
    ((tends_ask rfl).mapFailure _).bind fun _ => tends_consume q tends a _

theorem tends_within {body : Run σ α} (tends : Tends body) : Tends (within credentials body) :=
  (tends_acquire credentials).bind fun _ => tends.ensuring tends_release

end Operations

/-- What only a link is used in: its operations one after another and inside each other, with the
failures of some seen by others. What is done with a batch may use the link again. -/
inductive Uses (credentials : Credentials) : {α : Type} → Run σ α → Prop where
  | pure {α : Type} (a : α) : Uses credentials (Pure.pure a : Run σ α)
  | fail {α : Type} (failure : Failure) : Uses credentials (Run.fail failure : Run σ α)
  | bind {α β : Type} {x : Run σ α} {f : α → Run σ β} (first : Uses credentials x)
    (rest : ∀ a, Uses credentials (f a)) : Uses credentials (x >>= f)
  | attempt {α : Type} {x : Run σ α} (uses : Uses credentials x) : Uses credentials (Run.attempt x)
  | isOpen : Uses credentials (World.linkOpen <$> Run.world : Run σ Bool)
  | acquire : Uses credentials (Link.acquire credentials)
  | release : Uses credentials Link.release
  | connection : Uses credentials Link.connection
  | cursor (name : String) : Uses credentials (openCursor name)
  | fetch {α : Type} (q : Query) {each : α → List Row → Run σ α} (a : α)
    (uses : ∀ a batch, Uses credentials (each a batch)) : Uses credentials (Link.fetch q each a)
  | within {α : Type} {body : Run σ α} (uses : Uses credentials body) :
    Uses credentials (Link.within credentials body)

theorem Uses.tends {x : Run σ α} (uses : Uses credentials x) : Tends x := by
  induction uses with
  | pure a => exact tends_pure a
  | fail failure => exact tends_fail failure
  | bind first rest ihFirst ihRest => exact ihFirst.bind ihRest
  | attempt uses ih => exact ih.attempt
  | isOpen => exact tends_of_still fun _ => ⟨rfl,rfl⟩
  | acquire => exact tends_acquire credentials
  | release => exact tends_release
  | connection => exact tends_connection
  | cursor name => exact tends_openCursor name
  | fetch q a uses ih => exact tends_fetch q ih a
  | within uses ih => exact tends_within ih

mutual

theorem perform_uses (credentials : Credentials) : ∀ operation,
    Uses credentials (perform credentials operation : Run σ _)
  | .acquire => .bind .acquire fun _ => .pure []
  | .release => .bind .release fun _ => .pure []
  | .connection => .bind .connection fun _ => .pure []
  | .cursor name => .bind (.cursor name) fun _ => .pure []
  | .fetch q => .fetch q [] fun got batch => .pure (got ++ [batch])
  | .raise failure => .fail failure
  | .within body => .within (performAll_uses credentials body)

theorem performAll_uses (credentials : Credentials) : ∀ operations,
    Uses credentials (performAll credentials operations : Run σ _)
  | [] => .pure []
  | operation :: rest =>
    .bind (perform_uses credentials operation) fun got =>
      .bind (performAll_uses credentials rest) fun others => .pure (got ++ others)

end

/-- A history carries the sessions of a link on from one operation to the next. -/
theorem history_leaves {operations : List Operation} {w : World σ} {trace : List Item}
    {front back : List (Outcome σ (List (List Row)))} {o : Outcome σ (List (List Row))}
    (leaves : Leaves w.linkOpen trace)
    (place : history credentials operations w = front ++ o :: back) :
    Leaves o.world.linkOpen (trace ++ traceOf ((front ++ [o]).flatMap Outcome.effects)) := by
  induction operations generalizing w trace front with
  | nil => simp [history] at place
  | cons operation rest ih =>
    have next := (perform_uses credentials operation).tends w trace leaves
    cases front with
    | nil =>
      obtain ⟨rfl,_⟩ := List.cons.inj place
      simpa using next
    | cons first front =>
      obtain ⟨rfl,later⟩ := List.cons.inj place
      simpa [traceOf_append] using ih next later

/-- A link keeps its sessions in order behind each operation of a history and behind all that is made
up of its operations, whatever fails. What it does with one is decided by whether it is open. -/
theorem sessions_in_order (credentials : Credentials) (w : World σ) (closed : w.linkOpen = false) :
    (∀ operations front o back, history credentials operations w = front ++ o :: back →
      Orderly (traceOf ((front ++ [o]).flatMap Outcome.effects)) o.world.linkOpen) ∧
    (∀ {α : Type} (x : Run σ α), Uses credentials x →
      Orderly (traceOf (x w).effects) (x w).world.linkOpen) ∧
    (∀ v : World σ, Guarded credentials v) ∧ Failure.linkClosed.kind = .foreign "RuntimeError" := by
  have fresh : Leaves w.linkOpen [] := closed ▸ .nothing
  refine ⟨fun operations front o back place => ?_,fun x uses => ?_,guarded credentials,rfl⟩
  · exact (history_leaves fresh place).orderly
  · exact (uses.tends w [] fresh).orderly

/-- A legacy database that is in no state to be closed. -/
def stubborn : World Scripts where
  stores := { legacy := { traps := [⟨"close",0,.raised (.foreign "ValueError") "still busy"⟩] } }

/-- A close that fails is told to the one who leaves the link, and the next session is another. -/
theorem stubborn_in_order : stubborn.linkOpen = false ∧
    (history {} [.within [.cursor "rooms"],.acquire] stubborn).map (·.result.isOk) = [false,true] ∧
    ∀ front o back, history {} [.within [.cursor "rooms"],.acquire] stubborn = front ++ o :: back →
      Orderly (traceOf ((front ++ [o]).flatMap Outcome.effects)) o.world.linkOpen :=
  ⟨rfl,by decide +kernel,(sessions_in_order {} stubborn rfl).1 _⟩

end Link

end RoomTransfer
