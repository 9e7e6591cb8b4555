import RoomTransfer.Proofs.Batches
import RoomTransfer.Proofs.Course
import RoomTransfer.Store.Script

/-! Fetching in batches. One batch after another is asked for and handed on, until the database
refuses a request, the one who takes the batches fails, or no row is left. -/
namespace RoomTransfer

open Store

namespace Store

def Item.fetches : Item → Bool
  | .request (.fetch _ _ _) => true
  | _ => false

def fetchCount (effects : List Effect) : Nat := (traceOf effects).countP Item.fetches

theorem fetchCount_append (first second : List Effect) :
    fetchCount (first ++ second) = fetchCount first + fetchCount second := by
  simp [fetchCount,traceOf]

end Store

namespace Link

variable {σ α : Type} [Database σ]

namespace Query

def start (q : Query) : Request := .execute .legacy q.cursor q.sql q.parameters

def next (q : Query) (rows : Nat) : Request := .fetch q.cursor q.size rows

def request (q : Query) : List (List Row) → Request
  | [] => q.next 0
  | batch :: _ => q.next batch.length

def opened (q : Query) : Effect :=
  .item (.cursor .legacy (if q.cursor.isEmpty then none else some q.cursor))

end Query

/-- Batches are handed on one after another, from one world and value to the next. Each is asked for in
the world that is there once the one before it has been taken, and the database serves it. -/
inductive Handed (q : Query) (each : α → List Row → Run σ α) :
    World σ → α → List (List Row) → World σ → α → List Effect → Prop where
  | none {w a} : Handed q each w a [] w a []
  | next {w a batch reply v b seen rest u c later}
    (served : (Database.answer (q.next batch.length) w.stores).1 = .ok reply)
    (taken : each a batch (w.after (q.next batch.length)) = ⟨.ok b,v,seen⟩)
    (others : Handed q each v b rest u c later) :
    Handed q each w a (batch :: rest) u c (.item (.request (q.next batch.length)) :: seen ++ later)

/-- How it ends, in a world and with a value, when these batches are left. -/
inductive Stops (q : Query) (each : α → List Row → Run σ α) (v : World σ) (b : α) :
    List (List Row) → Outcome σ α → Prop where
  /-- The next request is refused, be there a batch left or none. -/
  | refused {left fault}
    (refused : (Database.answer (q.request left) v.stores).1 = .error fault) :
    Stops q each v b left ⟨.error (fetchFailure fault.failure),v.after (q.request left),
      [.item (.failed .legacy fault.label)]⟩
  /-- The one who takes a batch fails. That is not a failure to fetch. -/
  | declined {batch left reply failure u seen}
    (served : (Database.answer (q.next batch.length) v.stores).1 = .ok reply)
    (failed : each b batch (v.after (q.next batch.length)) = ⟨.error failure,u,seen⟩) :
    Stops q each v b (batch :: left)
      ⟨.error failure,u,.item (.request (q.next batch.length)) :: seen⟩
  /-- A last request finds no rows. -/
  | ended {reply} (served : (Database.answer (q.next 0) v.stores).1 = .ok reply) :
    Stops q each v b [] ⟨.ok b,v.after (q.next 0),[.item (.request (q.next 0))]⟩

section Parts

variable {q : Query} {each : α → List Row → Run σ α} {w v : World σ} {a b : α} {seen : List Effect}
  {parts front left : List (List Row)} {o : Outcome σ α} {rows : Nat}

theorem serve_served {reply : Reply}
    (served : (Database.answer (q.next rows) w.stores).1 = .ok reply) :
    serve q rows w = ⟨.ok (),w.after (q.next rows),[.item (.request (q.next rows))]⟩ := by
  unfold serve
  rw [Run.mapFailure_apply]
  simp only [Run.askRows]
  change (Database.answer (.fetch q.cursor q.size rows) w.stores).1 = _ at served
  rw [served]
  rfl

theorem serve_refused (rows : Nat) {fault : Fault}
    (refused : (Database.answer (q.next rows) w.stores).1 = .error fault) :
    serve q rows w = ⟨.error (fetchFailure fault.failure),w.after (q.next rows),
      [.item (.failed .legacy fault.label)]⟩ := by
  unfold serve
  rw [Run.mapFailure_apply]
  simp only [Run.askRows]
  change (Database.answer (.fetch q.cursor q.size rows) w.stores).1 = _ at refused
  rw [refused]
  rfl

theorem consume_of_stops (stops : Stops q each v b left o) : consume q each b left v = o := by
  cases stops with
  | refused refused =>
    cases left with
    | nil =>
      rw [consume,Run.bind_apply,serve_refused 0 refused]
      rfl
    | cons batch rest =>
      rw [consume,Run.bind_apply,serve_refused batch.length refused]
      rfl
  | declined served failed =>
    simp [consume,Run.bind_apply,serve_served served,failed]
  | ended served => simp [consume,Run.bind_apply,serve_served served]

/-- Batches that are handed on come before what stops the fetch. -/
theorem consume_of_handed (handed : Handed q each w a front v b seen)
    (stops : Stops q each v b left o) :
    consume q each a (front ++ left) w = ⟨o.result,o.world,seen ++ o.effects⟩ := by
  induction handed with
  | none => exact consume_of_stops stops
  | next served taken others ih =>
    simp [consume,Run.bind_apply,serve_served served,taken,ih stops]

/-- Every fetch is stopped, at the latest behind the last batch. -/
theorem exists_stop (q : Query) (each : α → List Row → Run σ α) (w : World σ) (a : α)
    (parts : List (List Row)) : ∃ front left v b seen o, parts = front ++ left ∧
      Handed q each w a front v b seen ∧ Stops q each v b left o := by
  induction parts generalizing w a with
  | nil =>
    cases answer : (Database.answer (q.next 0) w.stores).1 with
    | ok reply => exact ⟨[],[],w,a,[],_,rfl,.none,.ended answer⟩
    | error fault => exact ⟨[],[],w,a,[],_,rfl,.none,.refused answer⟩
  | cons batch rest ih =>
    cases answer : (Database.answer (q.next batch.length) w.stores).1 with
    | error fault => exact ⟨[],batch :: rest,w,a,[],_,rfl,.none,.refused answer⟩
    | ok reply =>
      generalize taken : each a batch (w.after (q.next batch.length)) = o
      obtain ⟨result,v,seen⟩ := o
      cases result with
      | error failure => exact ⟨[],batch :: rest,w,a,[],_,rfl,.none,.declined answer taken⟩
      | ok b =>
        obtain ⟨front,left,u,c,later,o,rfl,handed,stops⟩ := ih v b
        exact ⟨batch :: front,left,u,c,_,o,rfl,.next answer taken handed,stops⟩

/-- One request for each batch, as long as the one who takes them makes none. -/
theorem Handed.count (handed : Handed q each w a front v b seen)
    (idle : ∀ a batch w, fetchCount (each a batch w).effects = 0) : fetchCount seen = front.length := by
  induction handed with
  | none => rfl
  | @next w a batch reply v b seen rest u c later served taken others ih =>
    have none : fetchCount seen = 0 := by simpa [taken] using idle a batch (w.after (q.next batch.length))
    have one : fetchCount [.item (.request (q.next batch.length))] = 1 := rfl
    rw [List.cons_append,← List.singleton_append,fetchCount_append,fetchCount_append,one,none,ih,List.length_cons]
    omega

/-- The one who only collects batches has those that were handed on. -/
theorem Handed.collected {got b : List (List Row)}
    (handed : Handed q (fun got batch => (pure (got ++ [batch]) : Run σ _)) w got front v b seen) :
    b = got ++ front := by
  induction handed with
  | none => simp
  | next served taken others ih =>
    cases taken
    simpa using ih

end Parts

theorem endsIteration_iff {failure : Failure} :
    failure.endsIteration = true ↔ failure.kind = .foreign "StopIteration" := by
  unfold Failure.endsIteration
  cases failure.kind <;> simp [FailureKind.endsIteration]

/-- How a fetch goes over rows that come in these batches. -/
structure FetchedIn (q : Query) (each : α → List Row → Run σ α) (a : α) (w : World σ)
    (parts : List (List Row)) : Prop where
  /-- It comes to an end, with so many batches handed on. -/
  stops : ∃ front left v b seen o, parts = front ++ left ∧
    Handed q each (w.after q.start) a front v b seen ∧ Stops q each v b left o
  /-- What stops it behind some batches is its outcome, and those are all that was handed on. -/
  outcome : ∀ front left v b seen o, parts = front ++ left →
    Handed q each (w.after q.start) a front v b seen → Stops q each v b left o →
      fetch q each a w =
        ⟨o.result,o.world,q.opened :: .item (.request q.start) :: (seen ++ o.effects)⟩
  /-- If it returns, rows were asked for once more than there are batches. -/
  counted : (∀ a batch w, fetchCount (each a batch w).effects = 0) →
    ∀ b, (fetch q each a w).result = .ok b → fetchCount (fetch q each a w).effects = parts.length + 1

section Whole

variable {q : Query} {each : α → List Row → Run σ α} {a : α} {w : World σ} {reply : Reply}

omit [Database σ] in
theorem openCursor_open (linked : w.linkOpen = true) :
    openCursor q.cursor w = ⟨.ok (),w,[q.opened]⟩ := by
  simp [openCursor,connection,Run.bind_apply,Run.world,linked,Run.note,Run.effect,Query.opened]

theorem fetch_refused (linked : w.linkOpen = true) {fault : Fault}
    (refused : (Database.answer q.start w.stores).1 = .error fault) :
    fetch q each a w = ⟨.error (fetchFailure fault.failure),w.after q.start,
      [q.opened,.item (.request q.start),.item (.failed .legacy fault.label)]⟩ := by
  have asked : Run.ask q.start w = ⟨.error fault.failure,w.after q.start,
      [.item (.request q.start),.item (.failed .legacy fault.label)]⟩ := by
    simp only [Run.ask,refused]
    rfl
  change Run.ask (.execute .legacy q.cursor q.sql q.parameters) w = _ at asked
  simp [fetch,Run.bind_apply,openCursor_open linked,Run.mapFailure_apply,asked]

theorem fetch_served (linked : w.linkOpen = true)
    (served : (Database.answer q.start w.stores).1 = .ok reply) {o : Outcome σ α}
    (consumed : consume q each a (batches q.size reply.rows) (w.after q.start) = o) :
    fetch q each a w = ⟨o.result,o.world,q.opened :: .item (.request q.start) :: o.effects⟩ := by
  have asked : Run.ask q.start w = ⟨.ok reply,w.after q.start,[.item (.request q.start)]⟩ := by
    simp only [Run.ask,served]
    rfl
  change Run.ask (.execute .legacy q.cursor q.sql q.parameters) w = _ at asked
  simp [fetch,Run.bind_apply,openCursor_open linked,Run.mapFailure_apply,asked,consumed]

theorem fetchedIn_batches (linked : w.linkOpen = true)
    (served : (Database.answer q.start w.stores).1 = .ok reply) :
    FetchedIn q each a w (batches q.size reply.rows) := by
  have outcome : ∀ front left v b seen o, batches q.size reply.rows = front ++ left →
      Handed q each (w.after q.start) a front v b seen → Stops q each v b left o →
        fetch q each a w =
          ⟨o.result,o.world,q.opened :: .item (.request q.start) :: (seen ++ o.effects)⟩ := by
    intro front left v b seen o parts handed stops
    have consumed := consume_of_handed handed stops
    rw [← parts] at consumed
    exact fetch_served linked served consumed
  have stops := exists_stop q each (w.after q.start) a (batches q.size reply.rows)
  refine ⟨stops,outcome,fun idle b returned => ?_⟩
  obtain ⟨front,left,v,c,seen,o,parts,handed,stops⟩ := stops
  have told := outcome front left v c seen o parts handed stops
  rw [told] at returned ⊢
  cases stops with
  | refused => cases returned
  | declined => cases returned
  | ended =>
    have count := handed.count idle
    have first : fetchCount [q.opened,.item (.request q.start)] = 0 := rfl
    have last : fetchCount [.item (.request (q.next 0))] = 1 := rfl
    change fetchCount ([q.opened,.item (.request q.start)] ++
      (seen ++ [.item (.request (q.next 0))])) = _
    rw [fetchCount_append,fetchCount_append,first,last,count,parts,List.append_nil]
    omega

/-- Whoever collects the batches and gets to the end has them all. -/
theorem fetchAll_ok (linked : w.linkOpen = true)
    (served : (Database.answer q.start w.stores).1 = .ok reply) {got : List (List Row)}
    (returned : (fetchAll q w).result = .ok got) : got = batches q.size reply.rows := by
  have fetched : FetchedIn q (fun got batch => (pure (got ++ [batch]) : Run σ _)) [] w _ :=
    fetchedIn_batches linked served
  obtain ⟨front,left,v,b,seen,o,parts,handed,stops⟩ := fetched.stops
  have told := fetched.outcome front left v b seen o parts handed stops
  rw [fetchAll,told] at returned
  cases stops with
  | refused => cases returned
  | declined _ failed => cases failed
  | ended =>
    obtain rfl := Except.ok.inj returned
    rw [handed.collected,parts]
    simp

end Whole

/-- A query is fetched in batches that part its rows. Whichever request is refused, exactly the batches
before it have been handed on; a refusal by the database is told as a query that failed, and any
other failure as it is, but for the signal that an iteration is over. -/
theorem cursor_parted (q : Query) (each : α → List Row → Run σ α) (a : α) (w : World σ)
    (linked : w.linkOpen = true) (sized : 1 ≤ q.size) :
    (∀ fault, (Database.answer q.start w.stores).1 = .error fault →
      fetch q each a w = ⟨.error (fetchFailure fault.failure),w.after q.start,
        [q.opened,.item (.request q.start),.item (.failed .legacy fault.label)]⟩) ∧
    (∀ reply, (Database.answer q.start w.stores).1 = .ok reply → ∃ parts,
      Parted q.size reply.rows parts ∧ FetchedIn q each a w parts ∧
        ∀ got, (fetchAll q w).result = .ok got → got = parts) ∧
    ∀ failure : Failure,
      (failure.isDatabase = true → (fetchFailure failure).kind = .legacyRead ∧
        (fetchFailure failure).message = "Legacy query failed: " ++ failure.message) ∧
      (failure.isDatabase = false → failure.kind ≠ .foreign "StopIteration" →
        fetchFailure failure = failure) ∧
      (failure.kind = .foreign "StopIteration" →
        (fetchFailure failure).kind = .foreign "RuntimeError") := by
  refine ⟨fun fault refused => fetch_refused linked refused,fun reply served => ?_,
    fun failure => ⟨fun database => ?_,fun other unlike => ?_,fun signal => ?_⟩⟩
  · exact ⟨_,batches_parted sized reply.rows,fetchedIn_batches linked served,
      fun got => fetchAll_ok linked served⟩
  · rw [fetchFailure,if_pos database]
    exact ⟨rfl,rfl⟩
  · have unsignalled : failure.endsIteration ≠ true := mt endsIteration_iff.mp unlike
    simp [fetchFailure,other,unsignalled]
  · have undisturbed : failure.isDatabase = false := by
      rw [Failure.isDatabase,signal]
      rfl
    rw [fetchFailure,undisturbed,if_neg Bool.false_ne_true,if_pos (endsIteration_iff.mpr signal)]
    rfl

def inPairs : Query where
  sql := "select id from rooms"
  size := 2
  cursor := "legacy_rooms"

def threeRows : List Row := [[("id",.int 1)],[("id",.int 2)],[("id",.int 3)]]

/-- An open link to a database with three rows, which refuses the second request for them. -/
def breakingOff (kind : FailureKind) : World Scripts where
  stores := {
    legacy := {
      rows := [("legacy_rooms",threeRows)]
      traps := [⟨"fetchmany",1,.raised kind "gone"⟩] } }
  linkOpen := true

def counting (taken : Nat) (batch : List Row) : Run Scripts Nat := do
  Run.note (.progressUpdate batch.length)
  pure (taken + batch.length)

/-- The first batch was taken before the second was refused. -/
theorem first_batch_taken : (breakingOff (.database "OperationalError")).linkOpen = true ∧ 1 ≤ inPairs.size ∧
    ∃ parts, Parted 2 threeRows parts ∧
      FetchedIn inPairs counting 0 (breakingOff (.database "OperationalError")) parts ∧
      (fetch inPairs counting 0 (breakingOff (.database "OperationalError"))).result =
        .error (.legacyQuery "gone") ∧
      traceOf (fetch inPairs counting 0 (breakingOff (.database "OperationalError"))).effects =
        [.cursor .legacy (some "legacy_rooms"),.request inPairs.start,.request (inPairs.next 2),
          .progressUpdate 2,.failed .legacy "fetchmany"] := by
  have served : (Database.answer inPairs.start (breakingOff (.database "OperationalError")).stores).1 =
      .ok { rows := threeRows } := rfl
  have sized : 1 ≤ inPairs.size := by decide
  obtain ⟨_,whole,_⟩ := cursor_parted inPairs counting 0 (breakingOff (.database "OperationalError")) rfl sized
  obtain ⟨parts,parted,fetched,_⟩ := whole _ served
  exact ⟨rfl,sized,parts,parted,fetched,rfl,rfl⟩

/-- The signal that an iteration is over does not come out as it went in. -/
theorem end_signal_changed : ∃ v b seen,
    (breakingOff (.foreign "StopIteration")).linkOpen = true ∧ 1 ≤ inPairs.size ∧
    Handed inPairs (fun got batch => (pure (got ++ [batch]) : Run Scripts _))
      ((breakingOff (.foreign "StopIteration")).after inPairs.start) [] [threeRows.take 2] v b seen ∧
    (Database.answer (inPairs.next 1) v.stores).1 =
      .error ⟨"fetchmany",.raised (.foreign "StopIteration") "gone"⟩ ∧
    (fetchAll inPairs (breakingOff (.foreign "StopIteration"))).result ≠
      .error (.raised (.foreign "StopIteration") "gone") := by
  have told : (fetchAll inPairs (breakingOff (.foreign "StopIteration"))).result =
      .error .iterationEnded := rfl
  refine ⟨_,_,_,rfl,by decide,.next rfl rfl .none,rfl,?_⟩
  rw [told]
  nofun

end Link

end RoomTransfer
