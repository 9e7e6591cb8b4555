import RoomTransfer.Proofs.Likeness
import RoomTransfer.Proofs.PlainTransfer
import RoomTransfer.Proofs.Tally

/-! Accounts over the dealings of a run. Each sets counters against what the databases have served
and what they have reported. It balances over a run because it balances over every batch of every
step. -/
namespace RoomTransfer

open Store

namespace Store

/-- An insert that was carried out: the rows that were passed and what was reported of them. -/
structure Insertion where
  rows : List Parameters
  reported : Option Int

/-- The count of an insert: the number that is reported where that is not negative, or else the number
of rows that were passed. -/
def Insertion.count (i : Insertion) : Nat :=
  ((i.reported.filter (0 ≤ ·)).map Int.toNat).getD i.rows.length

/-- What an insert is booked with is its count. -/
theorem Insertion.written_eq_count (i : Insertion) :
    Insert.written i.rows.length i.reported = i.count := by
  unfold Insert.written count
  cases i.reported with
  | none => rfl
  | some n =>
    by_cases positive : 0 ≤ n <;> simp [Option.filter,positive]

/-- The inserts by a statement that were carried out. -/
def insertions (sql : String) (made : List Dealing) : List Insertion :=
  made.filterMap fun
    | (.insert asked rows,.ok reply) => if asked = sql then some ⟨rows,reply.count⟩ else none
    | _ => none

/-- The rows that a statement is counted to have written. -/
def counted (sql : String) (made : List Dealing) : Nat :=
  ((insertions sql made).map Insertion.count).sum

/-- The answers to the queries of a legacy cursor, each with all of its rows. -/
def answers (cursor : String) (made : List Dealing) : List (List Row) :=
  made.filterMap fun
    | (.execute .legacy asked _ _,.ok reply) => if asked = cursor then some reply.rows else none
    | _ => none

theorem insertions_append (sql : String) (first second : List Dealing) :
    insertions sql (first ++ second) = insertions sql first ++ insertions sql second :=
  List.filterMap_append

theorem answers_append (cursor : String) (first second : List Dealing) :
    answers cursor (first ++ second) = answers cursor first ++ answers cursor second :=
  List.filterMap_append

/-- An account over the dealings of a run: what every counter is worth, what a query of one cursor
costs and each row that it is answered with, and what an insert by one statement yields. -/
structure Ledger where
  rate : Counter → Int
  cursor : String := ""
  toll : Int := 0
  charge : Row → Int := fun _ => 0
  sql : String := ""
  entry : Nat → Nat → Int := fun _ _ => 0

namespace Ledger

def cost (l : Ledger) (rows : List Row) : Int := l.toll + (rows.map l.charge).sum

def yield (l : Ledger) (i : Insertion) : Int := l.entry i.rows.length i.count

def balance (l : Ledger) (made : List Dealing) : Int :=
  ((answers l.cursor made).map l.cost).sum + ((insertions l.sql made).map l.yield).sum

theorem balance_append (l : Ledger) (first second : List Dealing) :
    l.balance (first ++ second) = l.balance first + l.balance second := by
  simp only [balance,answers_append,insertions_append,List.map_append,List.sum_append]
  omega

def tollOf (l : Ledger) (cursor : String) : Int := if cursor = l.cursor then l.toll else 0

def chargeOf (l : Ledger) (cursor : String) (row : Row) : Int :=
  if cursor = l.cursor then l.charge row else 0

theorem sum_chargeOf (l : Ledger) (cursor : String) (rows : List Row) :
    (rows.map (l.chargeOf cursor)).sum = if cursor = l.cursor then (rows.map l.charge).sum else 0 := by
  by_cases ours : cursor = l.cursor
  · have all : l.chargeOf cursor = l.charge := by
      funext row
      exact if_pos ours
    rw [all,if_pos ours]
  · have none : l.chargeOf cursor = fun _ => 0 := by
      funext row
      exact if_neg ours
    rw [none,List.sum_map_zero,if_neg ours]

def entryOf (l : Ledger) (sql : String) (kept written : Nat) : Int :=
  if sql = l.sql then l.entry kept written else 0

/-- An account as a quantity of runs over watched databases. -/
def quantity {σ : Type} (l : Ledger) : Quantity (Watched σ) where
  rate := l.rate
  stored s := l.balance s.dealings

/-- Every batch of every step leaves the account as it was. -/
structure Balanced (l : Ledger) (options : Options) : Prop where
  free : l.entry 0 0 = 0
  batch : ∀ step, Step.Of options step → ∀ (batch : List Row) (kept written : Nat),
    kept + batch.countP step.drops = batch.length →
      tallied l.rate (step.tally batch.length written) +
        l.rate .eventsDropped * (batch.countP step.drops : Nat) +
          l.entryOf step.insert.sql kept written + (batch.map (l.chargeOf step.cursor)).sum = 0

/-- A dealing that no account knows of. -/
def isFree : Request → Bool
  | .execute .legacy _ _ _ | .insert _ _ => false
  | _ => true

theorem balance_free (l : Ledger) {request : Request} (free : isFree request = true)
    (answer : Except Fault Reply) : l.balance [(request,answer)] = 0 := by
  cases request with
  | execute side _ _ _ => cases side <;> first | rfl | cases free
  | insert _ _ => cases free
  | _ => rfl

section Watched

variable {σ : Type} [Database σ] {l : Ledger} {options : Options}

theorem stored_free (l : Ledger) {request : Request} (free : isFree request = true)
    (s : Watched σ) : l.quantity.stored (Database.answer request s).2 = l.quantity.stored s := by
  change l.balance (s.dealings ++ [_]) = _
  rw [balance_append,balance_free l free,Int.add_zero]
  rfl

/-- Over watched databases the steps settle what an account that balances takes on. -/
theorem Balanced.settled (balanced : l.Balanced options) :
    (l.quantity : Quantity (Watched σ)).Settled options l.tollOf (fun _ => 0) l.chargeOf
      l.entryOf := by
  refine ⟨rfl,fun s => stored_free l rfl s,fun step known => ⟨⟨?_,?_,?_,?_⟩,?_⟩⟩
  · intro s reply answered
    have same : (Database.answer (.execute .legacy step.cursor step.query step.parameters)
      s.stores).1 = .ok reply := answered
    change l.balance (s.dealings ++ [(_,(Database.answer _ s.stores).1)]) = _
    rw [balance_append,same,sum_chargeOf]
    unfold tollOf
    by_cases ours : step.cursor = l.cursor
    · simp [balance,answers,insertions,ours,cost,quantity]
    · simp [balance,answers,insertions,ours,quantity]
  · intro size served s
    exact stored_free l rfl s
  · intro rows s reply answered
    have same : (Database.answer (.insert step.insert.sql rows) s.stores).1 = .ok reply := answered
    change l.balance (s.dealings ++ [(_,(Database.answer _ s.stores).1)]) = _
    rw [balance_append,same]
    unfold entryOf
    by_cases ours : step.insert.sql = l.sql
    · simp [balance,answers,insertions,ours,yield,← Insertion.written_eq_count,quantity]
    · simp [balance,answers,insertions,ours,quantity]
  · simp [entryOf,balanced.free]
  · intro batch kept written length
    simpa [quantity] using balanced.batch step known batch kept written length

end Watched

end Ledger

end Store

namespace Migration

variable {σ : Type} [Database σ] {settings : Settings} {w : World σ} {l : Ledger}

/-- Opening and closing the sessions is on no account. -/
theorem sessions_stored (l : Ledger) : (Conduct.keeping
    (fun v : World (Watched σ) => l.quantity.stored v.stores) fun _ => True).AdmitsSessions := by
  refine ⟨fun _ _ => trivial,fun _ _ => trivial,fun v request session => ?_,fun _ _ => rfl⟩
  refine Ledger.stored_free l ?_ v.stores
  cases request <;> first | rfl | cases session

/-- Neither is anything else that a run deals before and behind its steps. -/
theorem migrate_stored (l : Ledger) {w : World (Watched σ)} (completes : Completes settings w) :
    l.quantity.stored (opening settings w).world.stores = l.quantity.stored w.stores ∧
      l.quantity.stored (migrate settings w).world.stores =
        l.quantity.stored (block settings w).world.stores := by
  have asked (request : Request) (free : Ledger.isFree request = true) (v : World (Watched σ)) :
      l.quantity.stored (Run.ask request v).world.stores = l.quantity.stored v.stores := by
    rw [Run.ask_world]
    exact Ledger.stored_free l free v.stores
  constructor
  · have booking : (Conduct.keeping (fun v : World (Watched σ) => l.quantity.stored v.stores)
        fun _ => True).AdmitsBooking :=
      ⟨fun _ _ => trivial,fun _ _ => rfl,fun _ _ _ => rfl⟩
    have prepared := (preparing_follows booking (sessions_stored l) settings).world w
    rw [opening_world completes.1]
    exact (asked .begin rfl _).trans prepared
  · refine migrate_keeps (fun v => l.quantity.stored v.stores) (fun _ _ => rfl) (asked .commit rfl)
      (cleanUp_follows (sessions_stored l)).world (fun result v => ?_) completes
    rw [ending_stores]

/-- At the end of a run whose steps return an account has taken on the tolls of the three queries. -/
theorem ledger_balances (balanced : l.Balanced settings.options) (whole : Completes settings w) :
    (migrate settings w).world.state.counters.worth l.rate + l.balance (dealings settings w) =
      l.tollOf "legacy_rooms" + l.tollOf "legacy_streams" + l.tollOf "legacy_events" := by
  -- Watched databases hold what has been dealt, so that an account over it is a quantity of the run.
  have alike := migrate_watched settings w
  have completes : Completes settings (watched w) := completes_alike (l := .unwatched).mp whole
  have ⟨opened,⟨k,rooms⟩,⟨n,adjustments⟩,⟨m,events⟩⟩ := completes
  obtain ⟨before,behind⟩ := migrate_stored l completes
  have added := steps_adds balanced.settled rooms adjustments events
  have counters : (migrate settings w).world.state.counters =
      (block settings (watched w)).world.state.counters := by
    rw [alike.world]
    exact migrate_state_keeps (fun _ _ _ _ => rfl) completes
  have fresh : l.quantity.stored (watched w).stores = 0 := rfl
  have stored : l.quantity.stored (block settings (watched w)).world.stores =
      l.balance (dealings settings w) := behind.symm
  unfold Quantity.held at added
  rw [before,fresh,opening_counters opened,Counters.worth_zero] at added
  rw [counters,← stored]
  simp only [Int.zero_mul,Int.add_zero,Int.zero_add] at added
  exact added

end Migration

/-- A row of a type that is not transferred. -/
def isIneligible (row : Row) : Bool :=
  match isEligible (row.get "type") with
  | .ok false => true
  | _ => false

section Drops

variable {options : Options} {watermark : Value} {row : Row}

theorem Step.rooms_keep : (Step.rooms options).drops row = false := by
  unfold Step.drops Step.rooms
  dsimp only
  cases Room.ofRow row options.openRoomYears <;> rfl

theorem Step.adjustments_keep : Step.adjustments.drops row = false := by
  unfold Step.drops Step.adjustments
  dsimp only
  cases Adjustment.ofRow row <;> rfl

/-- An event is dropped for its type alone. -/
theorem Step.events_drops : (Step.events options watermark).drops row = isIneligible row := by
  have convert : (Step.events options watermark).convert row =
      (Event.ofRow row options.agentLabel).map (Option.map fun event =>
        event.parameters options.pendingMarker) := by
    change (Event.ofRow row options.agentLabel >>= fun event => pure _) = _
    cases Event.ofRow row options.agentLabel <;> rfl
  unfold Step.drops isIneligible isEligible
  rw [convert]
  cases typed : EventType.ofValue? (row.get "type") with
  | error failure => simp [Event.ofRow,typed,Except.map,bind,Except.bind]
  | ok found =>
    cases found with
    | none => simp [Event.ofRow,typed,Except.map,bind,Except.bind,pure,Except.pure]
    | some type =>
      cases made : Event.ofRow row options.agentLabel with
      | error failure => rfl
      | ok found =>
        obtain ⟨event,rfl⟩ := Event.ofRow_eligible made typed
        rfl

end Drops

namespace Store.Ledger

variable {options : Options} {l : Ledger}

/-- What it takes for an account to balance, step by step. Rooms and adjustments are never dropped. -/
theorem balanced_of_steps (free : l.entry 0 0 = 0)
    (rooms : ∀ (batch : List Row) (written : Nat),
      l.rate .roomsRead * batch.length + l.rate .roomsWritten * written +
        l.entryOf Insert.rooms.sql batch.length written +
          (batch.map (l.chargeOf "legacy_rooms")).sum = 0)
    (adjustments : ∀ (batch : List Row) (written : Nat),
      l.rate .adjustmentsRead * batch.length + l.rate .adjustmentsInserted * written +
        l.rate .adjustmentsSkipped * (batch.length - written) +
          l.entryOf Insert.adjustments.sql batch.length written +
            (batch.map (l.chargeOf "legacy_streams")).sum = 0)
    (events : ∀ (batch : List Row) (kept written : Nat),
      kept + batch.countP isIneligible = batch.length →
        l.rate .eventsRead * batch.length + l.rate .eventsInserted * written +
          l.rate .eventsDropped * (batch.countP isIneligible : Nat) +
            l.entryOf (Step.eventInsert options.watermarkMode).sql kept written +
              (batch.map (l.chargeOf "legacy_events")).sum = 0) :
    l.Balanced options := by
  refine ⟨free,fun step known batch kept written length => ?_⟩
  cases known with
  | rooms =>
    have none : batch.countP (Step.rooms options).drops = 0 := by
      simp [List.countP_eq_zero,Step.rooms_keep]
    have even := rooms batch written
    rw [none] at length ⊢
    obtain rfl : kept = batch.length := length
    simpa [Step.rooms,tallied] using even
  | adjustments =>
    have none : batch.countP Step.adjustments.drops = 0 := by
      simp [List.countP_eq_zero,Step.adjustments_keep]
    have even := adjustments batch written
    rw [none] at length ⊢
    obtain rfl : kept = batch.length := length
    simpa [Step.adjustments,tallied,Int.add_assoc] using even
  | events watermark =>
    have drops : (Step.events options watermark).drops = isIneligible := by
      funext row
      exact Step.events_drops
    rw [drops] at length ⊢
    have even := events batch kept written length
    simpa [Step.events,tallied] using even

/-- One for every query of a cursor. -/
def ofQueries (cursor : String) : Ledger := { rate := fun _ => 0, cursor, toll := 1 }

/-- A counter against the rows of a cursor that count. -/
def ofRows (key : Counter) (cursor : String) (counts : Row → Bool) : Ledger where
  rate := key.alone
  cursor
  charge row := if counts row then -1 else 0

/-- Counters against a measure of the inserts by a statement. -/
def ofInserts (rate : Counter → Int) (sql : String) (size : Nat → Nat → Nat) : Ledger where
  rate
  sql
  entry passed counted := - size passed counted

section Kinds

variable {cursor sql asked : String} {key k : Counter} {rate : Counter → Int}
  {counts : Row → Bool} {size : Nat → Nat → Nat} {kept written : Nat}

@[simp] theorem rate_ofQueries : (ofQueries cursor).rate k = 0 := rfl

@[simp] theorem entryOf_ofQueries : (ofQueries cursor).entryOf asked kept written = 0 := by
  unfold entryOf
  split <;> rfl

@[simp] theorem chargeOf_ofQueries (rows : List Row) :
    (rows.map ((ofQueries cursor).chargeOf asked)).sum = 0 := by
  have free : (ofQueries cursor).charge = fun _ => 0 := rfl
  rw [sum_chargeOf,free,List.sum_map_zero,ite_self]

@[simp] theorem rate_ofRows : (ofRows key cursor counts).rate = key.alone := rfl

@[simp] theorem entryOf_ofRows : (ofRows key cursor counts).entryOf asked kept written = 0 := by
  unfold entryOf
  split <;> rfl

theorem charged_ofRows (rows : List Row) :
    (rows.map (ofRows key cursor counts).charge).sum = (- (rows.countP counts : Nat) : Int) := by
  induction rows with
  | nil => rfl
  | cons row rest ih =>
    rw [List.map_cons,List.sum_cons,ih,List.countP_cons]
    by_cases one : counts row = true <;> simp [ofRows,one]

@[simp] theorem chargeOf_ofRows (rows : List Row) :
    (rows.map ((ofRows key cursor counts).chargeOf asked)).sum =
      if asked = cursor then (- (rows.countP counts : Nat) : Int) else 0 := by
  rw [sum_chargeOf,charged_ofRows]
  rfl

@[simp] theorem rate_ofInserts : (ofInserts rate sql size).rate = rate := rfl

@[simp] theorem entryOf_ofInserts : (ofInserts rate sql size).entryOf asked kept written =
    if asked = sql then - (size kept written : Int) else 0 := rfl

@[simp] theorem chargeOf_ofInserts (rows : List Row) :
    (rows.map ((ofInserts rate sql size).chargeOf asked)).sum = 0 := by
  have free : (ofInserts rate sql size).charge = fun _ => 0 := rfl
  rw [sum_chargeOf,free,List.sum_map_zero,ite_self]

theorem ofQueries_balanced (cursor : String) : (ofQueries cursor).Balanced options := by
  refine balanced_of_steps rfl ?_ ?_ ?_ <;> intros <;> simp

theorem roomsRead_balanced :
    (ofRows .roomsRead "legacy_rooms" fun _ => true).Balanced options := by
  refine balanced_of_steps rfl ?_ ?_ ?_ <;> intros <;> simp [Counter.alone]

theorem adjustmentsRead_balanced :
    (ofRows .adjustmentsRead "legacy_streams" fun _ => true).Balanced options := by
  refine balanced_of_steps rfl ?_ ?_ ?_ <;> intros <;> simp [Counter.alone]

theorem eventsRead_balanced :
    (ofRows .eventsRead "legacy_events" fun _ => true).Balanced options := by
  refine balanced_of_steps rfl ?_ ?_ ?_ <;> intros <;> simp [Counter.alone]

theorem eventsDropped_balanced :
    (ofRows .eventsDropped "legacy_events" isIneligible).Balanced options := by
  refine balanced_of_steps rfl ?_ ?_ ?_ <;> intros <;> simp [Counter.alone]

/-- What is skipped is what is read and not inserted. -/
theorem adjustments_balanced : (ofInserts (fun k => match k with
    | .adjustmentsRead => 1
    | .adjustmentsInserted | .adjustmentsSkipped => -1
    | _ => 0) "" fun _ _ => 0).Balanced options := by
  refine balanced_of_steps rfl ?_ ?_ ?_ <;> intros <;> simp
  omega

theorem roomsWritten_balanced : (ofInserts Counter.roomsWritten.alone Insert.rooms.sql
    fun _ counted => counted).Balanced options := by
  obtain ⟨first,second,_⟩ := insert_sql_distinct options.watermarkMode
  refine balanced_of_steps rfl ?_ ?_ ?_ <;> intros <;>
    simp [Counter.alone,first.symm,second.symm]

theorem roomsPassed_balanced : (ofInserts Counter.roomsRead.alone Insert.rooms.sql
    fun passed _ => passed).Balanced options := by
  obtain ⟨first,second,_⟩ := insert_sql_distinct options.watermarkMode
  refine balanced_of_steps rfl ?_ ?_ ?_ <;> intros <;>
    simp [Counter.alone,first.symm,second.symm]

theorem adjustmentsInserted_balanced : (ofInserts Counter.adjustmentsInserted.alone
    Insert.adjustments.sql fun _ counted => counted).Balanced options := by
  obtain ⟨first,_,second⟩ := insert_sql_distinct options.watermarkMode
  refine balanced_of_steps rfl ?_ ?_ ?_ <;> intros <;>
    simp [Counter.alone,first,second.symm]

theorem eventsInserted_balanced : (ofInserts Counter.eventsInserted.alone
    (Step.eventInsert options.watermarkMode).sql fun _ counted => counted).Balanced options := by
  obtain ⟨_,first,second⟩ := insert_sql_distinct options.watermarkMode
  refine balanced_of_steps rfl ?_ ?_ ?_ <;> intros <;>
    simp [Counter.alone,first,second]

/-- What is passed is what is read and not dropped. -/
theorem eventsPassed_balanced : (ofInserts (fun k => match k with
    | .eventsRead => 1
    | .eventsDropped => -1
    | _ => 0) (Step.eventInsert options.watermarkMode).sql fun passed _ => passed).Balanced
      options := by
  obtain ⟨_,first,second⟩ := insert_sql_distinct options.watermarkMode
  refine balanced_of_steps rfl ?_ ?_ ?_ <;> intros <;> simp [first,second]
  omega

theorem balance_ofQueries (made : List Dealing) :
    (ofQueries cursor).balance made = (answers cursor made).length := by
  have none (made : List Insertion) : (made.map (ofQueries cursor).yield).sum = 0 := by
    induction made with
    | nil => rfl
    | cons i rest ih => simpa [ofQueries,yield] using ih
  have each (made : List (List Row)) : (made.map (ofQueries cursor).cost).sum = made.length := by
    induction made with
    | nil => rfl
    | cons rows rest ih =>
      simp only [List.map_cons,List.sum_cons,List.length_cons,ih]
      simp only [ofQueries,cost,List.sum_map_zero]
      omega
  unfold balance
  rw [none,each]
  exact Int.add_zero _

theorem balance_ofRows (made : List Dealing) : (ofRows key cursor counts).balance made =
    (- ((answers cursor made).flatten.countP counts : Nat) : Int) := by
  have none (made : List Insertion) : (made.map (ofRows key cursor counts).yield).sum = 0 := by
    induction made with
    | nil => rfl
    | cons i rest ih => simpa [ofRows,yield] using ih
  have each (made : List (List Row)) : (made.map (ofRows key cursor counts).cost).sum =
      (- (made.flatten.countP counts : Nat) : Int) := by
    induction made with
    | nil => rfl
    | cons rows rest ih =>
      have toll : (ofRows key cursor counts).toll = 0 := rfl
      simp only [List.map_cons,List.sum_cons,ih,cost,charged_ofRows,List.flatten_cons,
        List.countP_append,toll]
      omega
  unfold balance
  rw [none,each]
  exact Int.add_zero _

theorem balance_ofInserts (made : List Dealing) : (ofInserts rate sql size).balance made =
    (- (((insertions sql made).map fun i => size i.rows.length i.count).sum : Nat) : Int) := by
  have none (made : List (List Row)) : (made.map (ofInserts rate sql size).cost).sum = 0 := by
    induction made with
    | nil => rfl
    | cons rows rest ih =>
      simp only [List.map_cons,List.sum_cons,ih]
      simp only [ofInserts,cost,List.sum_map_zero,Int.add_zero]
  have each (made : List Insertion) : (made.map (ofInserts rate sql size).yield).sum =
      (- ((made.map fun i => size i.rows.length i.count).sum : Nat) : Int) := by
    induction made with
    | nil => rfl
    | cons i rest ih =>
      simp only [List.map_cons,List.sum_cons,ih]
      simp only [ofInserts,yield]
      omega
  unfold balance
  rw [none,each]
  exact Int.zero_add _

end Kinds

end Store.Ledger
namespace Migration

variable {σ : Type} [Database σ] {settings : Settings} {w : World σ} {key : Counter}
  {rate : Counter → Int} {cursor sql : String} {counts : Row → Bool} {size : Nat → Nat → Nat}

/-- A run whose steps return has had one answer to the query of every step. -/
theorem query_answered (whole : Completes settings w)
    (known : cursor = "legacy_rooms" ∨ cursor = "legacy_streams" ∨ cursor = "legacy_events") :
    ∃ rows, answers cursor (dealings settings w) = [rows] := by
  have even := ledger_balances (Ledger.ofQueries_balanced cursor) whole
  have worthless : (migrate settings w).world.state.counters.worth (Ledger.ofQueries cursor).rate =
      0 := by simp [Counters.worth,Ledger.ofQueries,Counter.all]
  rw [worthless,Ledger.balance_ofQueries] at even
  have one : (answers cursor (dealings settings w)).length = 1 := by
    rcases known with rfl | rfl | rfl <;> simp [Ledger.tollOf,Ledger.ofQueries] at even <;> omega
  exact List.length_eq_one_iff.mp one

theorem rows_counted (balanced : (Ledger.ofRows key cursor counts).Balanced settings.options)
    (whole : Completes settings w) :
    (migrate settings w).world.state.counters key =
      ((answers cursor (dealings settings w)).flatten.countP counts : Nat) := by
  have even := ledger_balances balanced whole
  have free (asked : String) : (Ledger.ofRows key cursor counts).tollOf asked = 0 := by
    unfold Ledger.tollOf
    split <;> rfl
  rw [Ledger.rate_ofRows,Counters.worth_alone,Ledger.balance_ofRows,free,free,free] at even
  omega

theorem inserts_counted (balanced : (Ledger.ofInserts rate sql size).Balanced settings.options)
    (whole : Completes settings w) :
    (migrate settings w).world.state.counters.worth rate =
      (((insertions sql (dealings settings w)).map fun i => size i.rows.length i.count).sum : Nat) := by
  have even := ledger_balances balanced whole
  have free (asked : String) : (Ledger.ofInserts rate sql size).tollOf asked = 0 := by
    unfold Ledger.tollOf
    split <;> rfl
  rw [Ledger.rate_ofInserts,Ledger.balance_ofInserts,free,free,free] at even
  omega

end Migration

end RoomTransfer
