import RoomTransfer.Proofs.Ledger
import RoomTransfer.Proofs.StepTrace

/-! The counters at the end of a run. Where a run returns, they tell how many rows its databases
have served and how many of them were counted as written, dropped or skipped, and its progress has
shown the rows that were read. -/
namespace RoomTransfer

open Store

/-- What the state at the end of a run tells, given its dealings with the databases and its trace:
the rows that were served, and the counts of the inserts. -/
structure Accounting (options : Options) (made : List Dealing) (trace : List Item) (s : RunState)
    (rooms streams events : List Row) : Prop where
  /-- Every cursor answers one query, with these rows. -/
  queries : answers "legacy_rooms" made = [rooms] ∧ answers "legacy_streams" made = [streams] ∧
    answers "legacy_events" made = [events]
  roomsRead : s.counters .roomsRead = rooms.length
  roomsWritten : s.counters .roomsWritten = counted Insert.rooms.sql made
  roomsWritten_le : s.counters .roomsWritten ≤ rooms.length
  adjustmentsRead : s.counters .adjustmentsRead = streams.length
  adjustmentsInserted : s.counters .adjustmentsInserted = counted Insert.adjustments.sql made
  adjustments : s.counters .adjustmentsRead =
    s.counters .adjustmentsInserted + s.counters .adjustmentsSkipped
  eventsRead : s.counters .eventsRead = events.length
  eventsDropped : s.counters .eventsDropped = events.countP isIneligible
  eventsInserted : s.counters .eventsInserted =
    counted (Step.eventInsert options.watermarkMode).sql made
  eventsInserted_le : s.counters .eventsInserted ≤
    s.counters .eventsRead - s.counters .eventsDropped
  /-- Where every count is the full batch, no eligible event is missing. -/
  eventsInserted_full : (∀ i ∈ insertions (Step.eventInsert options.watermarkMode).sql made,
    i.count = i.rows.length) →
      s.counters .eventsInserted = s.counters .eventsRead - s.counters .eventsDropped
  total : s.totalWritten = s.counters .roomsWritten + s.counters .adjustmentsInserted +
    s.counters .eventsInserted
  /-- The progress of every step shows the rows that it reads. -/
  roomsShown : progressOf "Migrating rooms" trace = s.counters .roomsRead
  adjustmentsShown : progressOf "Migrating adjustments" trace = s.counters .adjustmentsRead
  eventsShown : progressOf "Migrating events" trace = s.counters .eventsRead

/-- An insert that reports a number of rows reports no more than it was passed. -/
def Store.reportsWithin : Dealing → Bool
  | (.insert _ rows,.ok reply) => reply.count.all (· ≤ (rows.length : Int))
  | _ => true

def CountsWithin (made : List Dealing) : Prop := ∀ dealing ∈ made, reportsWithin dealing = true

instance (made : List Dealing) : Decidable (CountsWithin made) :=
  inferInstanceAs (Decidable (∀ dealing ∈ made, _))

theorem Store.Insertion.count_le {i : Insertion}
    (within : i.reported.all (· ≤ (i.rows.length : Int)) = true) : i.count ≤ i.rows.length := by
  obtain ⟨rows,reported⟩ := i
  unfold count
  cases reported with
  | none => exact Nat.le_refl _
  | some n =>
    have least : n ≤ rows.length := by simpa using within
    by_cases positive : 0 ≤ n <;> simp [Option.filter,positive]
    omega

theorem CountsWithin.count_le {made : List Dealing} (within : CountsWithin made) {sql : String}
    {i : Insertion} (member : i ∈ insertions sql made) : i.count ≤ i.rows.length := by
  obtain ⟨dealing,dealt,found⟩ := List.mem_filterMap.mp member
  have reported := within dealing dealt
  split at found
  · split at found
    · obtain rfl := Option.some.inj found
      exact Insertion.count_le reported
    · cases found
  · cases found

def Store.passed (sql : String) (made : List Dealing) : Nat :=
  ((insertions sql made).map fun i => i.rows.length).sum

theorem CountsWithin.counted_le {made : List Dealing} (within : CountsWithin made) (sql : String) :
    counted sql made ≤ passed sql made := by
  have each (some : List Insertion) (subset : ∀ i ∈ some, i ∈ insertions sql made) :
      (some.map Insertion.count).sum ≤ (some.map fun i => i.rows.length).sum := by
    induction some with
    | nil => exact Nat.le_refl _
    | cons i rest ih =>
      have head := within.count_le (subset i (by simp))
      have tail := ih fun other member => subset other (List.mem_cons_of_mem i member)
      simp only [List.map_cons,List.sum_cons]
      omega
  exact each _ fun _ member => member

theorem Store.counted_full {made : List Dealing} {sql : String}
    (full : ∀ i ∈ insertions sql made, i.count = i.rows.length) :
    counted sql made = passed sql made := by
  unfold counted passed
  rw [List.map_congr_left full]

section Served

/-- A script that is not to be replaced has served its own rows, whatever it was asked. -/
structure Store.Serves (rows : List (String × List Row)) (s : Watched Scripts) : Prop where
  single : s.stores.next = none
  same : s.stores.legacy.rows = rows
  served : ∀ cursor, ∀ got ∈ answers cursor s.dealings, got = (List.lookup cursor rows).getD []

variable {rows : List (String × List Row)} {s : Watched Scripts}

theorem Store.Script.answer_rows (request : Request) (s : Script) :
    (s.answer request).2.rows = s.rows := by
  unfold Script.answer
  dsimp only
  split
  · rfl
  · split
    · rfl
    · next written =>
      unfold Script.report
      cases s.counts <;> rfl
    · rfl

theorem Store.Script.answer_query {s : Script} {side : Side} {cursor sql : String}
    {parameters : Value} {reply : Reply}
    (answered : (s.answer (.execute side cursor sql parameters)).1 = .ok reply) :
    reply.rows = s.rowsOf cursor := by
  unfold Script.answer at answered
  dsimp only at answered
  split at answered
  · cases answered
  · obtain rfl := Except.ok.inj answered
    rfl

theorem Store.Scripts.answer_legacy {s : Scripts} (single : s.next = none) {request : Request}
    (legacy : request.side = .legacy) : Database.answer request s =
      ((s.legacy.answer request).1,{ s with legacy := (s.legacy.answer request).2 }) := by
  have still : s.turn = s := by
    unfold Scripts.turn
    rw [single]
  change Scripts.answer request s = _
  unfold Scripts.answer
  rw [legacy]
  cases request <;> simp [still]

theorem Store.Scripts.answer_target (s : Scripts) {request : Request}
    (target : request.side = .target) : Database.answer request s =
      ((s.target.answer request).1,{ s with target := (s.target.answer request).2 }) := by
  change Scripts.answer request s = _
  unfold Scripts.answer
  rw [target]

theorem Store.Scripts.answer_keeps {s : Scripts} (single : s.next = none) (request : Request) :
    (Database.answer request s).2.next = none ∧
      (Database.answer request s).2.legacy.rows = s.legacy.rows := by
  cases side : request.side with
  | target =>
    rw [answer_target s side]
    exact ⟨single,rfl⟩
  | legacy =>
    rw [answer_legacy single side]
    exact ⟨single,Script.answer_rows request _⟩

theorem Store.Scripts.answers_own {s : Scripts} (single : s.next = none) (request : Request)
    (cursor : String) : ∀ got ∈ answers cursor [(request,(Database.answer request s).1)],
      got = s.legacy.rowsOf cursor := by
  intro got member
  have silent {answer : Except Fault Reply} (other : ∀ asked sql parameters,
      request ≠ .execute .legacy asked sql parameters) : answers cursor [(request,answer)] = [] := by
    unfold answers
    rw [List.filterMap_cons_none (by split <;> simp_all)]
    rfl
  cases request with
  | execute side asked sql parameters =>
    cases side with
    | target =>
      rw [silent (by simp)] at member
      cases member
    | legacy =>
      rw [answer_legacy single rfl] at member
      cases found : (s.legacy.answer (.execute .legacy asked sql parameters)).1 with
      | error fault => simp [answers,found] at member
      | ok reply =>
        have own := Script.answer_query found
        rw [found] at member
        by_cases ours : asked = cursor
        · simpa [answers,ours,own] using member
        · simp [answers,ours] at member
  | _ =>
    rw [silent (by simp)] at member
    cases member

theorem Store.Serves.answer (serves : Serves rows s) (request : Request) :
    Serves rows (Database.answer request s).2 := by
  obtain ⟨single,same⟩ := Scripts.answer_keeps serves.single request
  refine ⟨single,same.trans serves.same,fun cursor got member => ?_⟩
  have split : got ∈ answers cursor
      (s.dealings ++ [(request,(Database.answer request s.stores).1)]) := member
  rw [answers_append] at split
  rcases List.mem_append.mp split with before | now
  · exact serves.served cursor got before
  · have own := Scripts.answers_own serves.single request cursor got now
    rw [own,Script.rowsOf,serves.same]

/-- All that scripted databases answer in a run are the rows of the script. -/
theorem Migration.rows_served (settings : Settings) (w : World Scripts)
    (single : w.stores.next = none) :
    ∀ cursor, ∀ got ∈ answers cursor (dealings settings w), got = w.stores.legacy.rowsOf cursor := by
  have kept (s : Watched Scripts) (serves : Serves w.stores.legacy.rows s) (request : Request) :
      Serves w.stores.legacy.rows (Database.answer request s).2 := serves.answer request
  have follows : (migrate settings : Run (Watched Scripts) Unit).Follows
      (.holding (Serves w.stores.legacy.rows)) :=
    migrate_follows (Conduct.holding_admitsSessions kept) (Conduct.holding_admitsSteps kept)
      (Conduct.holding_admitsBooking _) (fun _ => trivial) fun _ => trivial
  exact (follows.world (watched w) ⟨single,rfl,nofun⟩).served

end Served

section Shown

variable {σ : Type} {options : Options} {w : World σ} {key : Counter} {n : Nat}

theorem Run.Adds.shows {x : Run σ Nat} (adds : x.Adds (.ofRate (fun k => - key.alone k) 1)
    fun written : Nat => 0 + 0 * written) (returned : (x w).result = .ok n) :
    (progress (traceOf (x w).effects) : Int) =
      (x w).world.state.counters key - w.state.counters key := by
  have added := adds w n returned
  simp only [Quantity.held,Quantity.seen,Quantity.ofRate,Counters.worth_neg,
    Counters.worth_alone] at added
  omega

theorem Run.Adds.spares {x : Run σ Nat} (adds : x.Adds (.ofRate key.alone 0)
    fun written : Nat => 0 + 0 * written) (returned : (x w).result = .ok n) :
    (x w).world.state.counters key = w.state.counters key := by
  have added := adds w n returned
  simp only [Quantity.held,Quantity.seen,Quantity.ofRate,Counters.worth_alone] at added
  omega

variable [Database σ] {step : Step}

/-- A step shows the rows that it books as read. -/
theorem Step.settles_shown (other : key.alone .eventsDropped = 0)
    (reads : ∀ read written : Nat, tallied key.alone (step.tally read written) = read) :
    step.Settles (.ofRate (fun k => - key.alone k) 1 : Quantity σ) 0 0 (fun _ => 0)
      fun _ _ => 0 :=
  Step.settles_ofRate (by simp [other]) fun read written => by
    rw [tallied_neg,reads]
    omega

/-- A counter that a step does not book stays as it is. -/
theorem Step.settles_spared (other : key.alone .eventsDropped = 0)
    (unbooked : ∀ read written : Nat, tallied key.alone (step.tally read written) = 0) :
    step.Settles (.ofRate key.alone 0 : Quantity σ) 0 0 (fun _ => 0) fun _ _ => 0 :=
  Step.settles_ofRate other fun read written => by
    rw [unbooked]
    omega

section Whole

variable {k m : Nat} (rooms : (transferRooms options w).result = .ok k)
  (adjustments : (transferAdjustments options (transferRooms options w).world).result = .ok n)
  (events : (transferEvents options (transferAdjustments options
    (transferRooms options w).world).world).result = .ok m)

include rooms adjustments events

/-- Each counter of read rows is booked by one of the steps, which shows it, and spared by the
others. -/
theorem steps_show (fresh : w.state.counters = Counters.zero) :
    let afterRooms := (transferRooms options w).world
    let afterAdjustments := (transferAdjustments options afterRooms).world
    let counters := (Migration.steps options w).world.state.counters
    progress (traceOf (transferRooms options w).effects) = counters .roomsRead ∧
      progress (traceOf (transferAdjustments options afterRooms).effects) =
        counters .adjustmentsRead ∧
      progress (traceOf (transferEvents options afterAdjustments).effects) =
        counters .eventsRead := by
  intro afterRooms afterAdjustments counters
  have last : counters =
      (transferEvents options afterAdjustments).world.state.counters := by
    simp only [counters]
    rw [Migration.StepsReturn.world ⟨⟨k,rooms⟩,⟨n,adjustments⟩,⟨m,events⟩⟩]
  have zero (key : Counter) : w.state.counters key = 0 := by rw [fresh]; rfl
  have roomsSpare (key : Counter) (other : key ≠ .roomsRead ∧ key ≠ .roomsWritten ∧
      key ≠ .eventsDropped) : afterRooms.state.counters key = w.state.counters key := by
    obtain ⟨read,written,dropped⟩ := other
    refine (Step.run_adds (Step.settles_spared (if_neg dropped.symm) fun _ _ => ?_) options).spares
      rooms
    simp [Step.rooms,tallied,Counter.alone,read.symm,written.symm]
  have adjustmentsSpare (key : Counter) (other : key ≠ .adjustmentsRead ∧
      key ≠ .adjustmentsInserted ∧ key ≠ .adjustmentsSkipped ∧ key ≠ .eventsDropped) :
      afterAdjustments.state.counters key = afterRooms.state.counters key := by
    obtain ⟨read,inserted,skipped,dropped⟩ := other
    refine (Step.run_adds (Step.settles_spared (if_neg dropped.symm) fun _ _ => ?_) options).spares
      adjustments
    simp [Step.adjustments,tallied,Counter.alone,read.symm,inserted.symm,skipped.symm]
  have eventsSpare (key : Counter) (other : key ≠ .eventsRead ∧ key ≠ .eventsInserted ∧
      key ≠ .eventsDropped) : counters key = afterAdjustments.state.counters key := by
    obtain ⟨read,inserted,dropped⟩ := other
    rw [last]
    refine (transferEvents_adds (fun _ => rfl) options fun watermark =>
      Step.settles_spared (if_neg dropped.symm) fun _ _ => ?_).spares events
    simp [Step.events,tallied,Counter.alone,read.symm,inserted.symm]
  have roomsShow : (progress (traceOf (transferRooms options w).effects) : Int) =
      afterRooms.state.counters .roomsRead - w.state.counters .roomsRead := by
    refine (Step.run_adds (Step.settles_shown rfl fun _ _ => ?_) options).shows rooms
    simp [Step.rooms,tallied,Counter.alone]
  have adjustmentsShow : (progress (traceOf (transferAdjustments options afterRooms).effects) : Int) =
      afterAdjustments.state.counters .adjustmentsRead -
        afterRooms.state.counters .adjustmentsRead := by
    refine (Step.run_adds (Step.settles_shown rfl fun _ _ => ?_) options).shows adjustments
    simp [Step.adjustments,tallied,Counter.alone]
  have eventsShow : (progress (traceOf (transferEvents options afterAdjustments).effects) : Int) =
      counters .eventsRead - afterAdjustments.state.counters .eventsRead := by
    rw [last]
    refine (transferEvents_adds (fun _ => rfl) options fun watermark =>
      Step.settles_shown rfl fun _ _ => ?_).shows events
    simp [Step.events,tallied,Counter.alone]
  refine ⟨?_,?_,?_⟩
  · rw [roomsShow,zero,eventsSpare _ (by decide),adjustmentsSpare _ (by decide)]
    omega
  · rw [adjustmentsShow,roomsSpare _ (by decide),zero,eventsSpare _ (by decide)]
    omega
  · rw [eventsShow,adjustmentsSpare _ (by decide),roomsSpare _ (by decide),zero]
    omega

/-- The trace of steps that all return shows the progress of one after another. -/
theorem steps_progress (front back : List Item)
    (before : ∀ description, ∀ item ∈ front, item.opens description = false) :
    let afterRooms := (transferRooms options w).world
    let afterAdjustments := (transferAdjustments options afterRooms).world
    let trace := front ++ (traceOf (Migration.steps options w).effects ++ back)
    progressOf "Migrating rooms" trace = progress (traceOf (transferRooms options w).effects) ∧
      progressOf "Migrating adjustments" trace =
        progress (traceOf (transferAdjustments options afterRooms).effects) ∧
      progressOf "Migrating events" trace =
        progress (traceOf (transferEvents options afterAdjustments).effects) := by
  intro afterRooms afterAdjustments trace
  obtain ⟨rest,rest',whole,⟨⟨_,failed⟩,_⟩ | ⟨_,behind,⟨⟨_,failed⟩,_⟩ | last⟩⟩ := steps_trace options w
  · exact absurd (rooms.symm.trans failed) nofun
  · exact absurd (adjustments.symm.trans failed) nofun
  obtain ⟨_,first⟩ := Step.run_trace (Step.rooms options) options w
  obtain ⟨_,second⟩ := Step.run_trace Step.adjustments options afterRooms
  rcases transferEvents_trace options afterAdjustments with ⟨⟨_,failed⟩,_⟩ | ⟨_,_,_,bar,third,read⟩
  · exact absurd (events.symm.trans failed) nofun
  have shape : trace = front ++ .cursor .target none ::
      (traceOf (transferRooms options w).effects ++
        (traceOf (transferAdjustments options afterRooms).effects ++ watermarkItem :: (bar ++ back))) := by
    simp only [trace,whole,behind,last,List.append_assoc,List.cons_append]
    rw [read]
    rfl
  have opens₁ (description : String) : ∀ item ∈ front ++ [.cursor .target none],
      item.opens description = false :=
    List.forall_mem_append.mpr ⟨before description,List.forall_mem_singleton.mpr rfl⟩
  have opens₂ : ∀ item ∈ front ++ .cursor .target none :: traceOf (transferRooms options w).effects,
      item.opens "Migrating adjustments" = false := by
    rw [List.append_cons]
    exact List.forall_mem_append.mpr ⟨opens₁ _,first.opens_other (by simp [Step.rooms])⟩
  have opens₃ : ∀ item ∈ front ++ .cursor .target none :: (traceOf (transferRooms options w).effects ++
      (traceOf (transferAdjustments options afterRooms).effects ++ [watermarkItem])),
      item.opens "Migrating events" = false := by
    rw [List.append_cons]
    refine List.forall_mem_append.mpr ⟨opens₁ _,List.forall_mem_append.mpr ⟨?_,?_⟩⟩
    · exact first.opens_other (by simp [Step.rooms])
    · exact List.forall_mem_append.mpr ⟨second.opens_other (by simp [Step.adjustments]),
        List.forall_mem_singleton.mpr rfl⟩
  -- Before each bar nothing opens progress under its description, so that the bar is found first.
  refine ⟨?_,?_,?_⟩
  · rw [shape,List.append_cons]
    exact first.progressOf_eq (opens₁ "Migrating rooms")
  · have split : trace = (front ++ .cursor .target none ::
        traceOf (transferRooms options w).effects) ++
          (traceOf (transferAdjustments options afterRooms).effects ++
            watermarkItem :: (bar ++ back)) := by
      rw [shape,List.append_assoc]
      rfl
    rw [split]
    exact second.progressOf_eq opens₂
  · have split : trace = (front ++ .cursor .target none ::
        (traceOf (transferRooms options w).effects ++
          (traceOf (transferAdjustments options afterRooms).effects ++ [watermarkItem]))) ++
            (bar ++ back) := by
      rw [shape]
      simp
    have same : progress (traceOf (transferEvents options afterAdjustments).effects) =
        progress bar := by
      rw [read]
      simp [progress,watermarkItem,Item.progress]
    rw [split,same]
    exact third.progressOf_eq opens₃

end Whole

end Shown

namespace Migration

variable {σ : Type} [Database σ] {settings : Settings} {w : World σ}

/-- The progress that a run has shown at its end. -/
theorem migrate_shows (whole : Completes settings w) :
    let trace := traceOf (migrate settings w).effects
    let counters := (migrate settings w).world.state.counters
    progressOf "Migrating rooms" trace = counters .roomsRead ∧
      progressOf "Migrating adjustments" trace = counters .adjustmentsRead ∧
      progressOf "Migrating events" trace = counters .eventsRead := by
  intro trace counters
  have ⟨opened,⟨_,rooms⟩,⟨_,adjustments⟩,⟨_,events⟩⟩ := whole
  obtain ⟨after,bracket⟩ := bracketed opened
  have opens (description : String) :
      ∀ item ∈ traceOf (preparing settings w).effects ++ [.request .begin],
        item.opens description = false := by
    intro item member
    rcases List.mem_append.mp member with early | late
    · have session := preparing_items settings w item early
      cases item <;> first | rfl | cases session
    · obtain rfl := List.mem_singleton.mp late
      rfl
  have split : trace = (traceOf (preparing settings w).effects ++ [.request .begin]) ++
      (traceOf (block settings w).effects ++
        endItem (block settings w).result w.state.dryRun :: after) := by
    simp only [trace,bracket.shape,List.append_assoc,List.cons_append,List.nil_append]
  have kept : (migrate settings w).world.state.counters =
      (block settings w).world.state.counters :=
    migrate_state_keeps (fun _ _ _ _ => rfl) whole
  obtain ⟨roomsTold,adjustmentsTold,eventsTold⟩ := steps_progress rooms adjustments events _
    (endItem (block settings w).result w.state.dryRun :: after) opens
  obtain ⟨roomsShown,adjustmentsShown,eventsShown⟩ :=
    steps_show rooms adjustments events (opening_counters opened)
  simp only [counters]
  rw [split,kept]
  exact ⟨(congrArg Nat.cast roomsTold).trans roomsShown,
    (congrArg Nat.cast adjustmentsTold).trans adjustmentsShown,
    (congrArg Nat.cast eventsTold).trans eventsShown⟩

theorem reads_counted (whole : Completes settings w) :
    let counters := (migrate settings w).world.state.counters
    ∃ rooms streams events,
      (answers "legacy_rooms" (dealings settings w) = [rooms] ∧
        answers "legacy_streams" (dealings settings w) = [streams] ∧
        answers "legacy_events" (dealings settings w) = [events]) ∧
      counters .roomsRead = rooms.length ∧ counters .adjustmentsRead = streams.length ∧
      counters .eventsRead = events.length ∧
      counters .eventsDropped = events.countP isIneligible := by
  obtain ⟨rooms,roomsAsked⟩ := query_answered whole (.inl rfl)
  obtain ⟨streams,streamsAsked⟩ := query_answered whole (.inr (.inl rfl))
  obtain ⟨events,eventsAsked⟩ := query_answered whole (.inr (.inr rfl))
  have roomsRead := rows_counted Ledger.roomsRead_balanced whole
  have adjustmentsRead := rows_counted Ledger.adjustmentsRead_balanced whole
  have eventsRead := rows_counted Ledger.eventsRead_balanced whole
  have eventsDropped := rows_counted Ledger.eventsDropped_balanced whole
  rw [roomsAsked,List.flatten_singleton,List.countP_true] at roomsRead
  rw [streamsAsked,List.flatten_singleton,List.countP_true] at adjustmentsRead
  rw [eventsAsked,List.flatten_singleton,List.countP_true] at eventsRead
  rw [eventsAsked,List.flatten_singleton] at eventsDropped
  exact ⟨rooms,streams,events,⟨roomsAsked,streamsAsked,eventsAsked⟩,roomsRead,adjustmentsRead,
    eventsRead,eventsDropped⟩

theorem reads_passed (whole : Completes settings w) :
    let counters := (migrate settings w).world.state.counters
    let made := dealings settings w
    counters .roomsRead = passed Insert.rooms.sql made ∧
      counters .eventsRead - counters .eventsDropped =
        passed (Step.eventInsert settings.options.watermarkMode).sql made := by
  intro counters made
  have rooms := inserts_counted Ledger.roomsPassed_balanced whole
  have events := inserts_counted Ledger.eventsPassed_balanced whole
  rw [Counters.worth_alone] at rooms
  simp only [Counters.worth,Counter.all,List.map_cons,List.map_nil,List.sum_cons,List.sum_nil,
    Int.zero_mul,Int.one_mul,Int.neg_mul,Int.zero_add,Int.add_zero] at events
  exact ⟨rooms,events⟩

/-- The counters of written rows, and what was skipped of the adjustments. -/
theorem writes_counted (whole : Completes settings w) :
    let counters := (migrate settings w).world.state.counters
    let made := dealings settings w
    counters .roomsWritten = counted Insert.rooms.sql made ∧
      counters .adjustmentsInserted = counted Insert.adjustments.sql made ∧
      counters .eventsInserted = counted (Step.eventInsert settings.options.watermarkMode).sql made ∧
      counters .adjustmentsRead =
        counters .adjustmentsInserted + counters .adjustmentsSkipped := by
  intro counters made
  have rooms := inserts_counted Ledger.roomsWritten_balanced whole
  have adjustments := inserts_counted Ledger.adjustmentsInserted_balanced whole
  have events := inserts_counted Ledger.eventsInserted_balanced whole
  have skipped := inserts_counted Ledger.adjustments_balanced whole
  rw [Counters.worth_alone] at rooms adjustments events
  have free : ((insertions "" (dealings settings w)).map fun _ => 0).sum = 0 := by
    rw [List.map_const',List.sum_replicate_nat,Nat.mul_zero]
  simp only [Counters.worth,Counter.all,List.map_cons,List.map_nil,List.sum_cons,List.sum_nil,
    Int.zero_mul,Int.one_mul,Int.neg_mul,free] at skipped
  refine ⟨rooms,adjustments,events,?_⟩
  simp only [counters]
  omega

/-- What the state tells at the end of a run that returns is what its databases have served and
counted, unless the run returned because its steps were undone on demand. -/
theorem counters_account (settings : Settings) (w : World σ)
    (returned : (migrate settings w).result = .ok ()) (kept : ¬ Undone settings w)
    (within : CountsWithin (dealings settings w)) :
    ∃ rooms streams events, Accounting settings.options (dealings settings w)
      (traceOf (migrate settings w).effects) (migrate settings w).world.state rooms streams events := by
  have whole := (completes_of_returned returned).resolve_right kept
  obtain ⟨rooms,streams,events,asked,roomsRead,adjustmentsRead,eventsRead,eventsDropped⟩ :=
    reads_counted whole
  obtain ⟨roomsWritten,inserted,eventsInserted,skipped⟩ := writes_counted whole
  obtain ⟨roomsPassed,eventsPassed⟩ := reads_passed whole
  obtain ⟨roomsShown,adjustmentsShown,eventsShown⟩ := migrate_shows whole
  have fewer := within.counted_le Insert.rooms.sql
  have fewerEvents := within.counted_le (Step.eventInsert settings.options.watermarkMode).sql
  refine ⟨rooms,streams,events,⟨asked,roomsRead,roomsWritten,?_,adjustmentsRead,inserted,skipped,
    eventsRead,eventsDropped,eventsInserted,?_,fun full => ?_,rfl,roomsShown,adjustmentsShown,
    eventsShown⟩⟩
  · omega
  · omega
  · rw [eventsInserted,eventsPassed,counted_full full]

/-- The accounts of a room with a stream and two events, whose inserts report nothing usable. -/
theorem one_room_accounted : (migrate rowByRow oneRoom).result = .ok () ∧
    ¬ Undone rowByRow oneRoom ∧ CountsWithin (dealings rowByRow oneRoom) ∧
    ∃ rooms streams events, Accounting rowByRow.options (dealings rowByRow oneRoom)
      (traceOf (migrate rowByRow oneRoom).effects) (migrate rowByRow oneRoom).world.state rooms
        streams events := by
  have returned : failureOf (migrate rowByRow oneRoom).result = none :=
    Option.isNone_iff_eq_none.mp (by decide +kernel)
  have within : CountsWithin (dealings rowByRow oneRoom) := by decide +kernel
  have finished : failureOf (block rowByRow oneRoom).result = none :=
    Option.isNone_iff_eq_none.mp (by decide +kernel)
  have ok := failureOf_eq_none.mp returned
  have kept : ¬ Undone rowByRow oneRoom := by
    rintro ⟨_,failure,left,_⟩
    rw [failureOf_eq_none.mp finished] at left
    cases left
  exact ⟨ok,kept,within,counters_account rowByRow oneRoom ok kept within⟩

end Migration

end RoomTransfer
