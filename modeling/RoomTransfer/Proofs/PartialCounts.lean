import RoomTransfer.Proofs.Margins
import RoomTransfer.Proofs.Reporting

/-! The counters of a run that may have broken off. They are booked for a whole batch, once it is
written, but for the dropped events, each of which is counted at once. What was counted of a batch
that breaks off is never taken back. -/
namespace RoomTransfer

open Store

/-- Some counters together. -/
def Counters.total (counters : Counters) : List Counter → Int
  | [] => 0
  | key :: rest => counters key + counters.total rest

namespace Margin

/-- Some counters, and what a cursor has served, against other counters. -/
def between (more less : List Counter) (cursor : String) (served : Int) : Margin where
  rate key := more.count key - less.count key
  cursor
  served

section Steps

variable {m : Margin} {options : Options} {loss : Int}

/-- What it takes for a margin to cover the steps. Rooms and adjustments are never dropped. -/
theorem covers_of_steps
    (rooms : ∀ read written : Nat, written ≤ read → 0 ≤ m.servedBy "legacy_rooms" * read + loss ∧
      0 ≤ m.servedBy "legacy_rooms" * read + m.rate .roomsRead * read +
        m.rate .roomsWritten * written)
    (adjustments : ∀ read written : Nat, written ≤ read →
      0 ≤ m.servedBy "legacy_streams" * read + loss ∧
        0 ≤ m.servedBy "legacy_streams" * read + m.rate .adjustmentsRead * read +
          m.rate .adjustmentsInserted * written +
            m.rate .adjustmentsSkipped * ((read : Int) - written))
    (broken : ∀ read dropped : Nat, read ≤ options.batchSize → dropped ≤ read →
      0 ≤ m.servedBy "legacy_events" * read + m.rate .eventsDropped * dropped + loss)
    (events : ∀ read written dropped : Nat, written + dropped ≤ read →
      0 ≤ m.servedBy "legacy_events" * read + m.rate .eventsDropped * dropped +
        m.rate .eventsRead * read + m.rate .eventsInserted * written) :
    ∀ step, Step.Of options step → m.Covers options loss step := by
  intro step known
  cases known with
  | rooms =>
    have none (batch : List Row) : batch.countP (Step.rooms options).drops = 0 := by
      simp [List.countP_eq_zero,Step.rooms_keep]
    refine ⟨fun batch dropped _ most => ?_,fun batch kept written length fewer => ?_⟩
    · rw [none] at most
      obtain rfl := Nat.le_zero.mp most
      simpa [Step.rooms] using (rooms batch.length 0 (Nat.zero_le _)).1
    · rw [none] at length ⊢
      obtain rfl : kept = batch.length := length
      simpa [Step.rooms,tallied,Int.add_assoc] using (rooms batch.length written fewer).2
  | adjustments =>
    have none (batch : List Row) : batch.countP Step.adjustments.drops = 0 := by
      simp [List.countP_eq_zero,Step.adjustments_keep]
    refine ⟨fun batch dropped _ most => ?_,fun batch kept written length fewer => ?_⟩
    · rw [none] at most
      obtain rfl := Nat.le_zero.mp most
      simpa [Step.adjustments] using (adjustments batch.length 0 (Nat.zero_le _)).1
    · rw [none] at length ⊢
      obtain rfl : kept = batch.length := length
      simpa [Step.adjustments,tallied,Int.add_assoc] using (adjustments batch.length written fewer).2
  | events watermark =>
    refine ⟨fun batch dropped fits most => ?_,fun batch kept written length fewer => ?_⟩
    · exact broken batch.length dropped fits (Nat.le_trans most List.countP_le_length)
    · have even := events batch.length written (batch.countP (Step.events options watermark).drops)
        (by omega)
      simpa [Step.events,tallied,Int.add_assoc] using even

end Steps

theorem worth_count (counters : Counters) (keys : List Counter) :
    counters.worth (fun key => keys.count key) = counters.total keys := by
  induction keys with
  | nil => simp [Counters.worth,Counter.all,Counters.total]
  | cons key rest ih =>
    rw [Counters.total,← ih]
    cases key <;> simp [Counters.worth,Counter.all,List.count_cons,Int.add_mul] <;> omega

theorem worth_between (counters : Counters) (more less : List Counter) (cursor : String)
    (served : Int) : counters.worth (between more less cursor served).rate =
      counters.total more - counters.total less := by
  rw [← worth_count,← worth_count]
  simp only [Counters.worth,Counter.all,between,Int.sub_mul,List.map_cons,List.map_nil,List.sum_cons,
    List.sum_nil]
  omega

section Kinds

variable {options : Options}

theorem roomsWritten_covers : ∀ step, Step.Of options step →
    (between [.roomsRead] [.roomsWritten] "" 0).Covers options 0 step := by
  refine covers_of_steps ?_ ?_ ?_ ?_ <;> intros <;> simp [between,servedBy]
  omega

theorem roomsRead_covers : ∀ step, Step.Of options step →
    (between [] [.roomsRead] "legacy_rooms" 1).Covers options 0 step := by
  refine covers_of_steps ?_ ?_ ?_ ?_ <;> intros <;> simp [between,servedBy]

/-- What is skipped is what is read and not inserted, so that nothing is left on either side. -/
theorem adjustments_covers : ∀ step, Step.Of options step →
    (between [.adjustmentsRead] [.adjustmentsInserted,.adjustmentsSkipped] "" 0).Covers options 0
        step ∧
      (between [.adjustmentsInserted,.adjustmentsSkipped] [.adjustmentsRead] "" 0).Covers options 0
        step := by
  refine fun step known => ⟨covers_of_steps ?_ ?_ ?_ ?_ step known,
    covers_of_steps ?_ ?_ ?_ ?_ step known⟩ <;> intros <;> simp [between,servedBy]
  all_goals omega

theorem adjustmentsRead_covers : ∀ step, Step.Of options step →
    (between [] [.adjustmentsRead] "legacy_streams" 1).Covers options 0 step := by
  refine covers_of_steps ?_ ?_ ?_ ?_ <;> intros <;> simp [between,servedBy]

theorem eventsInserted_covers : ∀ step, Step.Of options step →
    (between [.eventsRead] [.eventsInserted] "" 0).Covers options 0 step := by
  refine covers_of_steps ?_ ?_ ?_ ?_ <;> intros <;> simp [between,servedBy]
  omega

theorem eventsRead_covers : ∀ step, Step.Of options step →
    (between [] [.eventsRead] "legacy_events" 1).Covers options 0 step := by
  refine covers_of_steps ?_ ?_ ?_ ?_ <;> intros <;> simp [between,servedBy]

theorem events_covers : ∀ step, Step.Of options step →
    (between [] [.eventsInserted,.eventsDropped] "legacy_events" 1).Covers options 0 step := by
  refine covers_of_steps ?_ ?_ ?_ ?_ <;> intros <;> simp [between,servedBy]
  all_goals omega

/-- The rows of a batch are served before they are counted as read. -/
theorem unread_covers : ∀ step, Step.Of options step →
    (between [.eventsRead] [] "legacy_events" (-1)).Covers options options.batchSize step := by
  refine covers_of_steps ?_ ?_ ?_ ?_ <;> intros <;> simp [between,servedBy]
  all_goals omega

end Kinds

end Margin

/-- What the counters of a run tell of each other and of the rows that its cursors have served,
whether or not it ran to its end. -/
structure Consistent (options : Options) (made : List Dealing) (counters : Counters) : Prop where
  roomsWritten_le : counters .roomsWritten ≤ counters .roomsRead
  roomsRead_le : counters .roomsRead ≤ fetched "legacy_rooms" made
  adjustments : counters .adjustmentsInserted + counters .adjustmentsSkipped =
    counters .adjustmentsRead
  adjustmentsRead_le : counters .adjustmentsRead ≤ fetched "legacy_streams" made
  eventsInserted_le : counters .eventsInserted ≤ counters .eventsRead
  eventsRead_le : counters .eventsRead ≤ fetched "legacy_events" made
  /-- Each event that was served is inserted or dropped once at most. -/
  events_le : counters .eventsInserted + counters .eventsDropped ≤ fetched "legacy_events" made
  /-- One batch of events at most was served that is not counted as read. -/
  unread_le : (fetched "legacy_events" made : Int) ≤ counters .eventsRead + options.batchSize
  /-- Where no batch was broken off, no more events are inserted or dropped than read. -/
  settled : counters .eventsRead = fetched "legacy_events" made →
    counters .eventsInserted + counters .eventsDropped ≤ counters .eventsRead

/-- Where the report of a run tells a counter. -/
def Counter.place : Counter → String × String
  | .roomsRead => ("rooms","read")
  | .roomsWritten => ("rooms","written")
  | .adjustmentsRead => ("adjustments","read")
  | .adjustmentsInserted => ("adjustments","inserted")
  | .adjustmentsSkipped => ("adjustments","skipped")
  | .eventsRead => ("events","read")
  | .eventsInserted => ("events","inserted")
  | .eventsDropped => ("events","dropped")

/-- What a report tells of a counter. -/
def Report.told (report : List (String × Yaml.Block)) (key : Counter) : Option Yaml.Block :=
  match List.lookup key.place.1 report with
  | some (.mapping fields) => List.lookup key.place.2 fields
  | _ => none

theorem Report.ofState_told {s : RunState} {report : List (String × Yaml.Block)}
    (made : ofState s = .ok report) (key : Counter) : told report key = some (.int (s.counters key)) := by
  obtain ⟨startedAt,_,made⟩ := bind_eq_ok made
  obtain ⟨finishedAt,_,made⟩ := bind_eq_ok made
  obtain ⟨duration,_,made⟩ := bind_eq_ok made
  obtain ⟨watermark,_,made⟩ := bind_eq_ok made
  obtain ⟨error,_,made⟩ := bind_eq_ok made
  obtain rfl := Except.ok.inj made
  cases key <;> rfl

namespace Migration

variable {σ : Type} [Database σ] {settings : Settings} {w : World σ}

theorem between_kept (ready : Ready settings) (within : CountsWithin (dealings settings w))
    {more less : List Counter} {cursor : String} {served loss : Int}
    (covers : ∀ step, Step.Of settings.options step →
      (Margin.between more less cursor served).Covers settings.options loss step) (lossy : 0 ≤ loss) :
    (migrate settings w).world.state.counters.total less ≤
      (migrate settings w).world.state.counters.total more +
        served * fetched cursor (dealings settings w) + loss := by
  have kept := margin_kept (w := w) covers lossy ready within
  rw [Margin.worth_between] at kept
  change 0 ≤ _ + served * (fetched cursor (dealings settings w) : Nat) + loss at kept
  omega

theorem counters_consistent_of_ready (ready : Ready settings) (within : CountsWithin (dealings settings w)) :
    Consistent settings.options (dealings settings w) (migrate settings w).world.state.counters := by
  have kept {more less : List Counter} {cursor : String} {served : Int}
      (covers : ∀ step, Step.Of settings.options step →
        (Margin.between more less cursor served).Covers settings.options 0 step) :=
    between_kept ready within covers (Int.le_refl 0)
  have short := kept fun step known => (Margin.adjustments_covers step known).1
  have excess := kept fun step known => (Margin.adjustments_covers step known).2
  have events := kept Margin.events_covers
  have unread := between_kept ready within Margin.unread_covers (Int.natCast_nonneg _)
  constructor
  · simpa [Counters.total] using kept Margin.roomsWritten_covers
  · simpa [Counters.total] using kept Margin.roomsRead_covers
  · simp only [Counters.total] at short excess
    omega
  · simpa [Counters.total] using kept Margin.adjustmentsRead_covers
  · simpa [Counters.total] using kept Margin.eventsInserted_covers
  · simpa [Counters.total] using kept Margin.eventsRead_covers
  · simpa [Counters.total] using events
  · simp only [Counters.total] at unread
    omega
  · intro all
    rw [all]
    simpa [Counters.total] using events

theorem consistent_zero (options : Options) : Consistent options [] Counters.zero := by
  constructor <;> simp [fetched]

/-- The counters that a run leaves behind, however it ends, are consistent with each other and with
what its cursors have served, as is each report that tells them. Only what is inserted and dropped of
a batch that was broken off goes beyond what is counted as read. -/
theorem counters_consistent (settings : Settings) (w : World σ)
    (begins : Ready settings ∨ w.state.counters = Counters.zero)
    (within : CountsWithin (dealings settings w)) :
    let s := (migrate settings w).world.state
    Consistent settings.options (dealings settings w) s.counters ∧
      ∀ report, Report.ofState s = .ok report → ∀ key,
        Report.told report key = some (.int (s.counters key)) := by
  refine ⟨?_,fun report made key => Report.ofState_told made key⟩
  by_cases ready : Ready settings
  · exact counters_consistent_of_ready ready within
  · -- A run that is refused leaves the state that it found.
    have fresh := begins.resolve_left ready
    obtain ⟨_,refused⟩ := migrate_of_unready (w := w) ready
    obtain ⟨_,unmade⟩ := migrate_of_unready (w := watched w) ready
    have made : dealings settings w = [] := by
      rw [dealings,unmade]
      rfl
    rw [refused,made,fresh]
    exact consistent_zero settings.options

/-- Two events in one batch: one that is dropped, and one that lacks its columns. -/
def brokenBatch : World Scripts where
  stores := {
    legacy := { rows := [("legacy_events",[
      [("id",.text "e"),("type",.text "presence")],
      [("id",.text "f"),("type",.text "message")]])] }
    target := { one := .object [(.text "watermark",.null)] } }
  clock := [Timestamp.first]

theorem broken_batch_consistent :
    (Ready connected ∨ brokenBatch.state.counters = Counters.zero) ∧
    CountsWithin (dealings connected brokenBatch) ∧
    (failureOf (migrate connected brokenBatch).result).isSome = true ∧
    Consistent connected.options (dealings connected brokenBatch)
      (migrate connected brokenBatch).world.state.counters := by
  have within : CountsWithin (dealings connected brokenBatch) := by decide +kernel
  have ready : Ready connected := ⟨rfl,rfl⟩
  exact ⟨.inl ready,within,by decide +kernel,
    (counters_consistent connected brokenBatch (.inl ready) within).1⟩

/-- An event that is dropped before its batch breaks off is counted, though no event is read. -/
theorem broken_batch_unread : ¬ ∀ (settings : Settings) (w : World Scripts),
    w.state.counters = Counters.zero → CountsWithin (dealings settings w) →
      (failureOf (migrate settings w).result).isSome = true →
        (migrate settings w).world.state.counters .eventsInserted +
          (migrate settings w).world.state.counters .eventsDropped ≤
            (migrate settings w).world.state.counters .eventsRead := by
  intro always
  have least := always connected brokenBatch rfl (by decide +kernel) (by decide +kernel)
  have excess : (migrate connected brokenBatch).world.state.counters .eventsRead <
      (migrate connected brokenBatch).world.state.counters .eventsInserted +
        (migrate connected brokenBatch).world.state.counters .eventsDropped := by decide +kernel
  omega

end Migration

end RoomTransfer
