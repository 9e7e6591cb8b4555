import Mathlib.Data.List.Nodup
import RoomTransfer.Proofs.SmoothRun
import RoomTransfer.Proofs.Tables
import RoomTransfer.Proofs.Tally

/-! Repeating a run. A step absorbs rows into a table when each of them can be converted and what
it becomes is settled there. A run that returns has absorbed whatever a later run finds: rooms and
adjustments because every room is read again, events because none that is not there already lies
beyond the new watermark. -/
namespace RoomTransfer

open Store

section Keys

namespace Step

/-- What a step makes of a row is written under the identifier of the row. -/
def Keyed (step : Step) : Prop := ∀ row p, step.convert row = .ok (some p) →
  Table.keyOf step.insert.table (stored p) = Key.ofValue? (row.get "id")

theorem rooms_keyed (options : Options) : (Step.rooms options).Keyed := by
  intro row p converted
  obtain ⟨room,made,converted⟩ := bind_eq_ok converted
  cases converted
  rw [Room.ofRow_id made]
  rfl

theorem adjustments_keyed : Step.adjustments.Keyed := by
  intro row p converted
  obtain ⟨adjustment,made,converted⟩ := bind_eq_ok converted
  cases converted
  rw [Adjustment.ofRow_roomId made]
  rfl

theorem events_table (options : Options) (watermark : Value) :
    (Step.events options watermark).insert.table = "event" := eventInsert_table options

theorem events_source {options : Options} {watermark : Value} {row : Row} {p : Parameters}
    (converted : (Step.events options watermark).convert row = .ok (some p)) :
    ∃ event, Event.ofRow row options.agentLabel = .ok (some event) ∧
      p = event.parameters options.pendingMarker := by
  obtain ⟨found,made,converted⟩ := bind_eq_ok converted
  cases found with
  | none => cases converted
  | some event =>
    cases converted
    exact ⟨event,made,rfl⟩

theorem events_keyed (options : Options) (watermark : Value) :
    (Step.events options watermark).Keyed := by
  intro row p converted
  obtain ⟨event,made,rfl⟩ := events_source converted
  rw [events_table,← (Event.ofRow_fields made).1]
  rfl

end Step

end Keys

section Absorbed

variable {s s' : Tables} {step : Step} {rows : List Row} {options : Options} {n : Nat}

/-- Each row can be converted, and what it becomes is settled in the table. -/
def Step.Absorbed (step : Step) (rows : List Row) (t : Table) : Prop :=
  ∀ row ∈ rows, ∃ found, step.convert row = .ok found ∧
    ∀ p, found = some p → t.Settled step.insert (stored p)

/-- Rows with the same identifier are the same row. -/
def DistinctRows (rows : List Row) : Prop := ∀ row ∈ rows, ∀ other ∈ rows,
  Key.ofValue? (row.get "id") = Key.ofValue? (other.get "id") → row = other

theorem Step.agree {made : List Parameters} (keyed : step.Keyed) (distinct : DistinctRows rows)
    (converted : step.converted rows = .ok made) : Table.Agree step.insert made := by
  intro p one q two same
  obtain ⟨row,member,conversion⟩ := step.converted_source converted one
  obtain ⟨other,member',conversion'⟩ := step.converted_source converted two
  rw [keyed row p conversion,keyed other q conversion'] at same
  obtain rfl := distinct row member other member' same
  rw [conversion] at conversion'
  cases conversion'
  rfl

/-- A step that returns has absorbed the rows that it was served. -/
theorem Step.absorbs (known : step.insert ∈ inserts) (fits : step.Fits) (keyed : step.Keyed)
    (distinct : DistinctRows (step.served s)) (ended : (step.traffic options s).Ends n s') :
    step.Absorbed (step.served s) (s'.working step.insert.table) := by
  obtain ⟨made,t,converted,done,rfl⟩ := (Step.traffic_ends known fits).mp ended
  rw [Tables.write_same]
  intro row member
  obtain ⟨found,conversion,within⟩ := step.converted_row converted member
  have settled := Table.insertAll_settles done (step.agree keyed distinct converted)
  exact ⟨found,conversion,fun p same => settled p (within p same)⟩

/-- A step that is served nothing but absorbed rows changes nothing, and returns. -/
theorem Step.again (known : step.insert ∈ inserts) (fits : step.Fits)
    (tolerant : step.insert.policy ≠ .none ∨ step.served s = [])
    (absorbed : step.Absorbed (step.served s) (s.working step.insert.table)) :
    ∃ n, (step.traffic options s).Ends n s ∧ (step.insert.policy ≠ .update → n = 0) := by
  obtain ⟨made,converted⟩ := Step.converted_of_each fun row member =>
    (absorbed row member).imp fun _ found => found.1
  have settled : ∀ p ∈ made, (s.working step.insert.table).Settled step.insert (stored p) := by
    intro p member
    obtain ⟨row,within,conversion⟩ := step.converted_source converted member
    obtain ⟨found,conversion',settled⟩ := absorbed row within
    rw [conversion] at conversion'
    exact settled p (Except.ok.inj conversion').symm
  have inserted : ∃ n, (s.working step.insert.table).insertAll step.insert made =
      .ok (n,s.working step.insert.table) ∧ (step.insert.policy ≠ .update → n = 0) := by
    rcases tolerant with tolerant | none
    · obtain ⟨n,done,skipped⟩ := Table.insertAll_of_settled settled tolerant
      refine ⟨n,done,fun keeps => skipped ?_⟩
      cases policy : step.insert.policy with
      | skip => rfl
      | update => exact absurd policy keeps
      | none => exact absurd policy tolerant
    · rw [none] at converted
      cases converted
      exact ⟨0,rfl,fun _ => rfl⟩
  obtain ⟨n,done,none⟩ := inserted
  exact ⟨n,(Step.traffic_ends known fits).mpr ⟨made,_,converted,done,(s.write_self _).symm⟩,none⟩

theorem Step.Absorbed.part {part : List Row} {t : Table} (absorbed : step.Absorbed rows t)
    (within : ∀ row ∈ part, row ∈ rows) : step.Absorbed part t :=
  fun row member => absorbed row (within row member)

end Absorbed

section Legacy

variable {s : Tables} {options : Options}

theorem Store.LegacyRoom.unique (s : Tables) {r q : LegacyRoom} (one : r ∈ s.legacy.rooms)
    (two : q ∈ s.legacy.rooms)
    (same : Key.ofValue? r.id.value = Key.ofValue? q.id.value) : r = q := by
  have ids : r.id = q.id := by simpa using same
  exact List.inj_on_of_nodup_map s.legacy.distinctRooms one two ids

theorem Store.Legacy.event_unique (l : Legacy) {d e : LegacyEvent} (one : d ∈ l.events)
    (two : e ∈ l.events) (same : d.id = e.id) : d = e :=
  List.inj_on_of_nodup_map l.distinctEvents one two same

theorem Step.rooms_distinct : DistinctRows ((Step.rooms options).served s) := by
  intro row member other member' same
  obtain ⟨r,one,_,rfl⟩ := Step.mem_served_rooms.mp member
  obtain ⟨q,two,_,rfl⟩ := Step.mem_served_rooms.mp member'
  rw [LegacyRoom.unique s one two same]

theorem Step.streams_distinct : DistinctRows (Step.adjustments.served s) := by
  intro row member other member' same
  obtain ⟨r,one,_,rfl⟩ := Step.mem_served_streams.mp member
  obtain ⟨q,two,_,rfl⟩ := Step.mem_served_streams.mp member'
  rw [LegacyRoom.unique s one two same]

theorem Step.events_distinct {mode : WatermarkMode} {watermark : Timestamp}
    (member : options.watermarkMode = .mode mode) :
    DistinctRows ((Step.events options (.stamp watermark)).served s) := by
  intro row served other served' same
  obtain ⟨d,one,_,rfl⟩ := (Step.mem_served_events member).mp served
  obtain ⟨e,two,_,rfl⟩ := (Step.mem_served_events member).mp served'
  have ids : d.id = e.id := by
    have keys : Key.ofValue? d.id.value = Key.ofValue? e.id.value := same
    simpa using keys
  rw [s.legacy.event_unique one two ids]

end Legacy

section Events

variable {s s' : Tables} {options : Options} {mode : WatermarkMode} {n : Nat}

theorem eventInsert_keeps (options : Options) :
    (Step.eventInsert options.watermarkMode).policy ≠ .update := by
  rcases options.watermarkMode with (_ | _) | _ <;> nofun

theorem Store.LegacyEvent.isSelected_mono {e : LegacyEvent} {types : List Value} {early late : Timestamp}
    (order : early.instant ≤ late.instant) (selected : e.isSelected mode late types = true) :
    e.isSelected mode early types = true := by
  unfold isSelected at selected ⊢
  simp only [Bool.and_eq_true,Option.any_eq_true] at selected ⊢
  obtain ⟨⟨live,moment,created,beyond⟩,type⟩ := selected
  refine ⟨⟨live,moment,created,?_⟩,type⟩
  cases mode <;> simp only [admits,decide_eq_true_eq] at beyond ⊢ <;> omega

theorem Store.LegacyEvent.selected_created {e : LegacyEvent} {types : List Value}
    {watermark : Timestamp} (selected : e.isSelected mode watermark types = true) :
    ∃ moment, e.createdAt = some moment ∧ admits mode watermark moment = true := by
  unfold isSelected at selected
  simp only [Bool.and_eq_true,Option.any_eq_true] at selected
  exact selected.1.2

theorem Store.LegacyEvent.selected_type {e : LegacyEvent} {watermark : Timestamp}
    (selected : e.isSelected mode watermark eligibleTypes = true) :
    ∃ type, EventType.ofValue? (e.row.get "type") = .ok (some type) := by
  unfold isSelected at selected
  simp only [Bool.and_eq_true,Option.any_eq_true] at selected
  obtain ⟨_,name,typed,eligible⟩ := selected
  have column : e.row.get "type" = .text name := by
    change (e.type.map Value.text).getD .null = _
    rw [typed]
    rfl
  have listed : ∃ type ∈ EventType.all, type.name = name := by
    simpa [eligibleTypes,Value.isText] using eligible
  obtain ⟨type,member,same⟩ := listed
  have isSome : (EventType.ofName? name).isSome = true :=
    List.find?_isSome.mpr ⟨type,member,by simpa using same⟩
  obtain ⟨type,found⟩ := Option.isSome_iff_exists.mp isSome
  refine ⟨type,?_⟩
  rw [column]
  exact congrArg Except.ok found

/-- A selected event that can be converted makes a row, with its own creation time. -/
theorem Store.LegacyEvent.converted {e : LegacyEvent} {watermark : Timestamp}
    {found : Option Parameters} (selected : e.isSelected mode watermark eligibleTypes = true)
    (conversion : (Step.events options (.stamp watermark)).convert e.row = .ok found) :
    ∃ p, found = some p ∧ (stored p).createdAt = e.createdAt := by
  obtain ⟨moment,created,_⟩ := selected_created selected
  obtain ⟨type,typed⟩ := selected_type selected
  obtain ⟨event,made,rest⟩ := bind_eq_ok conversion
  obtain ⟨event,rfl⟩ := Event.ofRow_eligible made typed
  cases rest
  refine ⟨_,rfl,?_⟩
  have column : event.createdAt = .stamp moment := by
    rw [(Event.ofRow_fields made).2]
    change (e.createdAt.map Value.stamp).getD .null = _
    rw [created]
    rfl
  rw [created]
  refine Stored.createdAt_of ?_
  change some (Parameter.value event.createdAt) = _
  rw [column]

/-- The creation times that the events step adds are beyond its watermark; where events must be
new, those of all selected events are among them. -/
theorem Step.events_moments {watermark : Timestamp} (member : options.watermarkMode = .mode mode)
    (ended : ((Step.events options (.stamp watermark)).traffic options s).Ends n s') :
    ∃ more, (s'.working "event").moments = (s.working "event").moments ++ more ∧
      (∀ moment ∈ more, admits mode watermark moment = true) ∧
      (mode = .strict → ∀ e ∈ s.legacy.events, e.isSelected mode watermark eligibleTypes = true →
        ∃ moment ∈ more, e.createdAt = some moment) := by
  obtain ⟨made,t,converted,done,rfl⟩ :=
    (Step.traffic_ends (eventInsert_known options) (Step.events_fits options _)).mp ended
  rw [Step.events_table options (.stamp watermark)] at done ⊢
  rw [Tables.write_same]
  obtain ⟨more,grown,given,all⟩ := Table.insertAll_grows done (eventInsert_keeps options)
  refine ⟨more.filterMap fun entry => entry.2.createdAt,?_,?_,?_⟩
  · simp only [Table.moments,grown,List.filterMap_append]
  · -- A new row was made from an event that was selected, and has its creation time.
    intro moment within
    obtain ⟨entry,inside,created⟩ := List.mem_filterMap.mp within
    obtain ⟨p,one,same⟩ := given entry inside
    obtain ⟨row,served,conversion⟩ := Step.converted_source converted one
    obtain ⟨e,_,selected,rfl⟩ := (Step.mem_served_events member).mp served
    obtain ⟨_,⟨⟩,told⟩ := e.converted selected conversion
    obtain ⟨moment',created',beyond⟩ := LegacyEvent.selected_created selected
    rw [same,told,created'] at created
    cases created
    exact beyond
  · -- No event is skipped in strict mode, so what was selected is new.
    rintro rfl e inside selected
    obtain ⟨found,conversion,within⟩ := Step.converted_row converted
      ((Step.mem_served_events member).mpr ⟨e,inside,selected,rfl⟩)
    obtain ⟨p,rfl,told⟩ := e.converted selected conversion
    obtain ⟨moment,created,_⟩ := LegacyEvent.selected_created selected
    have policy : (Step.eventInsert options.watermarkMode).policy = .none := by rw [member]; rfl
    obtain ⟨entry,written,same⟩ := all policy p (within p rfl)
    exact ⟨moment,List.mem_filterMap.mpr ⟨entry,written,by rw [same,told,created]⟩,created⟩

/-- The new watermark is not before the one that the step was given. -/
theorem Step.events_order (member : options.watermarkMode = .mode mode)
    (ended : ((Step.events options (.stamp (s.working "event").mark)).traffic options s).Ends n s') :
    (s.working "event").mark.instant ≤ (s'.working "event").mark.instant := by
  obtain ⟨more,grown,beyond,_⟩ := Step.events_moments member ended
  refine Table.mark_mono grown fun moment within => ?_
  have admitted := beyond moment within
  cases mode <;> simp only [admits,decide_eq_true_eq] at admitted <;> omega

/-- In strict mode no event lies beyond the new watermark: it dominates all that was selected. -/
theorem Step.events_exhausted (member : options.watermarkMode = .mode .strict)
    (ended : ((Step.events options (.stamp (s.working "event").mark)).traffic options s).Ends n s') :
    ∀ e ∈ s.legacy.events,
      e.isSelected .strict (s'.working "event").mark eligibleTypes = false := by
  obtain ⟨more,grown,_,all⟩ := Step.events_moments member ended
  refine fun e inside => Bool.eq_false_iff.mpr fun again => ?_
  have selected := LegacyEvent.isSelected_mono (Step.events_order member ended) again
  obtain ⟨moment,within,created⟩ := all rfl e inside selected
  have bound : moment.instant ≤ (s'.working "event").mark.instant :=
    Table.le_mark (grown ▸ List.mem_append_right _ within)
  obtain ⟨_,created',beyond⟩ := LegacyEvent.selected_created again
  rw [created] at created'
  cases created'
  simp only [admits,decide_eq_true_eq] at beyond
  omega

end Events

section Steps

variable {s s' u : Tables} {options : Options} {n : Nat}

theorem watermarkMessage_returns {t : Timestamp} {mode : ModeOption} :
    (∃ message, watermarkMessage (.stamp t) mode = .ok message) ↔ ∃ m, mode = .mode m := by
  cases mode <;> simp [watermarkMessage]

theorem eventsTraffic_ends : (eventsTraffic options s).Ends n s' ↔
    (∃ mode, options.watermarkMode = .mode mode) ∧
      ((Step.events options (.stamp (s.working "event").mark)).traffic options s).Ends n s' := by
  unfold eventsTraffic
  simp only [Traffic.ends_bind,Traffic.ends_ofExcept,foundWatermark_tables]
  rw [← watermarkMessage_returns]
  constructor
  · rintro ⟨_,_,⟨⟨⟩,rfl⟩,message,_,⟨told,rfl⟩,ended⟩
    exact ⟨⟨message,told⟩,ended⟩
  · rintro ⟨⟨message,told⟩,ended⟩
    exact ⟨_,_,⟨rfl,rfl⟩,message,_,⟨told,rfl⟩,ended⟩

theorem stepsTraffic_ends : (stepsTraffic options s).Ends () s' ↔ ∃ k n m s₁ s₂,
    ((Step.rooms options).traffic options s).Ends k s₁ ∧
      (Step.adjustments.traffic options s₁).Ends n s₂ ∧ (eventsTraffic options s₂).Ends m s' := by
  unfold stepsTraffic
  simp only [Traffic.ends_bind,Traffic.ends_pure]
  constructor
  · rintro ⟨k,s₁,rooms,n,s₂,adjustments,m,_,events,_,rfl⟩
    exact ⟨k,n,m,s₁,s₂,rooms,adjustments,events⟩
  · rintro ⟨k,n,m,s₁,s₂,rooms,adjustments,events⟩
    exact ⟨k,s₁,rooms,n,s₂,adjustments,m,s',events,trivial,rfl⟩

theorem Step.traffic_frame {step : Step} (known : step.insert ∈ inserts) (fits : step.Fits)
    (ended : (step.traffic options s).Ends n s') : s'.legacy = s.legacy ∧
      ∀ other, other ≠ step.insert.table → s'.working other = s.working other := by
  obtain ⟨_,t,_,_,rfl⟩ := (Step.traffic_ends known fits).mp ended
  exact ⟨rfl,fun other differ => s.write_other differ t⟩

theorem events_again (ended : (eventsTraffic options s).Ends n s') (legacy : u.legacy = s.legacy)
    (working : u.working "event" = s'.working "event") : (eventsTraffic options u).Ends 0 u := by
  obtain ⟨⟨mode,member⟩,ended⟩ := eventsTraffic_ends.mp ended
  have order := Step.events_order member ended
  have known := eventInsert_known options
  have fits (watermark : Value) := Step.events_fits options watermark
  have absorbed := Step.absorbs known (fits _) (Step.events_keyed options _)
    (Step.events_distinct member) ended
  have within : ∀ row ∈ (Step.events options (.stamp (u.working "event").mark)).served u,
      row ∈ (Step.events options (.stamp (s.working "event").mark)).served s := by
    intro row served
    obtain ⟨e,inside,selected,rfl⟩ := (Step.mem_served_events member).mp served
    rw [legacy] at inside
    rw [working] at selected
    exact (Step.mem_served_events member).mpr
      ⟨e,inside,LegacyEvent.isSelected_mono order selected,rfl⟩
  have table := Step.events_table options (.stamp (s.working "event").mark)
  -- Only strict mode does not bear an event that is there already, and there none is served.
  have tolerant : (Step.eventInsert options.watermarkMode).policy ≠ .none ∨
      (Step.events options (.stamp (u.working "event").mark)).served u = [] := by
    rw [member]
    cases mode with
    | inclusive => exact .inl nofun
    | strict =>
      refine .inr (List.eq_nil_iff_forall_not_mem.mpr fun row served => ?_)
      obtain ⟨e,inside,selected,_⟩ := (Step.mem_served_events member).mp served
      rw [legacy] at inside
      rw [working,Step.events_exhausted member ended e inside] at selected
      cases selected
  have again : (Step.events options (.stamp (u.working "event").mark)).Absorbed
      ((Step.events options (.stamp (u.working "event").mark)).served u) (u.working "event") := by
    rw [table,← working] at absorbed
    exact absorbed.part within
  obtain ⟨m,ended',none⟩ := Step.again known (fits _) tolerant (by
    rw [Step.events_table]
    exact again)
  obtain rfl := none (eventInsert_keeps options)
  exact eventsTraffic_ends.mpr ⟨⟨mode,member⟩,ended'⟩

/-- Where the steps have returned once they change nothing any more. -/
theorem steps_again (ended : (stepsTraffic options s).Ends () s') (legacy : u.legacy = s.legacy)
    (working : u.working = s'.working) : ∃ k,
      ((Step.rooms options).traffic options u).Ends k u ∧
        (Step.adjustments.traffic options u).Ends 0 u ∧ (eventsTraffic options u).Ends 0 u := by
  obtain ⟨k,n,m,s₁,s₂,rooms,adjustments,events⟩ := stepsTraffic_ends.mp ended
  obtain ⟨legacy₁,_⟩ := Step.traffic_frame rooms_known (Step.rooms_fits options) rooms
  obtain ⟨legacy₂,frame₂⟩ :=
    Step.traffic_frame adjustments_known Step.adjustments_fits adjustments
  obtain ⟨_,frame₃⟩ := Step.traffic_frame (eventInsert_known options)
    (Step.events_fits options _) (eventsTraffic_ends.mp events).2
  rw [Step.events_table] at frame₃
  -- No later step has written into the table of an earlier one.
  have roomTable : u.working "room" = s₁.working "room" := by
    rw [working,frame₃ "room" (by decide),frame₂ "room" (by decide)]
  have adjustmentTable : u.working "adjustment" = s₂.working "adjustment" := by
    rw [working,frame₃ "adjustment" (by decide)]
  have roomsAbsorbed : (Step.rooms options).Absorbed ((Step.rooms options).served u)
      (u.working "room") := by
    rw [roomTable]
    refine (Step.absorbs rooms_known (Step.rooms_fits options) (Step.rooms_keyed options)
      Step.rooms_distinct rooms).part fun row served => ?_
    rw [Step.mem_served_rooms,legacy] at served
    exact Step.mem_served_rooms.mpr served
  have adjustmentsAbsorbed : Step.adjustments.Absorbed (Step.adjustments.served u)
      (u.working "adjustment") := by
    rw [adjustmentTable]
    refine (Step.absorbs adjustments_known Step.adjustments_fits Step.adjustments_keyed
      Step.streams_distinct adjustments).part fun row served => ?_
    rw [Step.mem_served_streams,legacy,← legacy₁] at served
    exact Step.mem_served_streams.mpr served
  obtain ⟨k,roomsAgain,_⟩ := Step.again rooms_known (Step.rooms_fits options) (.inl nofun)
    roomsAbsorbed
  obtain ⟨_,adjustmentsAgain,none⟩ := Step.again adjustments_known Step.adjustments_fits
    (.inl nofun) adjustmentsAbsorbed
  obtain rfl := none nofun
  refine ⟨k,roomsAgain,adjustmentsAgain,events_again events ?_ (by rw [working])⟩
  rw [legacy,legacy₂,legacy₁]

end Steps

namespace Migration

/-- The world of a second run: the legacy tables are what they were, though their rows may come
in another order, and the target is what the first run left. -/
structure Repeats (settings : Settings) (w u : World Tables) : Prop where
  legacy : u.stores.legacy = w.stores.legacy
  kept : u.stores.kept = (migrate settings w).world.stores.kept
  real : u.state.dryRun = false
  clock : Universal u.clock

/-- A run over tables returns, inserts nothing and leaves everything as it is. -/
structure Idle (settings : Settings) (u : World Tables) : Prop where
  returns : (migrate settings u).result = .ok ()
  adjustments : (migrate settings u).world.state.counters .adjustmentsInserted = 0
  events : (migrate settings u).world.state.counters .eventsInserted = 0
  kept : (migrate settings u).world.stores.kept = u.stores.kept

/-- What a run that returned has committed is what its steps made of what was kept before. -/
theorem committed_tables {settings : Settings} {w : World Tables} (ready : Ready settings)
    (clock : Universal w.clock) (real : w.state.dryRun = false)
    (returned : (migrate settings w).result = .ok ()) :
    ∃ s, (stepsTraffic settings.options { w.stores with working := w.stores.kept }).Ends () s ∧
      (migrate settings w).world.stores.kept = s.working := by
  obtain ⟨result,left⟩ := migrate_smooth Tables.smooth trivial clock ready
  obtain ⟨_,traffic⟩ := block_holds Tables.smooth trivial clock ready
  rw [returned] at result
  obtain ⟨_,stores⟩ := left result.symm
  refine ⟨(block settings w).world.stores,?_,?_⟩
  · change (stepsTraffic settings.options (Database.answer .begin w.stores).2).Ends () _
    rw [← traffic]
    exact ⟨result.symm,rfl⟩
  · rw [stores real]
    rfl

/-- Steps whose traffic changes nothing leave the tables as they are, and count what they wrote. -/
theorem steps_idle {options : Options} {v : World Tables} {k n m : Nat}
    (isOpen : v.linkOpen = true)
    (rooms : ((Step.rooms options).traffic options v.stores).Ends k v.stores)
    (adjustments : (Step.adjustments.traffic options v.stores).Ends n v.stores)
    (events : (eventsTraffic options v.stores).Ends m v.stores) :
    (steps options v).traffic.Ends () v.stores ∧
      (steps options v).world.state.counters .adjustmentsInserted =
        v.state.counters .adjustmentsInserted + n ∧
      (steps options v).world.state.counters .eventsInserted =
        v.state.counters .eventsInserted + m := by
  have roomsRun := Step.run_traffic Tables.smooth (Step.rooms options) options trivial isOpen
  obtain ⟨_,open₁⟩ := Step.run_keeps Tables.smooth (Step.rooms options) options trivial isOpen
  have adjustmentsRun := Step.run_traffic Tables.smooth Step.adjustments options trivial open₁
  obtain ⟨_,open₂⟩ := Step.run_keeps Tables.smooth Step.adjustments options trivial open₁
  have eventsRun := transferEvents_traffic Tables.smooth options trivial open₂
  have stores₁ : ((Step.rooms options).run options v).world.stores = v.stores := by
    rw [← rooms.2,← roomsRun]
    rfl
  rw [stores₁] at adjustmentsRun
  have stores₂ : (Step.adjustments.run options
      ((Step.rooms options).run options v).world).world.stores = v.stores := by
    rw [← adjustments.2,← adjustmentsRun]
    rfl
  rw [stores₂] at eventsRun
  have counted := steps_counted ((congrArg Traffic.result roomsRun).trans rooms.1)
    ((congrArg Traffic.result adjustmentsRun).trans adjustments.1)
    ((congrArg Traffic.result eventsRun).trans events.1)
  refine ⟨?_,counted⟩
  rw [steps_traffic Tables.smooth options trivial isOpen]
  exact stepsTraffic_ends.mpr ⟨k,n,m,v.stores,v.stores,rooms,adjustments,events⟩

/-- A run that follows one that returned changes nothing, whatever the tables held before. -/
theorem rerun_idle (settings : Settings) (w u : World Tables) (ready : Ready settings)
    (clock : Universal w.clock) (real : w.state.dryRun = false)
    (returned : (migrate settings w).result = .ok ()) (repeats : Repeats settings w u) :
    Idle settings u := by
  obtain ⟨s,first,kept⟩ := committed_tables ready clock real returned
  obtain ⟨result,left⟩ := migrate_smooth Tables.smooth trivial repeats.clock ready
  obtain ⟨_,world⟩ := opening_smooth Tables.smooth trivial repeats.clock ready
  obtain ⟨t,rest,started,_,_⟩ := start_smooth (w := u) repeats.clock
  have stores : (opening settings u).world.stores =
      { u.stores with working := u.stores.kept } := by rw [world]; rfl
  have fresh : (opening settings u).world.state.counters = Counters.zero := by
    rw [world,started]
    rfl
  obtain ⟨k,rooms,adjustments,events⟩ := steps_again first
    (u := (opening settings u).world.stores) (by rw [stores]; exact repeats.legacy)
    (by rw [stores]; exact repeats.kept.trans kept)
  obtain ⟨ended,noAdjustment,noEvent⟩ := steps_idle (by rw [world]) rooms adjustments events
  rw [fresh] at noAdjustment noEvent
  obtain ⟨counters,stores'⟩ := left ended.1
  refine ⟨result.trans ended.1,?_,?_,?_⟩
  · rw [counters]
    exact noAdjustment
  · rw [counters]
    exact noEvent
  · rw [stores' repeats.real]
    have same : (block settings u).world.stores = (opening settings u).world.stores := ended.2
    rw [same,stores]
    rfl

/-- A deleted room, a room with a stream, and an event in it. -/
def oneEvent : Legacy where
  rooms := [
    { id := .text "q", createdAt := .null, openedAt := .null, closedAt := .null, audience := .null
      parentId := .null, stream := none, deletedAt := .stamp .first },
    { id := .text "r", createdAt := .stamp .first, openedAt := .stamp .first, closedAt := .null
      audience := .text "a", parentId := .null, stream := some (.object [(.text "preroll",.int 3)])
      deletedAt := .null }]
  events := [
    { id := .int 1, type := some "message", createdAt := some ⟨Date.first,1,some 0,by decide⟩
      roomId := .text "r", data := .object [], audience := .text "a", accountId := .text "u"
      offset := .int 5, deletedAt := .null }]
  distinctRooms := by decide
  distinctEvents := by decide

def unarranged : Arrangement := ⟨fun _ rows => rows,fun _ rows => .refl rows⟩

def backwards : Arrangement := ⟨fun _ rows => rows.reverse,fun _ rows => rows.reverse_perm⟩

/-- These legacy tables, and a target with nothing in it. -/
def emptyTarget : World Tables where
  stores := {
    legacy := oneEvent
    arrangement := unarranged
    kept := fun _ => ⟨[],.nil⟩
    working := fun _ => ⟨[],.nil⟩ }
  clock := [Timestamp.first]

/-- The same legacy tables, and what a run has left. -/
def filledTarget : World Tables where
  stores := {
    legacy := oneEvent
    arrangement := backwards
    kept := (migrate connected emptyTarget).world.stores.kept
    working := fun _ => ⟨[],.nil⟩ }
  clock := [Timestamp.first]

theorem filled_target_idle :
    (migrate connected emptyTarget).world.state.counters .eventsInserted = 1 ∧
      Idle connected filledTarget := by
  have first : (failureOf (migrate connected emptyTarget).result).isNone = true ∧
      (migrate connected emptyTarget).world.state.counters .eventsInserted = 1 := by
    decide +kernel
  obtain ⟨none,inserted⟩ := first
  have returned := failureOf_eq_none.mp (Option.isNone_iff_eq_none.mp none)
  have clock : Universal [Timestamp.first] := ⟨by simp,by simp [Timestamp.first]⟩
  have kept : filledTarget.stores.kept = (migrate connected emptyTarget).world.stores.kept := by
    simp only [filledTarget]
  exact ⟨inserted,rerun_idle connected emptyTarget filledTarget ⟨rfl,rfl⟩ clock rfl returned
    ⟨rfl,kept,rfl,clock⟩⟩

end Migration

end RoomTransfer
