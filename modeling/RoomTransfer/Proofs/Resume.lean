import RoomTransfer.Proofs.Merged
import RoomTransfer.Proofs.Passage
import RoomTransfer.Proofs.Rerun

/-! Taking up a transfer of events where it was broken off. The events that are there are the first
of all in order, so the watermark is the creation time of the last of them. From the watermark on
nothing is missed, and what is served again is skipped; beyond the watermark nothing is served
again, and what is missed was created with the last event that is there. -/
namespace RoomTransfer

open Store

section Writes

variable {σ α β : Type} {step : Step} {rows : List Row} {made : List Parameters}

/-- The identifiers of rows. -/
def identifiers (rows : List Row) : List Key := rows.filterMap fun row => Key.ofValue? (row.get "id")

/-- All that is written is written by the insert of a step, and under some of these keys. -/
structure Step.Writes (step : Step) (keys : List Key) (t : Traffic σ α) : Prop where
  sql : ∀ write ∈ t.writes, write.1 = step.insert.sql
  keys : (Table.keysOf step.insert (t.writes.flatMap Prod.snd)).Sublist keys

namespace Step

theorem Writes.quiet {keys : List Key} {t : Traffic σ α} (quiet : t.writes = []) :
    step.Writes keys t := by
  constructor
  · simp [quiet]
  · simp [quiet,Table.keysOf]

theorem Writes.bind {keys more : List Key} {first : Traffic σ α} {next : α → σ → Traffic σ β}
    (before : step.Writes keys first) (after : ∀ a s, step.Writes more (next a s)) :
    step.Writes (keys ++ more) (first.bind next) := by
  unfold Traffic.bind
  cases first.result with
  | error failure => exact ⟨before.sql,before.keys.trans (List.sublist_append_left keys more)⟩
  | ok a =>
    have later := after a first.stores
    constructor
    · intro write member
      rcases List.mem_append.mp member with early | late
      · exact before.sql write early
      · exact later.sql write late
    · simp only [List.flatMap_append,Table.keysOf,List.filterMap_append]
      exact before.keys.append later.keys

theorem converted_keys (keyed : step.Keyed) (converted : step.converted rows = .ok made) :
    (Table.keysOf step.insert made).Sublist (identifiers rows) := by
  induction rows generalizing made with
  | nil =>
    cases converted
    exact .slnil
  | cons row rest ih =>
    unfold Step.converted at converted
    have longer : (identifiers rest).Sublist (identifiers (row :: rest)) :=
      (List.sublist_cons_self row rest).filterMap _
    cases conversion : step.convert row with
    | error failure => simp [conversion] at converted
    | ok found =>
      cases found with
      | none =>
        simp only [conversion] at converted
        exact (ih converted).trans longer
      | some p =>
        cases later : step.converted rest with
        | error failure => simp [conversion,later,Except.map] at converted
        | ok others =>
          simp only [conversion,later,Except.map,Except.ok.injEq] at converted
          subst converted
          have own := keyed row p conversion
          have split : Table.keysOf step.insert (p :: others) =
              (Table.keyOf step.insert.table (stored p)).toList ++ Table.keysOf step.insert others := by
            cases keyOf : Table.keyOf step.insert.table (stored p) <;> simp [Table.keysOf,keyOf]
          have split' : identifiers (row :: rest) =
              (Key.ofValue? (row.get "id")).toList ++ identifiers rest := by
            cases key : Key.ofValue? (row.get "id") <;> simp [identifiers,key]
          rw [split,split',own]
          exact (ih later).append_left _

variable [Database σ] {s : σ}

theorem pourBatch_writes (keyed : step.Keyed) (batch : List Row) :
    step.Writes (identifiers batch) (step.pourBatch batch s) := by
  unfold pourBatch
  cases converted : step.converted batch with
  | error failure => exact .quiet rfl
  | ok made =>
    have put (s : σ) : step.Writes (identifiers batch) (step.insert.put made s) := by
      have written : (step.insert.put made s).writes = [] ∨
          (step.insert.put made s).writes = [(step.insert.sql,made)] := by
        unfold Insert.put
        split
        · exact .inl rfl
        · dsimp only
          split <;> exact .inr rfl
      rcases written with quiet | once
      · exact .quiet quiet
      · constructor
        · simp [once]
        · simpa [once] using converted_keys keyed converted
    change step.Writes _ ((Traffic.pure made s).bind _)
    rw [Traffic.pure_bind,← List.append_nil (identifiers batch)]
    refine Writes.bind (put s) fun count _ => .quiet ?_
    unfold Traffic.bind
    cases booked (step.tally batch.length count) <;> rfl

theorem pour_writes (keyed : step.Keyed) (batches : List (List Row)) (written : Nat) (s : σ) :
    step.Writes (identifiers batches.flatten) (step.pour written batches s) := by
  induction batches generalizing written s with
  | nil => exact .quiet rfl
  | cons batch rest ih =>
    have split : identifiers (batch :: rest).flatten = identifiers batch ++ identifiers rest.flatten :=
      List.filterMap_append
    rw [split]
    exact Writes.bind (step.pourBatch_writes keyed batch) fun _ _ => ih _ _

theorem traffic_writes (keyed : step.Keyed) (options : Options) :
    step.Writes (identifiers (step.served s)) (step.traffic options s) := by
  have poured := step.pour_writes keyed (batches options.batchSize (step.served s)) 0 s
  rwa [batches_flatten options.batchSize_pos] at poured

end Step

end Writes

section Interrupted

/-- Whether an event is live and of one of the types that are asked for. -/
def Store.LegacyEvent.isEligible (e : LegacyEvent) : Bool :=
  e.deletedAt.isNull && e.type.any fun type => eligibleTypes.any (·.isText type)

def Store.Legacy.eligible (l : Legacy) : List LegacyEvent := l.events.filter LegacyEvent.isEligible

/-- A table of events for which the transfer was broken off: of all that are eligible, in order, it
has the first ones and no others. -/
structure Interrupted (l : Legacy) (t : Table) (present missing : List LegacyEvent) : Prop where
  eligible : (present ++ missing).Perm l.eligible
  order : (present ++ missing).Pairwise fun d e => d.precedes e = true
  created : ∀ e ∈ l.eligible, ∃ moment, e.createdAt = some moment ∧
    Timestamp.first.instant ≤ moment.instant
  kept : ∀ e ∈ present, ∃ row, t.find? e.id = some row ∧
    row.createdAt.map Timestamp.instant = e.createdAt.map Timestamp.instant
  only : ∀ key, t.find? key ≠ none → ∃ e ∈ present, e.id = key

/-- When the last of some events was created, or the first moment of all where there is none. -/
def boundary (present : List LegacyEvent) : Timestamp :=
  (present.getLast?.bind LegacyEvent.createdAt).getD .first

variable {l : Legacy} {t : Table} {present missing : List LegacyEvent} {e : LegacyEvent}

theorem Store.LegacyEvent.isSelected_iff {mode : WatermarkMode} {watermark : Timestamp} :
    e.isSelected mode watermark eligibleTypes = true ↔ e.isEligible = true ∧
      ∃ moment, e.createdAt = some moment ∧ admits mode watermark moment = true := by
  unfold isSelected isEligible
  simp only [Bool.and_eq_true,Option.any_eq_true]
  exact and_right_comm

theorem Store.LegacyEvent.precedes_instant {d : LegacyEvent} {early late : Timestamp}
    (before : d.precedes e = true) (one : d.createdAt = some early) (two : e.createdAt = some late) :
    early.instant ≤ late.instant := by
  have column : d.cells "created_at" = some (.stamp early) := by simp [cells,one]
  have column' : e.cells "created_at" = some (.stamp late) := by simp [cells,two]
  simp only [precedes,inOrder,column,column',comesBefore,Bool.or_eq_true,Bool.and_eq_true,
    Bool.not_eq_true',decide_eq_true_eq,decide_eq_false_iff_not] at before
  omega

theorem Store.Legacy.eligible_nodup (l : Legacy) : (l.eligible.map LegacyEvent.id).Nodup :=
  l.distinctEvents.sublist (List.filter_sublist.map LegacyEvent.id)

namespace Interrupted

variable (interrupted : Interrupted l t present missing)

include interrupted

theorem mem_events (member : e ∈ present ++ missing) : e ∈ l.events ∧ e.isEligible = true :=
  List.mem_filter.mp (interrupted.eligible.mem_iff.mp member)

theorem moment (member : e ∈ present ++ missing) : ∃ moment, e.createdAt = some moment ∧
    Timestamp.first.instant ≤ moment.instant :=
  interrupted.created e (interrupted.eligible.mem_iff.mp member)

theorem absent (member : e ∈ missing) : t.find? e.id = none := by
  by_contra found
  obtain ⟨d,there,same⟩ := interrupted.only e.id found
  have distinct := (interrupted.eligible.map LegacyEvent.id).nodup_iff.mpr l.eligible_nodup
  rw [List.map_append,List.nodup_append] at distinct
  exact distinct.2.2 _ (List.mem_map_of_mem there) _ (List.mem_map_of_mem member) same

/-- No event that is there was created after the boundary. -/
theorem within (member : e ∈ present) {moment : Timestamp} (created : e.createdAt = some moment) :
    moment.instant ≤ (boundary present).instant := by
  cases last : present.getLast? with
  | none =>
    rw [List.getLast?_eq_none_iff.mp last] at member
    cases member
  | some d =>
    obtain ⟨front,rfl⟩ := List.getLast?_eq_some_iff.mp last
    obtain ⟨latest,created',_⟩ := interrupted.moment (e := d) (by simp)
    have here : boundary (front ++ [d]) = latest := by simp [boundary,created']
    rw [here]
    rcases List.mem_append.mp member with early | same
    · have order := (List.pairwise_append.mp interrupted.order).1
      exact LegacyEvent.precedes_instant
        ((List.pairwise_append.mp order).2.2 e early d (.head _)) created created'
    · obtain rfl := List.mem_singleton.mp same
      rw [created] at created'
      exact Int.le_of_eq (congrArg Timestamp.instant (Option.some.inj created'))

/-- No event that is missing was created before the boundary. -/
theorem beyond (member : e ∈ missing) : ∃ moment, e.createdAt = some moment ∧
    (boundary present).instant ≤ moment.instant := by
  obtain ⟨moment,created,late⟩ := interrupted.moment (List.mem_append_right _ member)
  refine ⟨moment,created,?_⟩
  cases last : present.getLast? with
  | none => simpa [boundary,last] using late
  | some d =>
    have there : d ∈ present := List.mem_of_getLast? last
    obtain ⟨latest,created',_⟩ := interrupted.moment (List.mem_append_left missing there)
    have here : boundary present = latest := by simp [boundary,last,created']
    rw [here]
    exact LegacyEvent.precedes_instant
      ((List.pairwise_append.mp interrupted.order).2.2 d there e member) created' created

/-- The creation times in the table are those of the events that are there. -/
theorem source {moment : Timestamp} (member : moment ∈ t.moments) : ∃ e ∈ present, ∃ own,
    e.createdAt = some own ∧ own.instant = moment.instant := by
  obtain ⟨⟨key,row⟩,inside,created⟩ := List.mem_filterMap.mp member
  have found := Table.mem_rows_iff.mp inside
  obtain ⟨e,there,rfl⟩ := interrupted.only key (by simp [found])
  obtain ⟨row',found',same⟩ := interrupted.kept e there
  rw [found] at found'
  cases found'
  rw [created] at same
  obtain ⟨own,told,equal⟩ := Option.map_eq_some_iff.mp same.symm
  exact ⟨e,there,own,told,equal⟩

theorem reached (there : e ∈ present) {own : Timestamp} (created : e.createdAt = some own) :
    ∃ moment ∈ t.moments, moment.instant = own.instant := by
  obtain ⟨row,found,same⟩ := interrupted.kept e there
  rw [created] at same
  obtain ⟨moment,told,equal⟩ := Option.map_eq_some_iff.mp same
  exact ⟨moment,List.mem_filterMap.mpr ⟨(e.id,row),Table.mem_rows_iff.mpr found,told⟩,equal⟩

/-- The watermark of the table is at the boundary. -/
theorem mark : t.mark.instant = (boundary present).instant := by
  cases last : present.getLast? with
  | none =>
    have empty : t.moments = [] := by
      refine List.eq_nil_iff_forall_not_mem.mpr fun moment member => ?_
      obtain ⟨e,there,_⟩ := interrupted.source member
      rw [List.getLast?_eq_none_iff.mp last] at there
      cases there
    simp [Table.mark_of_empty empty,boundary,last]
  | some d =>
    have there : d ∈ present := List.mem_of_getLast? last
    obtain ⟨latest,created,_⟩ := interrupted.moment (List.mem_append_left missing there)
    have here : boundary present = latest := by simp [boundary,last,created]
    obtain ⟨moment,member,same⟩ := interrupted.reached there created
    have lower := Table.le_mark member
    obtain ⟨e,among,own,told,equal⟩ := interrupted.source (Table.mark_mem (List.ne_nil_of_mem member))
    have upper := interrupted.within among told
    rw [here] at upper ⊢
    omega

end Interrupted

end Interrupted

section Found

variable {s s' : Tables} {options : Options} {mode : WatermarkMode} {watermark : Timestamp} {n : Nat}

theorem eventInsert_refreshed (options : Options) :
    (Step.eventInsert options.watermarkMode).refreshed = [] := by
  rcases options.watermarkMode with (_ | _) | _ <;> rfl

/-- What the events step leaves under a key: the row that was there, or else the first of those
that it has made for the key. -/
theorem Step.events_find? (ended : ((Step.events options (.stamp watermark)).traffic options s).Ends n s')
    (key : Key) : ∃ made, (Step.events options (.stamp watermark)).converted
        ((Step.events options (.stamp watermark)).served s) = .ok made ∧
      (s'.working "event").find? key = (((s.working "event").find? key).toList ++
        Table.rowsUnder (Step.eventInsert options.watermarkMode) key made).head? := by
  obtain ⟨made,t,converted,done,rfl⟩ :=
    (Step.traffic_ends (eventInsert_known options) (Step.events_fits options _)).mp ended
  refine ⟨made,converted,?_⟩
  rw [Step.events_table options (.stamp watermark)] at done ⊢
  have merged := Table.find?_insertAll done key
  rw [show (Step.events options (.stamp watermark)).insert.refreshed = [] from
    eventInsert_refreshed options,Stored.merged_nil] at merged
  rw [Tables.write_same]
  exact merged

/-- The events step makes the row of an event from that event. -/
def Store.LegacyEvent.Makes (options : Options) (e : LegacyEvent) (row : Stored) : Prop :=
  ∃ event, Event.ofRow e.row options.agentLabel = .ok (some event) ∧
    row = stored (event.parameters options.pendingMarker)

theorem Store.LegacyEvent.Makes.unique {e : LegacyEvent} {row other : Stored}
    (one : e.Makes options row) (two : e.Makes options other) : row = other := by
  obtain ⟨event,made,rfl⟩ := one
  obtain ⟨event',made',rfl⟩ := two
  rw [made] at made'
  cases made'
  rfl

theorem Step.rowsUnder_source (member : options.watermarkMode = .mode mode) {made : List Parameters}
    (converted : (Step.events options (.stamp watermark)).converted
      ((Step.events options (.stamp watermark)).served s) = .ok made)
    {key : Key} {row : Stored}
    (under : row ∈ Table.rowsUnder (Step.eventInsert options.watermarkMode) key made) :
    ∃ e ∈ s.legacy.events, e.isSelected mode watermark eligibleTypes = true ∧ e.id = key ∧
      e.Makes options row := by
  obtain ⟨inside,keyed⟩ := List.mem_filter.mp under
  obtain ⟨p,one,rfl⟩ := List.mem_map.mp inside
  obtain ⟨_,served,conversion⟩ := Step.converted_source converted one
  obtain ⟨e,among,selected,rfl⟩ := (Step.mem_served_events member).mp served
  obtain ⟨event,read,rfl⟩ := Step.events_source conversion
  refine ⟨e,among,selected,?_,event,read,rfl⟩
  have own := Step.events_keyed options _ _ _ conversion
  have same : some e.id = some key := by
    rw [← Key.ofValue?_value e.id,← of_decide_eq_true keyed]
    exact own.symm
  exact Option.some.inj same

/-- A row that is there after the events step was there before, or is that of an event that was
selected. -/
theorem Step.events_only (member : options.watermarkMode = .mode mode)
    (ended : ((Step.events options (.stamp watermark)).traffic options s).Ends n s')
    {key : Key} {row : Stored} (found : (s'.working "event").find? key = some row) :
    (s.working "event").find? key = some row ∨
      ∃ e ∈ s.legacy.events, e.isSelected mode watermark eligibleTypes = true ∧ e.id = key := by
  obtain ⟨made,converted,after⟩ := Step.events_find? ended key
  rw [after] at found
  cases before : (s.working "event").find? key with
  | some old => exact .inl (by simpa [before] using found)
  | none =>
    rw [before] at found
    obtain ⟨e,among,selected,same,_⟩ :=
      Step.rowsUnder_source member converted (List.mem_of_head? found)
    exact .inr ⟨e,among,selected,same⟩

/-- An event that was selected is there after the events step, with its own row unless another one
was there before. -/
theorem Step.events_added (member : options.watermarkMode = .mode mode)
    (ended : ((Step.events options (.stamp watermark)).traffic options s).Ends n s') {e : LegacyEvent}
    (among : e ∈ s.legacy.events) (selected : e.isSelected mode watermark eligibleTypes = true)
    (absent : (s.working "event").find? e.id = none) :
    ∃ row, e.Makes options row ∧ (s'.working "event").find? e.id = some row := by
  obtain ⟨made,converted,after⟩ := Step.events_find? ended e.id
  obtain ⟨found,conversion,inside⟩ := Step.converted_row converted
    ((Step.mem_served_events member).mpr ⟨e,among,selected,rfl⟩)
  obtain ⟨p,rfl,_⟩ := e.converted selected conversion
  obtain ⟨event,read,rfl⟩ := Step.events_source conversion
  refine ⟨_,⟨event,read,rfl⟩,?_⟩
  have own := Step.events_keyed options _ _ _ conversion
  have under : stored (event.parameters options.pendingMarker) ∈
      Table.rowsUnder (Step.eventInsert options.watermarkMode) e.id made := by
    refine List.mem_filter.mpr ⟨List.mem_map_of_mem (inside _ rfl),decide_eq_true ?_⟩
    exact own.trans (Key.ofValue?_value e.id)
  rw [after,absent]
  cases first : (Table.rowsUnder (Step.eventInsert options.watermarkMode) e.id made).head? with
  | none =>
    rw [List.head?_eq_none_iff.mp first] at under
    cases under
  | some row =>
    -- Whatever comes first under the identifier was made from the same event.
    obtain ⟨d,among',_,same,makes⟩ := Step.rowsUnder_source member converted (List.mem_of_head? first)
    obtain rfl := s.legacy.event_unique among' among same
    exact first.trans (congrArg some (makes.unique ⟨event,read,rfl⟩))

theorem Step.events_untouched
    (ended : ((Step.events options (.stamp watermark)).traffic options s).Ends n s')
    {key : Key} {row : Stored} (found : (s.working "event").find? key = some row) :
    (s'.working "event").find? key = some row := by
  obtain ⟨_,_,after⟩ := Step.events_find? ended key
  rw [after,found]
  rfl

end Found

/-- Nothing is missing any more: the table has one row for each eligible event, those that were
there are untouched, and the others were made from their events. -/
structure CaughtUp (options : Options) (l : Legacy) (missing : List LegacyEvent) (t t' : Table) :
    Prop where
  whole : (t'.rows.map Prod.fst).Perm (l.eligible.map LegacyEvent.id)
  untouched : ∀ key row, t.find? key = some row → t'.find? key = some row
  added : ∀ e ∈ missing, ∃ row, e.Makes options row ∧ t'.find? e.id = some row

section CaughtUp

variable {s s' : Tables} {options : Options} {mode : WatermarkMode} {watermark : Timestamp} {n : Nat}
  {present missing : List LegacyEvent}

/-- The events step catches up exactly where every missing event is selected. -/
theorem caughtUp_iff (member : options.watermarkMode = .mode mode)
    (interrupted : Interrupted s.legacy (s.working "event") present missing)
    (ended : ((Step.events options (.stamp watermark)).traffic options s).Ends n s') :
    CaughtUp options s.legacy missing (s.working "event") (s'.working "event") ↔
      ∀ e ∈ missing, e.isSelected mode watermark eligibleTypes = true := by
  have among {e : LegacyEvent} (lacks : e ∈ missing) :=
    interrupted.mem_events (List.mem_append_right present lacks)
  constructor
  · intro caught e lacks
    obtain ⟨row,_,found⟩ := caught.added e lacks
    rcases Step.events_only member ended found with before | ⟨d,among',selected,same⟩
    · rw [interrupted.absent lacks] at before
      cases before
    · obtain rfl := s.legacy.event_unique among' (among lacks).1 same
      exact selected
  · intro all
    have added : ∀ e ∈ missing, ∃ row, e.Makes options row ∧
        (s'.working "event").find? e.id = some row := fun e lacks =>
      Step.events_added member ended (among lacks).1 (all e lacks) (interrupted.absent lacks)
    refine ⟨?_,fun key row => Step.events_untouched ended,added⟩
    refine (List.perm_ext_iff_of_nodup (s'.working "event").distinct s.legacy.eligible_nodup).mpr
      fun key => ?_
    rw [← Table.find?_isSome,Option.isSome_iff_exists]
    constructor
    · rintro ⟨row,found⟩
      rcases Step.events_only member ended found with before | ⟨e,inside,selected,same⟩
      · obtain ⟨e,there,same⟩ := interrupted.only key (by simp [before])
        exact List.mem_map.mpr ⟨e,List.mem_filter.mpr
          (interrupted.mem_events (List.mem_append_left missing there)),same⟩
      · exact List.mem_map.mpr
          ⟨e,List.mem_filter.mpr ⟨inside,(LegacyEvent.isSelected_iff.mp selected).1⟩,same⟩
    · intro eligible
      obtain ⟨e,inside,rfl⟩ := List.mem_map.mp eligible
      rcases List.mem_append.mp (interrupted.eligible.mem_iff.mpr inside) with there | lacks
      · obtain ⟨row,found,_⟩ := interrupted.kept e there
        exact ⟨row,Step.events_untouched ended found⟩
      · obtain ⟨row,_,found⟩ := added e lacks
        exact ⟨row,found⟩

end CaughtUp

/-- How a transfer of events goes on from a table for which it was broken off. -/
structure Resumed (options : Options) (w : World Tables) (present missing : List LegacyEvent)
    (o : Outcome Tables Nat) : Prop where
  /-- From the watermark on, a run that returns has made up for all that was missing. -/
  inclusive : options.watermarkMode = .mode .inclusive → ∀ n, o.result = .ok n →
    CaughtUp options w.stores.legacy missing (w.stores.working "event") (o.world.stores.working "event")
  /-- Beyond the watermark no row is inserted that is there already, however the run ends. -/
  fresh : options.watermarkMode = .mode .strict →
    (∀ write ∈ writesOf (traceOf o.effects), write.1 = Insert.strictEvents.sql) ∧
      ¬ Table.Meets .strictEvents ((writesOf (traceOf o.effects)).flatMap Prod.snd)
        (w.stores.working "event")
  /-- There a run that returns has made up for all exactly if none of it was created at the
  boundary. -/
  strict : options.watermarkMode = .mode .strict → ∀ n, o.result = .ok n →
    (CaughtUp options w.stores.legacy missing (w.stores.working "event")
        (o.world.stores.working "event") ↔
      ∀ e ∈ missing, ∀ moment, e.createdAt = some moment →
        moment.instant ≠ (boundary present).instant)

section Resumed

variable {options : Options} {w : World Tables} {present missing : List LegacyEvent}

theorem Step.events_identifiers {mode : WatermarkMode} (member : options.watermarkMode = .mode mode)
    {s : Tables} {watermark : Timestamp} :
    (identifiers ((Step.events options (.stamp watermark)).served s)).Perm
      ((s.legacy.events.filter (LegacyEvent.isSelected mode watermark eligibleTypes)).map
        LegacyEvent.id) := by
  have own : (fun row : Row => Key.ofValue? (row.get "id")) ∘ LegacyEvent.row =
      some ∘ LegacyEvent.id := funext fun e => Key.ofValue?_value e.id
  rw [Step.served_events member,identifiers,List.filterMap_map,own,List.filterMap_eq_map]
  exact (List.mergeSort_perm _ _).map _

/-- Beyond the watermark of an interrupted table nothing is written under a key that is there. -/
theorem strict_fresh (member : options.watermarkMode = .mode .strict) {s : Tables}
    (interrupted : Interrupted s.legacy (s.working "event") present missing) :
    (∀ write ∈ (eventsTraffic options s).writes, write.1 = Insert.strictEvents.sql) ∧
      ¬ Table.Meets .strictEvents ((eventsTraffic options s).writes.flatMap Prod.snd)
        (s.working "event") := by
  have writes : (eventsTraffic options s).writes =
      ((Step.events options (.stamp (s.working "event").mark)).traffic options s).writes := by
    unfold eventsTraffic
    rw [foundWatermark_tables]
    simp only [Traffic.bind,Traffic.ofExcept,watermarkMessage,member]
    cases ((Step.events options (.stamp (s.working "event").mark)).traffic options s).result <;> simp
  have insert : (Step.events options (.stamp (s.working "event").mark)).insert = .strictEvents := by
    change Step.eventInsert options.watermarkMode = _
    rw [member]
    rfl
  obtain ⟨sql,keys⟩ := Step.traffic_writes (s := s)
    (Step.events_keyed options (.stamp (s.working "event").mark)) options
  rw [writes]
  rw [insert] at sql keys
  have served : (identifiers ((Step.events options (.stamp (s.working "event").mark)).served s)).Perm _ :=
    Step.events_identifiers member
  refine ⟨sql,Table.not_meets ?_ fun key inside => ?_⟩
  · exact (served.nodup_iff.mpr (s.legacy.distinctEvents.sublist
      (List.filter_sublist.map LegacyEvent.id))).sublist keys
  · obtain ⟨e,among,rfl⟩ := List.mem_map.mp (served.mem_iff.mp (keys.subset inside))
    obtain ⟨inside,selected⟩ := List.mem_filter.mp among
    by_contra found
    obtain ⟨d,there,same⟩ := interrupted.only e.id found
    obtain rfl := s.legacy.event_unique
      (interrupted.mem_events (List.mem_append_left missing there)).1 inside same
    obtain ⟨moment,created,beyond⟩ := LegacyEvent.selected_created selected
    have within := interrupted.within there created
    simp only [admits,decide_eq_true_eq,interrupted.mark] at beyond
    omega

/-- From the watermark on every missing event is selected; beyond it, those that were not created
at the boundary. -/
theorem missing_selected {s : Tables}
    (interrupted : Interrupted s.legacy (s.working "event") present missing) :
    (∀ e ∈ missing, e.isSelected .inclusive (s.working "event").mark eligibleTypes = true) ∧
    ∀ e ∈ missing, (e.isSelected .strict (s.working "event").mark eligibleTypes = true ↔
      ∀ moment, e.createdAt = some moment → moment.instant ≠ (boundary present).instant) := by
  constructor
  · intro e lacks
    obtain ⟨moment,created,beyond⟩ := interrupted.beyond lacks
    refine LegacyEvent.isSelected_iff.mpr
      ⟨(interrupted.mem_events (List.mem_append_right present lacks)).2,moment,created,?_⟩
    simpa only [admits,decide_eq_true_eq,interrupted.mark] using beyond
  · intro e lacks
    obtain ⟨moment,created,beyond⟩ := interrupted.beyond lacks
    have eligible := (interrupted.mem_events (List.mem_append_right present lacks)).2
    rw [LegacyEvent.isSelected_iff]
    simp only [eligible,created,Option.some.injEq,exists_eq_left',admits,decide_eq_true_eq,
      interrupted.mark,true_and,forall_eq']
    omega

/-- With a closed link nothing is written. -/
theorem eventsPassage_closed (options : Options) (s : Tables) : ∃ failure,
    eventsPassage options false s = ⟨.error failure,s,[]⟩ := by
  unfold eventsPassage
  obtain ⟨reply,asked⟩ : ∃ reply, dealing (.execute .target "" watermarkQuery .null) s =
      ⟨.ok reply,s,[]⟩ := ⟨_,rfl⟩
  rw [asked]
  cases read : watermarkOf reply.one with
  | error failure => exact ⟨failure,by simp [Traffic.bind,Traffic.ofExcept,read]⟩
  | ok watermark =>
    cases told : watermarkMessage watermark options.watermarkMode with
    | error failure => exact ⟨failure,by simp [Traffic.bind,Traffic.ofExcept,read,told]⟩
    | ok _ =>
      exact ⟨.linkClosed,by simp [Traffic.bind,Traffic.ofExcept,read,told,Step.passage,Traffic.fail]⟩

theorem transferEvents_result (isOpen : w.linkOpen = true) :
    (transferEvents options w).result = (eventsTraffic options w.stores).result :=
  congrArg Traffic.result (transferEvents_traffic Tables.smooth options trivial isOpen)

/-- A transfer of events that was broken off, and goes on. -/
theorem events_resumed (options : Options) (w : World Tables) (present missing : List LegacyEvent)
    (interrupted : Interrupted w.stores.legacy (w.stores.working "event") present missing) :
    Resumed options w present missing (transferEvents options w) := by
  cases isOpen : w.linkOpen with
  | false =>
    obtain ⟨failure,closed⟩ := eventsPassage_closed options w.stores
    rw [← isOpen,← transferEvents_passage] at closed
    obtain ⟨failed,_,quiet⟩ := Traffic.mk.inj closed
    have fails (n : Nat) : (transferEvents options w).result ≠ .ok n := by
      rw [failed]
      nofun
    constructor
    · exact fun _ n returned => absurd returned (fails n)
    · intro _
      rw [quiet]
      exact ⟨by simp,Table.not_meets .nil nofun⟩
    · exact fun _ n returned => absurd returned (fails n)
  | true =>
    have traffic := transferEvents_traffic Tables.smooth options trivial isOpen
    have ended {n : Nat} (returned : (transferEvents options w).result = .ok n) :
        ((Step.events options (.stamp (w.stores.working "event").mark)).traffic options
          w.stores).Ends n (transferEvents options w).world.stores :=
      (eventsTraffic_ends.mp (traffic ▸ ⟨returned,rfl⟩)).2
    obtain ⟨inclusive,strict⟩ := missing_selected interrupted
    constructor
    · intro member n returned
      exact (caughtUp_iff member interrupted (ended returned)).mpr inclusive
    · intro member
      have fresh := strict_fresh member interrupted
      rw [← traffic] at fresh
      exact fresh
    · intro member n returned
      rw [caughtUp_iff member interrupted (ended returned)]
      exact forall₂_congr strict

/-- A moment so many microseconds after the first of all. -/
def soon (micros : Fin 1000) : Timestamp := ⟨Date.first,micros,some 0,by omega⟩

/-- A message that was created at such a moment. -/
def message (id : Int) (micros : Fin 1000) : LegacyEvent where
  id := .int id
  type := some "message"
  createdAt := some (soon micros)
  roomId := .text "r"
  data := .object []
  audience := .text "a"
  accountId := .text "u"
  offset := .int 5
  deletedAt := .null

/-- Three messages, of which the first two were created together and only the first is there. -/
def brokenOff : World Tables where
  stores := {
    legacy := {
      rooms := []
      events := [message 1 1,message 2 1,message 3 2,
        { message 4 3 with deletedAt := .stamp .first }]
      distinctRooms := by decide
      distinctEvents := by decide }
    arrangement := Migration.unarranged
    kept := Migration.emptyTarget.stores.kept
    working := fun _ => ⟨[(.int 1,stored [("created_at",.value (.stamp (soon 1)))])],by decide⟩ }
  clock := [Timestamp.first]
  linkOpen := true

def inMode (mode : WatermarkMode) : Options := { (default : Options) with watermarkMode := .mode mode }

theorem broken_off_interrupted : Interrupted brokenOff.stores.legacy (brokenOff.stores.working "event")
    [message 1 1] [message 2 1,message 3 2] := by
  constructor
  · exact .refl _
  · decide +kernel
  · intro e member
    have three : e ∈ [message 1 1,message 2 1,message 3 2] := member
    simp only [List.mem_cons,List.not_mem_nil,or_false] at three
    rcases three with rfl | rfl | rfl <;> exact ⟨_,rfl,by decide +kernel⟩
  · intro e member
    obtain rfl := List.mem_singleton.mp member
    exact ⟨_,rfl,rfl⟩
  · intro key found
    refine ⟨_,.head _,?_⟩
    by_contra other
    exact found (lookup_cons_other (Ne.symm other))

theorem broken_off_returns (mode : WatermarkMode) :
    ∃ n, (transferEvents (inMode mode) brokenOff).result = .ok n := by
  let step := Step.events (inMode mode) (.stamp (brokenOff.stores.working "event").mark)
  have ordered : brokenOff.stores.legacy.events.Pairwise fun d e => d.precedes e = true := by
    decide +kernel
  -- The events come in order as they are, so that sorting them need not be unfolded.
  have none : (failureOf (step.traffic (inMode mode) brokenOff.stores).result).isNone = true := by
    unfold Step.traffic
    rw [Step.served_events rfl,List.mergeSort_of_pairwise (ordered.filter _)]
    cases mode <;> decide +kernel
  cases result : (step.traffic (inMode mode) brokenOff.stores).result with
  | error failure =>
    rw [result] at none
    cases none
  | ok n =>
    have ended := eventsTraffic_ends.mpr ⟨⟨mode,rfl⟩,result,rfl⟩
    exact ⟨n,(transferEvents_result rfl).trans ended.1⟩

/-- What was created together with the last event that is there is made up for from the watermark
on, and lost beyond it. -/
theorem broken_off_resumed :
    Interrupted brokenOff.stores.legacy (brokenOff.stores.working "event")
      [message 1 1] [message 2 1,message 3 2] ∧
    CaughtUp (inMode .inclusive) brokenOff.stores.legacy [message 2 1,message 3 2]
      (brokenOff.stores.working "event")
      ((transferEvents (inMode .inclusive) brokenOff).world.stores.working "event") ∧
    ¬ CaughtUp (inMode .strict) brokenOff.stores.legacy [message 2 1,message 3 2]
      (brokenOff.stores.working "event")
      ((transferEvents (inMode .strict) brokenOff).world.stores.working "event") := by
  obtain ⟨n,inclusive⟩ := broken_off_returns .inclusive
  obtain ⟨m,strict⟩ := broken_off_returns .strict
  refine ⟨broken_off_interrupted,?_,fun caught => ?_⟩
  · exact (events_resumed _ _ _ _ broken_off_interrupted).inclusive rfl n inclusive
  · have apart := ((events_resumed _ _ _ _ broken_off_interrupted).strict rfl m strict).mp caught
    exact apart _ (.head _) _ rfl rfl

end Resumed

end RoomTransfer
