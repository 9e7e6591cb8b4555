import RoomTransfer.Proofs.Accounting

/-! Where written rows come from. A step reads rows that stand still, converts them from the first
on and writes what it has made of them; all of them have been read once it returns. -/
namespace RoomTransfer

open Store

/-- What passes while a step reads these rows: it writes by its own insert alone, and it writes what
it makes of the first of them. None is left unread where it returns. -/
structure Step.Conveys {σ α : Type} (step : Step) (rows : List Row) (t : Traffic σ α) : Prop where
  sql : ∀ write ∈ t.writes, write.1 = step.insert.sql
  made : ∃ read unread, rows = read ++ unread ∧
    step.converted read = .ok (t.writes.flatMap Prod.snd) ∧ ∀ a, t.result = .ok a → unread = []

namespace Step.Conveys

variable {σ α β : Type} {step : Step} {rows more : List Row} {t : Traffic σ α}

theorem pure (step : Step) (a : α) (s : σ) : step.Conveys [] (Traffic.pure a s) :=
  ⟨nofun,[],[],rfl,rfl,fun _ _ => rfl⟩

theorem fail (step : Step) (rows : List Row) (failure : Failure) (s : σ) :
    step.Conveys rows (Traffic.fail failure s : Traffic σ α) :=
  ⟨nofun,[],rows,rfl,rfl,nofun⟩

/-- A part that writes nothing leaves all rows to what comes next. -/
theorem idle {next : α → σ → Traffic σ β} (silent : t.writes = [])
    (rest : ∀ a, t.result = .ok a → step.Conveys rows (next a t.stores)) :
    step.Conveys rows (t.bind next) := by
  obtain ⟨result,stores,writes⟩ := t
  obtain rfl : writes = [] := silent
  cases result with
  | error failure => exact .fail step rows failure stores
  | ok a => exact rest a rfl

theorem bind {next : α → σ → Traffic σ β} (first : step.Conveys rows t)
    (rest : ∀ a, t.result = .ok a → step.Conveys more (next a t.stores)) :
    step.Conveys (rows ++ more) (t.bind next) := by
  obtain ⟨result,stores,writes⟩ := t
  obtain ⟨sql,read,unread,whole,converted,done⟩ := first
  cases result with
  | error failure =>
    exact ⟨sql,read,unread ++ more,by rw [whole,List.append_assoc],converted,nofun⟩
  | ok a =>
    obtain ⟨sql',read',unread',whole',converted',done'⟩ := rest a rfl
    obtain rfl : unread = [] := done a rfl
    refine ⟨?_,rows ++ read',unread',?_,?_,done'⟩
    · intro write member
      rcases List.mem_append.mp member with early | late
      · exact sql write early
      · exact sql' write late
    · rw [whole',List.append_assoc]
    · rw [whole,List.append_nil]
      exact Step.converted_append_ok.mpr ⟨_,_,converted,converted',List.flatMap_append⟩

theorem last {next : α → σ → Traffic σ β} (first : step.Conveys rows t)
    (rest : ∀ a, t.result = .ok a → step.Conveys [] (next a t.stores)) :
    step.Conveys rows (t.bind next) := by
  have whole := first.bind rest
  rwa [List.append_nil] at whole

/-- Whatever is written is made of one of the rows. -/
theorem source (conveys : step.Conveys rows t) {write : String × List Parameters}
    (member : write ∈ t.writes) {p : Parameters} (within : p ∈ write.2) :
    ∃ row ∈ rows, step.convert row = .ok (some p) := by
  obtain ⟨_,read,unread,rfl,converted,_⟩ := conveys
  obtain ⟨row,found,made⟩ := Step.converted_source converted (List.mem_flatMap.mpr ⟨_,member,within⟩)
  exact ⟨row,List.mem_append_left _ found,made⟩

/-- Once the step has returned, what is made of any of the rows is written. -/
theorem written (conveys : step.Conveys rows t) {a : α} (returned : t.result = .ok a) {row : Row}
    (member : row ∈ rows) : ∃ found, step.convert row = .ok found ∧
      ∀ p, found = some p → p ∈ rowsInto step.insert t.writes := by
  obtain ⟨sql,read,unread,whole,converted,done⟩ := conveys
  have all : t.writes.filter (fun write => write.1 = step.insert.sql) = t.writes :=
    List.filter_eq_self.mpr fun write member => by simp [sql write member]
  rw [whole,done a returned,List.append_nil] at member
  rw [rowsInto,all]
  exact Step.converted_row converted member

end Step.Conveys

section Passage

variable {σ : Type} [Database σ] {options : Options} {w : World σ}

theorem Insert.put_writes (insert : Insert) (rows : List Parameters) (s : σ) :
    (∀ write ∈ (insert.put rows s).writes, write.1 = insert.sql) ∧
      (insert.put rows s).writes.flatMap Prod.snd = rows := by
  cases rows with
  | nil => exact ⟨nofun,rfl⟩
  | cons row rest =>
    unfold Insert.put
    dsimp only
    split <;> simp

theorem Step.pourBatch_conveys (step : Step) (batch : List Row) (s : σ) :
    step.Conveys batch (step.pourBatch batch s) := by
  unfold Step.pourBatch
  refine .idle rfl fun rows converted => ?_
  obtain ⟨sql,all⟩ := step.insert.put_writes rows s
  have put : step.Conveys batch (step.insert.put rows s) :=
    ⟨sql,batch,[],(List.append_nil _).symm,by rw [all]; exact converted,fun _ _ => rfl⟩
  -- Counting neither reads nor writes.
  exact put.last fun count _ => .idle rfl fun _ _ => .pure step count _

theorem Step.drain_conveys (step : Step) (options : Options) (batches : List (List Row))
    (written : Nat) (s : σ) :
    step.Conveys batches.flatten (step.drain options written batches s) := by
  induction batches generalizing written s with
  | nil => exact .idle rfl fun _ _ => .pure step written _
  | cons batch rest ih =>
    refine .idle rfl fun _ _ => ?_
    exact (step.pourBatch_conveys batch _).bind fun count _ => ih (written + count) _

/-- While `P` holds, every legacy cursor is served rows of its own, whatever came before. -/
structure Store.Snapshot (P : σ → Prop) (rowsOf : String → List Row) : Prop where
  kept : ∀ s, P s → ∀ request, P (Database.answer request s).2
  served : ∀ s, P s → ∀ cursor sql parameters reply,
    (Database.answer (.execute .legacy cursor sql parameters) s).1 = .ok reply →
      reply.rows = rowsOf cursor

variable {P : σ → Prop} {rowsOf : String → List Row}

/-- A step conveys the rows of its cursor, however far it comes. -/
theorem Step.run_conveys (snapshot : Snapshot P rowsOf) (step : Step) (options : Options)
    (holds : P w.stores) : step.Conveys (rowsOf step.cursor) (step.run options w).traffic := by
  rw [step.run_passage]
  unfold Step.passage
  split
  · refine .idle rfl fun reply answered => ?_
    have rows : reply.rows = rowsOf step.cursor := by
      refine snapshot.served w.stores holds step.cursor step.query step.parameters reply ?_
      simp only [Traffic.mapFailure,dealing] at answered
      cases found : (Database.answer (.execute .legacy step.cursor step.query step.parameters)
          w.stores).1 with
      | error fault => simp [found,Except.mapError] at answered
      | ok other => simpa [found,Except.mapError] using answered
    have conveyed (s : σ) := step.drain_conveys options (batches options.batchSize reply.rows) 0 s
    simp only [batches_flatten options.batchSize_pos] at conveyed
    rw [← rows]
    exact conveyed _
  · exact .fail step _ .linkClosed w.stores

/-- A script that is not to be replaced serves its own rows, whatever it is asked. -/
theorem Store.Scripts.snapshot (rows : List (String × List Row)) :
    Snapshot (fun s : Scripts => s.next = none ∧ s.legacy.rows = rows)
      fun cursor => (List.lookup cursor rows).getD [] where
  kept s holds request := by
    obtain ⟨single,same⟩ := Scripts.answer_keeps holds.1 request
    exact ⟨single,same.trans holds.2⟩
  served s holds cursor sql parameters reply answered := by
    obtain ⟨single,rfl⟩ := holds
    rw [Scripts.answer_legacy single rfl] at answered
    exact Script.answer_query answered

end Passage

section Identifiers

variable {row : Row} {found : Option Parameters}

theorem Step.rooms_id {options : Options} (made : (Step.rooms options).convert row = .ok found) :
    ∃ id p, found = some p ∧ row.find? "id" = some id ∧ List.lookup "id" p = some (.value id) := by
  obtain ⟨room,read,last⟩ := bind_eq_ok made
  cases last
  exact ⟨_,_,rfl,Room.ofRow_find? read,rfl⟩

theorem Step.adjustments_roomId {p : Parameters}
    (made : Step.adjustments.convert row = .ok (some p)) :
    ∃ id, row.find? "id" = some id ∧ List.lookup "room_id" p = some (.value id) := by
  obtain ⟨adjustment,read,last⟩ := bind_eq_ok made
  cases last
  exact ⟨_,Adjustment.ofRow_find? read,rfl⟩

end Identifiers

end RoomTransfer
