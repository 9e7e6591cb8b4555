import RoomTransfer.Proofs.Conversion
import RoomTransfer.Proofs.Passage
import RoomTransfer.Proofs.Tables

/-! Databases that may fail at any request, over tables that are kept as they were last committed.
What is answered is arbitrary; only what inserts and transactions make of the tables is known. All
that a transaction can do to the kept tables is to put the rows of its three steps into them, and
that only where its commit is granted. -/
namespace RoomTransfer

open Store

namespace Store

/-- Databases with any answers. Each request uses up one of the faults, where there are any left,
and is refused if that is one. -/
structure Faulty where
  serve : Request → Reply
  faults : List (Option Fault)
  kept : String → Table
  working : String → Table

namespace Faulty

/-- What a request makes of the tables where it is not refused from outside. -/
def perform (request : Request) (s : Faulty) : Except Fault Faulty :=
  match request with
  | .insert sql rows => match insertOf? sql with
    | none => .ok s
    | some i => ((s.working i.table).insertAll i rows).map fun (_,t) =>
      { s with working := Function.update s.working i.table t }
  | .begin => .ok { s with working := s.kept }
  | .commit => .ok { s with kept := s.working }
  | _ => .ok s

def answer (request : Request) (s : Faulty) : Except Fault Reply × Faulty :=
  let spent := { s with faults := s.faults.tail }
  match s.faults.head?.join with
  | some fault => (.error fault,spent)
  | none => match perform request spent with
    | .error fault => (.error fault,spent)
    | .ok after => (.ok (s.serve request),after)

instance : Database Faulty := ⟨answer⟩

/-- The answers are the same, and so is what is kept. -/
structure Steady (s s' : Faulty) : Prop where
  serve : s'.serve = s.serve
  kept : s'.kept = s.kept

/-- Rows were inserted one after another, and nothing is different but for that. -/
structure Poured (i : Insert) (made : List Parameters) (s s' : Faulty) : Prop extends Steady s s' where
  working : ∃ n t, (s.working i.table).insertAll i made = .ok (n,t) ∧
    s'.working = Function.update s.working i.table t

variable {s s' u : Faulty} {request : Request} {i : Insert} {made more : List Parameters}

theorem Steady.refl : Steady s s := ⟨rfl,rfl⟩

theorem Steady.trans (first : Steady s u) (second : Steady u s') : Steady s s' :=
  ⟨second.serve.trans first.serve,second.kept.trans first.kept⟩

theorem Poured.nil (faults : List (Option Fault)) : Poured i [] s { s with faults } :=
  ⟨⟨rfl,rfl⟩,0,_,rfl,(Function.update_eq_self _ _).symm⟩

theorem Poured.append (first : Poured i made s u) (second : Poured i more u s') :
    Poured i (made ++ more) s s' := by
  obtain ⟨n,t,done,working⟩ := first.working
  obtain ⟨m,t',done',working'⟩ := second.working
  rw [working,Function.update_self] at done'
  rw [working,Function.update_idem] at working'
  exact ⟨first.toSteady.trans second.toSteady,n + m,t',
    Table.insertAll_append.mpr ⟨n,m,t,done,done',rfl⟩,working'⟩

theorem answer_cases (request : Request) (s : Faulty) : ∃ faults,
    (∃ fault, Database.answer request s = (.error fault,{ s with faults })) ∨
      ∃ s', perform request { s with faults } = .ok s' ∧
        Database.answer request s = (.ok (s.serve request),s') := by
  refine ⟨s.faults.tail,?_⟩
  change (∃ fault, answer request s = _) ∨ ∃ s', _ ∧ answer request s = _
  unfold answer
  cases s.faults.head?.join with
  | some fault => exact .inl ⟨fault,rfl⟩
  | none =>
    cases performed : perform request { s with faults := s.faults.tail } with
    | error fault => exact .inl ⟨fault,by simp only [performed]⟩
    | ok after => exact .inr ⟨after,rfl,by simp only [performed]⟩

theorem perform_steady (others : request ≠ .commit) (done : perform request s = .ok s') :
    Steady s s' := by
  cases request with
  | commit => exact absurd rfl others
  | insert sql rows =>
    unfold perform at done
    cases known : insertOf? sql with
    | none =>
      simp only [known,Except.ok.injEq] at done
      exact done ▸ .refl
    | some i =>
      cases inserted : (s.working i.table).insertAll i rows with
      | error fault => simp [known,inserted,Except.map] at done
      | ok written =>
        simp only [known,inserted,Except.map,Except.ok.injEq] at done
        exact done ▸ ⟨rfl,rfl⟩
  | _ =>
    cases done
    exact ⟨rfl,rfl⟩

theorem answer_steady (others : request ≠ .commit) : Steady s (Database.answer request s).2 := by
  obtain ⟨faults,⟨fault,refused⟩ | ⟨after,performed,granted⟩⟩ := answer_cases request s
  · rw [refused]
    exact ⟨rfl,rfl⟩
  · rw [granted]
    have steady := perform_steady others performed
    exact ⟨steady.serve,steady.kept⟩

end Faulty

end Store

open Faulty

variable {s s' : Faulty}

section Steady

theorem Store.dealing_steady {request : Request} (others : request ≠ .commit) :
    Steady s (dealing request s).stores := answer_steady others

/-- Parts that keep the databases steady do so one after another. -/
theorem Traffic.bind_steady {α β : Type} {first : Traffic Faulty α}
    {next : α → Faulty → Traffic Faulty β} (before : Steady s first.stores)
    (after : ∀ a u, Steady u (next a u).stores) : Steady s (first.bind next).stores :=
  Traffic.bind_holds before fun a u steady => steady.trans (after a u)

theorem Step.pourBatch_steady (step : Step) (batch : List Row) :
    Steady s (step.pourBatch batch s).stores :=
  step.pourBatch_holds (fun _ steady _ _ => steady.trans (answer_steady nofun)) batch .refl

theorem Step.drain_steady (step : Step) (options : Options) (batches : List (List Row))
    (written : Nat) : Steady s (step.drain options written batches s).stores := by
  induction batches generalizing written s with
  | nil => exact Traffic.bind_steady (answer_steady nofun) fun _ _ => .refl
  | cons batch rest ih =>
    exact Traffic.bind_steady (answer_steady nofun) fun _ _ =>
      Traffic.bind_steady (step.pourBatch_steady batch) fun _ _ => ih _

theorem Step.passage_steady (step : Step) (options : Options) (linkOpen : Bool) :
    Steady s (step.passage options linkOpen s).stores := by
  cases linkOpen with
  | false => exact .refl
  | true =>
    exact Traffic.bind_steady (answer_steady nofun) fun _ _ => step.drain_steady options _ 0

theorem stepsPassage_steady (options : Options) (linkOpen : Bool) :
    Steady s (stepsPassage options linkOpen s).stores := by
  have events (s : Faulty) : Steady s (eventsPassage options linkOpen s).stores :=
    Traffic.bind_steady (answer_steady nofun) fun _ _ => Traffic.bind_steady .refl fun _ _ =>
      Traffic.bind_steady .refl fun _ _ => Step.passage_steady _ options linkOpen
  exact Traffic.bind_steady (Step.passage_steady _ options linkOpen) fun _ _ =>
    Traffic.bind_steady (Step.passage_steady _ options linkOpen) fun _ _ =>
      Traffic.bind_steady (events _) fun _ _ => .refl

end Steady

section Poured

variable {n : Nat} {step : Step} {options : Options}

theorem Store.dealing_ends {request : Request} {reply : Reply}
    (ended : (dealing request s).Ends reply s') : reply = s.serve request ∧
      ∃ faults, perform request { s with faults } = .ok s' := by
  obtain ⟨faults,⟨fault,refused⟩ | ⟨after,performed,granted⟩⟩ := answer_cases request s
  · simp [Traffic.Ends,dealing,refused] at ended
  · simp only [Traffic.Ends,dealing,granted,mapError_ok,Except.ok.injEq] at ended
    obtain ⟨rfl,rfl⟩ := ended
    exact ⟨rfl,faults,performed⟩

/-- The rows that a step asks for. -/
def Step.question (step : Step) : Request :=
  .execute .legacy step.cursor step.query step.parameters

theorem Insert.put_poured {insert : Insert} (known : insert ∈ inserts) {rows : List Parameters}
    (ended : (insert.put rows s).Ends n s') : Poured insert rows s s' := by
  cases rows with
  | nil =>
    obtain ⟨_,rfl⟩ := Traffic.ends_pure.mp ended
    exact .nil s.faults
  | cons row rest =>
    unfold Insert.put at ended
    obtain ⟨faults,⟨fault,refused⟩ | ⟨after,performed,granted⟩⟩ :=
      answer_cases (.insert insert.sql (row :: rest)) s
    · simp [Traffic.Ends,refused] at ended
    · simp only [Traffic.Ends,granted] at ended
      obtain ⟨_,rfl⟩ := ended
      have others : Request.insert insert.sql (row :: rest) ≠ .commit := by
        intro same
        cases same
      have steady := perform_steady others performed
      simp only [perform,insertOf?_sql insert known] at performed
      cases inserted : (s.working insert.table).insertAll insert (row :: rest) with
      | error fault => simp [inserted,Except.map] at performed
      | ok written =>
        simp only [inserted,Except.map,Except.ok.injEq] at performed
        exact ⟨⟨steady.serve,steady.kept⟩,written.1,written.2,inserted,by rw [← performed]⟩

theorem Step.pourBatch_poured (known : step.insert ∈ inserts) {batch : List Row}
    (ended : (step.pourBatch batch s).Ends n s') :
    ∃ made, step.converted batch = .ok made ∧ Poured step.insert made s s' := by
  unfold Step.pourBatch at ended
  simp only [Traffic.ends_bind,Traffic.ends_ofExcept,Traffic.ends_pure] at ended
  obtain ⟨made,_,⟨converted,rfl⟩,_,_,put,_,_,⟨_,rfl⟩,_,rfl⟩ := ended
  exact ⟨made,converted,Insert.put_poured known put⟩

theorem Step.drain_poured (known : step.insert ∈ inserts) {batches : List (List Row)}
    {written : Nat} (ended : (step.drain options written batches s).Ends n s') :
    ∃ made, step.converted batches.flatten = .ok made ∧ Poured step.insert made s s' := by
  have drawn {rows : Nat} {reply : Reply} {s u : Faulty}
      (ended : (step.draw options rows s).Ends reply u) : Poured step.insert [] s u := by
    obtain ⟨_,faults,⟨⟩⟩ := dealing_ends (Traffic.mapFailure_ends.mp ended)
    exact .nil faults
  induction batches generalizing written s with
  | nil =>
    obtain ⟨_,_,draw,ended⟩ := Traffic.ends_bind.mp ended
    obtain ⟨_,rfl⟩ := Traffic.ends_pure.mp ended
    exact ⟨[],rfl,drawn draw⟩
  | cons batch rest ih =>
    obtain ⟨_,_,draw,ended⟩ := Traffic.ends_bind.mp ended
    obtain ⟨_,_,batched,ended⟩ := Traffic.ends_bind.mp ended
    obtain ⟨one,converted,poured⟩ := Step.pourBatch_poured known batched
    obtain ⟨two,converted',later⟩ := ih ended
    exact ⟨one ++ two,Step.converted_append_ok.mpr ⟨one,two,converted,converted',rfl⟩,
      ((drawn draw).append poured).append later⟩

theorem Step.passage_poured (known : step.insert ∈ inserts)
    (ended : (step.passage options true s).Ends n s') :
    ∃ made, step.converted (s.serve step.question).rows = .ok made ∧
      Poured step.insert made s s' := by
  unfold Step.passage at ended
  rw [if_pos rfl] at ended
  obtain ⟨reply,_,asked,ended⟩ := Traffic.ends_bind.mp ended
  obtain ⟨rfl,faults,⟨⟩⟩ := dealing_ends (Traffic.mapFailure_ends.mp asked)
  obtain ⟨made,converted,poured⟩ := Step.drain_poured known ended
  rw [batches_flatten options.batchSize_pos] at converted
  exact ⟨made,converted,(Poured.nil faults).append poured⟩

theorem eventsPassage_poured (ended : (eventsPassage options true s).Ends n s') :
    ∃ made, Poured (Step.eventInsert options.watermarkMode) made s s' := by
  unfold eventsPassage at ended
  simp only [Traffic.ends_bind,Traffic.ends_ofExcept] at ended
  obtain ⟨_,_,asked,watermark,_,⟨_,rfl⟩,_,_,⟨_,rfl⟩,ended⟩ := ended
  obtain ⟨_,faults,⟨⟩⟩ := dealing_ends asked
  have known : (Step.events options watermark).insert ∈ inserts := eventInsert_known options
  obtain ⟨made,_,poured⟩ := Step.passage_poured known ended
  exact ⟨made,(Poured.nil faults).append poured⟩

end Poured

/-- A commit: the rows of the three steps are in the tables, those of the rooms made from these
rows, and no other table is different. -/
structure Received (options : Options) (rooms : List Row) (before after : String → Table) : Prop where
  rooms : ∃ made n, plainRooms options rooms = .ok made ∧
    (before "room").insertAll .rooms made = .ok (n,after "room")
  adjustments : ∃ made n, (before "adjustment").insertAll .adjustments made =
    .ok (n,after "adjustment")
  events : ∃ made n, (before "event").insertAll (Step.eventInsert options.watermarkMode) made =
    .ok (n,after "event")
  others : ∀ table, table ≠ "room" → table ≠ "adjustment" → table ≠ "event" →
    after table = before table

section Transaction

variable {options : Options} {dryRun : Bool}

theorem stepsPassage_received (ended : (stepsPassage options true s).Ends () s') :
    Received options (s.serve (Step.rooms options).question).rows s.working s'.working := by
  unfold stepsPassage at ended
  simp only [Traffic.ends_bind,Traffic.ends_pure] at ended
  obtain ⟨_,u,rooms,_,v,adjustments,_,_,events,_,rfl⟩ := ended
  obtain ⟨one,converted,poured⟩ := Step.passage_poured rooms_known rooms
  obtain ⟨two,_,poured'⟩ := Step.passage_poured adjustments_known adjustments
  obtain ⟨three,poured''⟩ := eventsPassage_poured events
  obtain ⟨n,t,done,working⟩ := poured.working
  obtain ⟨m,t',done',working'⟩ := poured'.working
  obtain ⟨k,t'',done'',working''⟩ := poured''.working
  rw [eventInsert_table] at done'' working''
  -- Each step finds its own table as it was before all of them.
  have roomTable : (Step.rooms options).insert.table = "room" := rfl
  have adjustmentTable : Step.adjustments.insert.table = "adjustment" := rfl
  rw [roomTable] at done working
  rw [adjustmentTable] at done' working'
  rw [working,Function.update_of_ne (by decide)] at done'
  rw [working',Function.update_of_ne (by decide),working,Function.update_of_ne (by decide)] at done''
  rw [working'',working',working]
  rw [Step.rooms_converted] at converted
  constructor
  · refine ⟨one,n,converted,?_⟩
    rw [Function.update_of_ne (by decide),Function.update_of_ne (by decide),Function.update_self]
    exact done
  · refine ⟨two,m,?_⟩
    rw [Function.update_of_ne (by decide),Function.update_self]
    exact done'
  · refine ⟨three,k,?_⟩
    rw [Function.update_self]
    exact done''
  · intro other room adjustment event
    rw [Function.update_of_ne event,Function.update_of_ne adjustment,Function.update_of_ne room]

namespace Migration

/-- A real transaction that returns because its steps have has put their rows into the kept tables. -/
theorem transaction_received
    (block : ((dealing .begin s).bind fun _ => stepsPassage options true).result = .ok ())
    (returned : (transactionPassage (stepsPassage options true) false s).result = .ok ()) :
    Received options (s.serve (Step.rooms options).question).rows s.kept
      (transactionPassage (stepsPassage options true) false s).stores.kept := by
  generalize left : (transactionPassage (stepsPassage options true) false s).stores = s'
  have ended : (transactionPassage (stepsPassage options true) false s).Ends () s' := ⟨returned,left⟩
  rw [transactionPassage_of_returned block] at ended
  simp only [Traffic.ends_bind,Traffic.ends_pure,Bool.false_eq_true,if_false] at ended
  obtain ⟨_,_,⟨_,_,begun,steps⟩,_,_,committed,_,rfl⟩ := ended
  obtain ⟨_,faults,⟨⟩⟩ := dealing_ends begun
  obtain ⟨_,faults',⟨⟩⟩ := dealing_ends committed
  exact stepsPassage_received steps

/-- A transaction that is not committed keeps what was kept before. -/
theorem transaction_steady : Steady s (transactionPassage (stepsPassage options true) dryRun s).stores ∨
    ((dealing .begin s).bind fun _ => stepsPassage options true).result = .ok () ∧ dryRun = false ∧
      (transactionPassage (stepsPassage options true) dryRun s).result = .ok () := by
  have before : Steady s ((dealing .begin s).bind fun _ => stepsPassage options true).stores :=
    Traffic.bind_steady (answer_steady nofun) fun _ _ => stepsPassage_steady options true
  cases left : ((dealing .begin s).bind fun _ => stepsPassage options true).result with
  | error failure =>
    rw [transactionPassage_of_failed left]
    exact .inl before
  | ok _ =>
    rw [transactionPassage_of_returned left]
    generalize (dealing .begin s).bind (fun _ => stepsPassage options true) = t at before left
    obtain ⟨_,u,writes⟩ := t
    cases left
    cases dryRun with
    | true => exact .inl before
    | false =>
      obtain ⟨faults,⟨fault,refused⟩ | ⟨after,_,granted⟩⟩ := answer_cases .commit u
      · refine .inl ?_
        simp only [Traffic.bind,dealing,refused,mapError_error,Bool.false_eq_true,if_false]
        exact ⟨before.serve,before.kept⟩
      · refine .inr ⟨rfl,rfl,?_⟩
        simp [Traffic.bind,dealing,granted,Traffic.pure]

end Migration

end Transaction

end RoomTransfer
