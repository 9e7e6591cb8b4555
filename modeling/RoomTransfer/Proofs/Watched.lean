import RoomTransfer.Proofs.Settlement

/-! Watched databases answer as they do unwatched and keep a record of it. A run over watched
databases goes as it goes over the databases themselves, so the record tells of that run. -/
namespace RoomTransfer

open Store

namespace Store

/-- A request with its answer. -/
abbrev Dealing := Request × Except Fault Reply

/-- Databases with a record of their dealings. -/
structure Watched (σ : Type) where
  stores : σ
  dealings : List Dealing := []

instance {σ : Type} [Database σ] : Database (Watched σ) :=
  ⟨fun request s =>
    let (answer,stores) := Database.answer request s.stores
    (answer,⟨stores,s.dealings ++ [(request,answer)]⟩)⟩

end Store

/-- A world whose databases are watched from now on. -/
def watched {σ : Type} (w : World σ) : World (Watched σ) :=
  { stores := ⟨w.stores,[]⟩, state := w.state, clock := w.clock, linkOpen := w.linkOpen }

/-- All that a run deals with its databases, in order. -/
def Migration.dealings {σ : Type} [Database σ] (settings : Settings) (w : World σ) : List Dealing :=
  (migrate settings (watched w)).world.stores.dealings

/-- What is seen of watched databases is what happens to them unwatched. -/
def Traffic.Mirrors {σ α : Type} (t : Traffic (Watched σ) α) (u : Traffic σ α) : Prop :=
  u = ⟨t.result,t.stores.stores,t.writes⟩

namespace Traffic

variable {σ α β : Type} {t : Traffic (Watched σ) α} {u : Traffic σ α}

theorem Mirrors.bind {next : α → Watched σ → Traffic (Watched σ) β} {next' : α → σ → Traffic σ β}
    (first : t.Mirrors u) (rest : ∀ a s, (next a s).Mirrors (next' a s.stores)) :
    (t.bind next).Mirrors (u.bind next') := by
  obtain ⟨result,stores,writes⟩ := t
  obtain rfl := first
  cases result with
  | error failure => rfl
  | ok a =>
    have later := rest a stores
    simp only [Mirrors,Traffic.bind] at later ⊢
    rw [later]

theorem Mirrors.catching {caught : Failure → Except Failure β}
    {next : α → Watched σ → Traffic (Watched σ) β} {next' : α → σ → Traffic σ β}
    (first : t.Mirrors u) (rest : ∀ a s, (next a s).Mirrors (next' a s.stores)) :
    (t.catching caught next).Mirrors (u.catching caught next') := by
  obtain ⟨result,stores,writes⟩ := t
  obtain rfl := first
  cases result with
  | error failure => rfl
  | ok a =>
    have later := rest a stores
    simp only [Mirrors,Traffic.catching] at later ⊢
    rw [later]

theorem Mirrors.mapFailure (first : t.Mirrors u) (f : Failure → Failure) :
    (t.mapFailure f).Mirrors (u.mapFailure f) := by
  obtain rfl := first
  rfl

theorem Mirrors.ensuring {cleanup : Watched σ → Traffic (Watched σ) Unit}
    {cleanup' : σ → Traffic σ Unit} (body : t.Mirrors u)
    (cleaned : ∀ s, (cleanup s).Mirrors (cleanup' s.stores)) :
    (t.ensuring cleanup).Mirrors (u.ensuring cleanup') := by
  obtain rfl := body
  have after := cleaned t.stores
  simp only [Mirrors,Traffic.ensuring] at after ⊢
  rw [after]

end Traffic

section Mirrors

variable {σ : Type} [Database σ] {s : Watched σ}

theorem dealing_mirrors (request : Request) :
    (dealing request s).Mirrors (dealing request s.stores) := rfl

theorem Insert.put_mirrors (insert : Insert) (rows : List Parameters) :
    (insert.put rows s).Mirrors (insert.put rows s.stores) := by
  cases rows with
  | nil => rfl
  | cons row rest =>
    have answer : Database.answer (.insert insert.sql (row :: rest)) s =
        ((Database.answer (.insert insert.sql (row :: rest)) s.stores).1,
          ⟨(Database.answer (.insert insert.sql (row :: rest)) s.stores).2,s.dealings ++
            [(_,(Database.answer (.insert insert.sql (row :: rest)) s.stores).1)]⟩) := rfl
    unfold Insert.put Traffic.Mirrors
    rw [answer]
    dsimp only
    cases (Database.answer (.insert insert.sql (row :: rest)) s.stores).1 <;> rfl

theorem Step.pourBatch_mirrors (step : Step) (batch : List Row) :
    (step.pourBatch batch s).Mirrors (step.pourBatch batch s.stores) :=
  Traffic.Mirrors.bind rfl fun rows _ => (step.insert.put_mirrors rows).bind fun _ _ =>
    Traffic.Mirrors.bind rfl fun _ _ => rfl

theorem Step.drain_mirrors (step : Step) (options : Options) (batches : List (List Row))
    (written : Nat) : (step.drain options written batches s).Mirrors
      (step.drain options written batches s.stores) := by
  have drawn (rows : Nat) (s : Watched σ) :
      (step.draw options rows s).Mirrors (step.draw options rows s.stores) :=
    (dealing_mirrors _).mapFailure _
  induction batches generalizing written s with
  | nil => exact (drawn 0 s).bind fun _ _ => rfl
  | cons batch rest ih =>
    exact (drawn _ s).bind fun _ _ => (step.pourBatch_mirrors batch).bind fun _ _ => ih _

theorem Step.passage_mirrors (step : Step) (options : Options) (linkOpen : Bool) :
    (step.passage options linkOpen s).Mirrors (step.passage options linkOpen s.stores) := by
  cases linkOpen with
  | false => rfl
  | true =>
    exact ((dealing_mirrors _).mapFailure _).bind fun _ _ => step.drain_mirrors options _ 0

theorem stepsPassage_mirrors (options : Options) (linkOpen : Bool) :
    (stepsPassage options linkOpen s).Mirrors (stepsPassage options linkOpen s.stores) := by
  have events (s : Watched σ) : (eventsPassage options linkOpen s).Mirrors
      (eventsPassage options linkOpen s.stores) :=
    (dealing_mirrors _).bind fun _ _ => Traffic.Mirrors.bind rfl fun _ _ =>
      Traffic.Mirrors.bind rfl fun _ _ => Step.passage_mirrors _ options linkOpen
  exact (Step.passage_mirrors _ options linkOpen).bind fun _ _ =>
    (Step.passage_mirrors _ options linkOpen).bind fun _ _ => (events _).bind fun _ _ => rfl

/-- A session goes watched as it goes unwatched. -/
theorem Migration.sessionPassage_mirrors (settings : Settings) (linkOpen dryRun : Bool) :
    (sessionPassage settings linkOpen dryRun s).Mirrors
      (sessionPassage settings linkOpen dryRun s.stores) := by
  have acquired : (acquirePassage settings.legacy linkOpen s).Mirrors
      (acquirePassage settings.legacy linkOpen s.stores) := by
    cases linkOpen with
    | true => rfl
    | false => exact ((dealing_mirrors _).mapFailure _).bind fun _ _ => rfl
  have written (s : Watched σ) :
      (transactionPassage (stepsPassage settings.options true) dryRun s).Mirrors
        (transactionPassage (stepsPassage settings.options true) dryRun s.stores) := by
    refine (dealing_mirrors _).bind fun _ _ => (stepsPassage_mirrors _ true).catching fun _ _ => ?_
    cases dryRun with
    | true => rfl
    | false => exact (dealing_mirrors _).bind fun _ _ => rfl
  have opened (s : Watched σ) : (openPassage settings s).Mirrors (openPassage settings s.stores) :=
    ((dealing_mirrors _).mapFailure _).bind fun _ _ => rfl
  have closed (s : Watched σ) : (closePassage s).Mirrors (closePassage s.stores) :=
    (dealing_mirrors _).bind fun _ _ => rfl
  exact acquired.bind fun _ _ =>
    ((opened _).bind fun _ _ => (written _).ensuring closed).ensuring fun _ => rfl

end Mirrors

end RoomTransfer
