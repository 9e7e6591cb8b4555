import RoomTransfer.Proofs.Course

/-! Traffic: what a run is to the databases alone. Traces, records and counts are left out; how
the run ends, what the databases are afterwards and what was written to them remain. -/
namespace RoomTransfer

open Store

/-- The inserts in a trace, each with its statement and its rows. -/
def writesOf (trace : List Item) : List (String × List Parameters) :=
  trace.filterMap fun
    | .request (.insert sql rows) => some (sql,rows)
    | _ => none

@[simp] theorem writesOf_append (first second : List Item) :
    writesOf (first ++ second) = writesOf first ++ writesOf second := List.filterMap_append

structure Traffic (σ α : Type) where
  result : Except Failure α
  stores : σ
  writes : List (String × List Parameters)

namespace Traffic

variable {σ α β : Type}

def pure (a : α) (stores : σ) : Traffic σ α := ⟨.ok a,stores,[]⟩

def fail (failure : Failure) (stores : σ) : Traffic σ α := ⟨.error failure,stores,[]⟩

/-- What comes next sees what the first part left, and does not happen where that failed. -/
def bind (first : Traffic σ α) (next : α → σ → Traffic σ β) : Traffic σ β :=
  match first.result with
  | .error failure => ⟨.error failure,first.stores,first.writes⟩
  | .ok a => ⟨(next a first.stores).result,(next a first.stores).stores,
      first.writes ++ (next a first.stores).writes⟩

@[simp] theorem pure_bind (a : α) (stores : σ) (next : α → σ → Traffic σ β) :
    (pure a stores).bind next = next a stores := rfl

theorem bind_assoc {γ : Type} (first : Traffic σ α) (second : α → σ → Traffic σ β)
    (third : β → σ → Traffic σ γ) : (first.bind second).bind third =
      first.bind fun a stores => (second a stores).bind third := by
  obtain ⟨result,stores,writes⟩ := first
  cases result with
  | error failure => rfl
  | ok a =>
    simp only [bind]
    cases (second a stores).result <;> simp

@[simp] theorem bind_pure (first : Traffic σ α) : first.bind pure = first := by
  obtain ⟨result,stores,writes⟩ := first
  cases result <;> simp [bind,pure]

theorem bind_holds {P : σ → Prop} {first : Traffic σ α} {next : α → σ → Traffic σ β}
    (before : P first.stores) (after : ∀ a s, P s → P (next a s).stores) :
    P (first.bind next).stores := by
  unfold bind
  cases first.result with
  | error failure => exact before
  | ok a => exact after a _ before

/-- The traffic of a check. -/
def ofExcept (result : Except Failure α) (stores : σ) : Traffic σ α := ⟨result,stores,[]⟩

end Traffic

/-- The traffic returns a value and leaves the databases in this state. -/
def Traffic.Ends {σ α : Type} (t : Traffic σ α) (a : α) (s : σ) : Prop :=
  t.result = .ok a ∧ t.stores = s

namespace Traffic

variable {σ α β : Type} {s s' : σ} {a b : α}

theorem ends_pure : (pure a s).Ends b s' ↔ a = b ∧ s = s' := by
  simp [Ends,pure]

theorem ends_ofExcept {result : Except Failure α} :
    (ofExcept result s).Ends a s' ↔ result = .ok a ∧ s = s' := Iff.rfl

theorem ends_bind {t : Traffic σ α} {next : α → σ → Traffic σ β} {b : β} :
    (t.bind next).Ends b s' ↔ ∃ a s, t.Ends a s ∧ (next a s).Ends b s' := by
  obtain ⟨result,stores,writes⟩ := t
  cases result with
  | error failure => simp [Ends,bind]
  | ok a =>
    simp only [Ends,bind,Except.ok.injEq]
    constructor
    · exact fun ended => ⟨a,stores,⟨rfl,rfl⟩,ended⟩
    · rintro ⟨_,_,⟨rfl,rfl⟩,ended⟩
      exact ended

end Traffic

def Outcome.traffic {σ α : Type} (o : Outcome σ α) : Traffic σ α :=
  ⟨o.result,o.world.stores,writesOf (traceOf o.effects)⟩

namespace Run

variable {σ α β : Type} {w : World σ}

theorem traffic_bind {x : Run σ α} {f : α → Run σ β} (next : α → σ → Traffic σ β)
    (rest : ∀ a, (x w).result = .ok a →
      (f a (x w).world).traffic = next a (x w).world.stores) :
    ((x >>= f) w).traffic = (x w).traffic.bind next := by
  rw [bind_apply]
  cases result : (x w).result with
  | error failure => simp [Outcome.traffic,Traffic.bind,result]
  | ok a =>
    have later := rest a result
    simp only [Outcome.traffic,Traffic.bind,result,traceOf_append,writesOf_append] at later ⊢
    rw [← later]

/-- A part with no traffic of its own hands on the databases that it found. -/
theorem traffic_bind_of_pure {x : Run σ α} {f : α → Run σ β} {a : α} {t : Traffic σ β}
    (still : (x w).traffic = .pure a w.stores)
    (rest : ∀ v : World σ, v.stores = w.stores → (f a v).traffic = t) :
    ((x >>= f) w).traffic = t := by
  obtain ⟨result,stores,writes⟩ := Traffic.mk.inj still
  rw [bind_apply,result,← rest (x w).world stores]
  simp [Outcome.traffic,writes]

/-- An effect that is no insert leaves the world to what comes next. -/
theorem traffic_effect_bind {e : Effect} {f : Unit → Run σ β}
    (none : writesOf (traceOf [e]) = []) : ((effect e >>= f) w).traffic = (f () w).traffic := by
  have split : ((effect e >>= f) w).effects = [e] ++ (f () w).effects := rfl
  unfold Outcome.traffic
  rw [split,traceOf_append,writesOf_append,none]
  rfl

theorem traffic_modifyState_bind {g : RunState → RunState} {f : Unit → Run σ β} :
    ((modifyState g >>= f) w).traffic = (f () { w with state := g w.state }).traffic := rfl

theorem ofExcept_world (result : Except Failure α) : (ofExcept result w).world = w := by
  cases result <;> rfl

theorem traffic_ofExcept (result : Except Failure α) :
    (ofExcept result w).traffic = .ofExcept result w.stores := by
  cases result <;> rfl

theorem traffic_mapFailure_of_pure {x : Run σ α} {a : α} (g : Failure → Failure)
    (still : (x w).traffic = .pure a w.stores) :
    (mapFailure g x w).traffic = .pure a w.stores := by
  obtain ⟨result,stores,writes⟩ := Traffic.mk.inj still
  rw [mapFailure_apply,result,Outcome.traffic,writes,stores]
  rfl

theorem traffic_record (key : Counter) (count : Int) : (record key count w).traffic =
    if count < 0 then .fail (.negativeCount count) w.stores else .pure () w.stores := by
  by_cases negative : count < 0
  · simp [record,bind_apply,state,RunState.record,negative,fail,Outcome.traffic,Traffic.fail,
      traceOf,writesOf]
  · simp [record,bind_apply,state,RunState.record,negative,modifyState,Outcome.traffic,
      Traffic.pure,traceOf,writesOf]

/-- A clean-up with no traffic of its own leaves that of the body. -/
theorem traffic_ensuring {x : Run σ α} {cleanup : Run σ Unit}
    (still : ∀ v, (cleanup v).traffic = .pure () v.stores) :
    (ensuring x cleanup w).traffic = (x w).traffic := by
  obtain ⟨result,stores,writes⟩ := Traffic.mk.inj (still (x w).world)
  simp only [Outcome.traffic,ensuring_apply,traceOf_append,writesOf_append]
  rw [result,stores,writes,List.append_nil]
  rfl

end Run

end RoomTransfer
