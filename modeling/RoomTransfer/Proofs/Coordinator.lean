import RoomTransfer.Proofs.Connections
import RoomTransfer.Proofs.Settlement

/-! Runs of one coordinator, one after another. A run may break off anywhere and leaves its state
behind for the next one, which starts from there and still goes as if it were the first. -/
namespace RoomTransfer

open Store

/-- A coordinator between its calls: its settings, and what the last call left of the state, the
clock and the link. -/
structure Coordinator where
  settings : Settings
  state : RunState
  clock : List Timestamp
  linkOpen : Bool

namespace Coordinator

variable {σ : Type}

def fresh (settings : Settings) (dryRun : Bool) (clock : List Timestamp) : Coordinator :=
  { settings, state := { dryRun }, clock, linkOpen := false }

def world (c : Coordinator) (stores : σ) : World σ := ⟨stores,c.state,c.clock,c.linkOpen⟩

def left (c : Coordinator) (w : World σ) : Coordinator :=
  { c with state := w.state, clock := w.clock, linkOpen := w.linkOpen }

variable [Database σ]

def migrate (c : Coordinator) (stores : σ) : Outcome σ Unit :=
  Migration.migrate c.settings (c.world stores)

/-- The outcomes of calls one after another, each where the one before left the coordinator. -/
def outcomes (c : Coordinator) : List σ → List (Outcome σ Unit)
  | [] => []
  | stores :: rest => c.migrate stores :: outcomes (c.left (c.migrate stores).world) rest

/-- The outcomes of the same calls where each has a new coordinator; only the clock goes on. -/
def alone (settings : Settings) (dryRun : Bool) : List Timestamp → List σ → List (Outcome σ Unit)
  | _,[] => []
  | clock,stores :: rest =>
    let o := (fresh settings dryRun clock).migrate stores
    o :: alone settings dryRun o.world.clock rest

end Coordinator

namespace Migration

variable {σ : Type} [Database σ] {settings : Settings} {w : World σ}

theorem migrate_closes (closed : w.linkOpen = false) :
    (migrate settings w).world.linkOpen = false := by
  by_cases ready : Ready settings
  · have ended (result : Except Failure Unit) : (ending result : Run σ Unit).Follows booking :=
      ending_follows booking_admitsBooking (fun _ => trivial) result
    have whole : session settings w = _ := Run.bind_of_ok start_result
    rw [migrate_of_ready ready]
    refine ((ended _).world _).trans ?_
    rw [whole]
    exact within_closed settings _
  · obtain ⟨_,refused⟩ := migrate_of_unready (w := w) ready
    rw [refused]
    exact closed

end Migration

namespace Coordinator

variable {σ : Type} {c : Coordinator}

/-- Between calls the link is closed, and a coordinator whose calls are all refused has the state
that it was made with. -/
structure Rested (c : Coordinator) : Prop where
  closed : c.linkOpen = false
  untouched : ¬ Migration.Ready c.settings → c.state = { dryRun := c.state.dryRun }

theorem fresh_rested (settings : Settings) (dryRun : Bool) (clock : List Timestamp) :
    (fresh settings dryRun clock).Rested := ⟨rfl,fun _ => rfl⟩

variable [Database σ]

theorem Rested.kept (rested : c.Rested) (stores : σ) :
    (c.left (c.migrate stores).world).Rested := by
  refine ⟨Migration.migrate_closes rested.closed,fun (unready : ¬ Migration.Ready c.settings) => ?_⟩
  obtain ⟨_,refused⟩ := Migration.migrate_of_unready (w := c.world stores) unready
  have same : (c.migrate stores).world = c.world stores := congrArg Outcome.world refused
  rw [same]
  exact rested.untouched unready

/-- A call on a rested coordinator goes as one on a new coordinator. -/
theorem Rested.migrate_eq (rested : c.Rested) (stores : σ) :
    c.migrate stores = (fresh c.settings c.state.dryRun c.clock).migrate stores := by
  obtain ⟨settings,state,clock,linkOpen⟩ := c
  obtain ⟨rfl,untouched⟩ := rested
  by_cases ready : Migration.Ready settings
  · exact (Migration.migrate_of_state (w := ⟨stores,state,clock,false⟩) ready
      { dryRun := state.dryRun } rfl).symm
  · have same : state = { dryRun := state.dryRun } := untouched ready
    rw [same]
    rfl

theorem Rested.outcomes_eq (rested : c.Rested) (calls : List σ) :
    c.outcomes calls = alone c.settings c.state.dryRun c.clock calls := by
  induction calls generalizing c with
  | nil => rfl
  | cons stores rest ih =>
    have flag : (c.migrate stores).world.state.dryRun = c.state.dryRun :=
      Migration.migrate_keeps_flag
    have later : (c.left (c.migrate stores).world).outcomes rest =
        alone c.settings c.state.dryRun (c.migrate stores).world.clock rest :=
      flag ▸ ih (rested.kept stores)
    rw [outcomes,alone,later,rested.migrate_eq stores]

/-- Calls on one coordinator do not influence each other. Whatever became of the ones before, each
has the result, the state, the trace and the records that it has on a new coordinator. -/
theorem calls_independent (settings : Settings) (dryRun : Bool) (clock : List Timestamp)
    (calls : List σ) :
    (fresh settings dryRun clock).outcomes calls = alone settings dryRun clock calls :=
  (fresh_rested settings dryRun clock).outcomes_eq calls

end Coordinator

end RoomTransfer
