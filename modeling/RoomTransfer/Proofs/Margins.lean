import RoomTransfer.Proofs.Accounting
import RoomTransfer.Proofs.Batches
import RoomTransfer.Proofs.Reporting

/-! Margins between counters and the rows that were served. A batch that is booked may widen a
margin, and one that is broken off takes no more than a share of it. No part of a run comes behind a
part that failed and counts, so that a run ends with one broken batch at most. -/
namespace RoomTransfer

open Store Run

namespace Store

/-- The rows that a legacy cursor has served. -/
def fetched (cursor : String) (made : List Dealing) : Nat :=
  (made.map fun
    | (.fetch asked _ rows,.ok _) => if asked = cursor then rows else 0
    | _ => 0).sum

theorem fetched_append (cursor : String) (first second : List Dealing) :
    fetched cursor (first ++ second) = fetched cursor first + fetched cursor second := by
  simp [fetched]

end Store

theorem CountsWithin.of_append {first second : List Dealing}
    (within : CountsWithin (first ++ second)) : CountsWithin first :=
  fun dealing member => within dealing (List.mem_append_left _ member)

/-- Between counters, at a rate for each of them, and the rows that one cursor has served. -/
structure Margin where
  rate : Counter → Int
  cursor : String := ""
  served : Int := 0

namespace Margin

/-- A margin over dealings, as a quantity of runs over watched databases. -/
def quantity {σ : Type} (m : Margin) : Quantity (Watched σ) where
  rate := m.rate
  stored s := m.served * fetched m.cursor s.dealings

@[simp] theorem seen {σ : Type} (m : Margin) (effects : List Effect) :
    (m.quantity : Quantity (Watched σ)).seen effects = 0 := by
  simp [Quantity.seen,quantity]

/-- What a row that a cursor serves is worth. -/
def servedBy (m : Margin) (cursor : String) : Int := if cursor = m.cursor then m.served else 0

/-- With every batch of a step, the rows that are served for it hold the margin. A batch that is
broken off, behind some of its dropped rows, may take a loss. -/
structure Covers (m : Margin) (options : Options) (loss : Int) (step : Step) : Prop where
  broken : ∀ (batch : List Row) (dropped : Nat), batch.length ≤ options.batchSize →
    dropped ≤ batch.countP step.drops →
      0 ≤ m.servedBy step.cursor * batch.length + m.rate .eventsDropped * dropped + loss
  booked : ∀ (batch : List Row) (kept written : Nat),
    kept + batch.countP step.drops = batch.length → written ≤ kept →
      0 ≤ m.servedBy step.cursor * batch.length +
        m.rate .eventsDropped * (batch.countP step.drops : Nat) +
          tallied m.rate (step.tally batch.length written)

/-- The conduct that takes nothing of a margin, as long as inserts report no more than they pass. -/
def rising {σ : Type} (m : Margin) : Conduct (Watched σ) where
  allows _ := True
  moves u v := CountsWithin v.stores.dealings →
    CountsWithin u.stores.dealings ∧ m.quantity.held u ≤ m.quantity.held v
  refl _ within := ⟨within,Int.le_refl _⟩
  trans first second within := by
    obtain ⟨between,more⟩ := second within
    obtain ⟨before,some⟩ := first between
    exact ⟨before,Int.le_trans some more⟩

/-- A request that no margin knows of. -/
def isFree : Request → Bool
  | .fetch _ _ _ => false
  | _ => true

section Rising

variable {σ : Type} [Database σ] {m : Margin}

theorem after_dealings (w : World (Watched σ)) (request : Request) :
    (w.after request).stores.dealings =
      w.stores.dealings ++ [(request,(Database.answer request w.stores.stores).1)] := rfl

theorem held_free {request : Request} (free : isFree request = true) (w : World (Watched σ)) :
    m.quantity.held (w.after request) = m.quantity.held w := by
  have none : fetched m.cursor [(request,(Database.answer request w.stores.stores).1)] = 0 := by
    cases request <;> first | rfl | cases free
  change _ + m.served * (fetched m.cursor (w.after request).stores.dealings : Nat) = _
  rw [after_dealings,fetched_append,none]
  rfl

theorem rising_free {request : Request} (free : isFree request = true) (w : World (Watched σ)) :
    m.rising.moves w (w.after request) :=
  fun within => ⟨CountsWithin.of_append within,Int.le_of_eq (held_free free w).symm⟩

theorem rising_admitsSessions : (m.rising : Conduct (Watched σ)).AdmitsSessions := by
  refine ⟨fun _ _ => trivial,fun _ _ => trivial,fun w request session => rising_free ?_ w,
    fun _ _ within => ⟨within,Int.le_refl _⟩⟩
  cases request <;> first | rfl | cases session

end Rising

end Margin

/-- A part that returns takes nothing of a margin, and one that breaks off no more than a loss. -/
def Run.Sustains {σ α : Type} (m : Margin) (loss : Int) (x : Run (Watched σ) α) : Prop :=
  ∀ w, CountsWithin (x w).world.stores.dealings → CountsWithin w.stores.dealings ∧
    m.quantity.held w ≤ m.quantity.held (x w).world + loss ∧
      ∀ a, (x w).result = .ok a → m.quantity.held w ≤ m.quantity.held (x w).world

/-- A part takes no more of a margin than a loss, however it ends. -/
def Run.Spends {σ α : Type} (m : Margin) (loss : Int) (x : Run (Watched σ) α) : Prop :=
  ∀ w, CountsWithin (x w).world.stores.dealings → CountsWithin w.stores.dealings ∧
    m.quantity.held w ≤ m.quantity.held (x w).world + loss

theorem Run.bind_assoc {σ α β γ : Type} (x : Run σ α) (f : α → Run σ β) (g : β → Run σ γ) :
    x >>= f >>= g = x >>= fun a => f a >>= g := by
  funext w
  cases first : (x w).result with
  | error failure => simp only [bind_apply,first]
  | ok a => cases second : (f a (x w).world).result <;> simp [bind_apply,first,second]

section Rules

variable {σ α β : Type} {m : Margin} {loss : Int} {x : Run (Watched σ) α}

namespace Run

theorem Follows.sustains (follows : x.Follows m.rising) (lossy : 0 ≤ loss) :
    x.Sustains m loss := by
  intro w within
  obtain ⟨before,more⟩ := follows.world w within
  exact ⟨before,by omega,fun _ _ => more⟩

namespace Sustains

theorem bind {f : α → Run (Watched σ) β} (first : x.Sustains m loss)
    (rest : ∀ a, (f a).Sustains m loss) : (x >>= f).Sustains m loss := by
  intro w within
  cases result : (x w).result with
  | error failure =>
    rw [bind_of_error result] at within ⊢
    obtain ⟨before,least,_⟩ := first w within
    exact ⟨before,least,nofun⟩
  | ok a =>
    rw [bind_of_ok result] at within ⊢
    obtain ⟨between,least,more⟩ := rest a (x w).world within
    obtain ⟨before,_,kept⟩ := first w between
    have some := kept a result
    exact ⟨before,Int.le_trans some least,fun b returned => Int.le_trans some (more b returned)⟩

theorem ensuring {cleanup : Run (Watched σ) Unit} (body : x.Sustains m loss)
    (after : cleanup.Follows m.rising) : (ensuring x cleanup).Sustains m loss := by
  intro w within
  rw [ensuring_apply] at within ⊢
  dsimp only at within ⊢
  obtain ⟨between,kept⟩ := after.world _ within
  obtain ⟨before,least,more⟩ := body w between
  refine ⟨before,by omega,fun a returned => ?_⟩
  cases result : (x w).result with
  | error failure =>
    rw [result] at returned
    cases cleaned : (cleanup (x w).world).result <;> rw [cleaned] at returned <;> cases returned
  | ok b => exact Int.le_trans (more b result) kept

theorem spends (sustains : x.Sustains m loss) : x.Spends m loss := by
  intro w within
  obtain ⟨before,least,_⟩ := sustains w within
  exact ⟨before,least⟩

end Sustains

namespace Spends

theorem attempt (spends : x.Spends m loss) : (attempt x).Spends m loss := spends

/-- What takes nothing may come behind a part that spends. -/
theorem bind {f : α → Run (Watched σ) β} (first : x.Spends m loss)
    (rest : ∀ a, (f a).Follows m.rising) : (x >>= f).Spends m loss := by
  intro w within
  cases result : (x w).result with
  | error failure =>
    rw [bind_of_error result] at within ⊢
    exact first w within
  | ok a =>
    rw [bind_of_ok result] at within ⊢
    dsimp only at within ⊢
    obtain ⟨between,kept⟩ := (rest a).world _ within
    obtain ⟨before,least⟩ := first w between
    exact ⟨before,by omega⟩

theorem ensuring {cleanup : Run (Watched σ) Unit} (body : x.Spends m loss)
    (after : cleanup.Follows m.rising) : (ensuring x cleanup).Spends m loss :=
  body.attempt.bind fun result => after.bind fun _ => follows_ofExcept result

end Spends

/-- What takes nothing may come before a part that spends. -/
theorem Follows.spends {f : α → Run (Watched σ) β} (lossy : 0 ≤ loss)
    (follows : x.Follows m.rising) (rest : ∀ a, (f a).Spends m loss) : (x >>= f).Spends m loss := by
  intro w within
  cases result : (x w).result with
  | error failure =>
    rw [bind_of_error result] at within ⊢
    dsimp only at within ⊢
    obtain ⟨before,more⟩ := follows.world w within
    exact ⟨before,by omega⟩
  | ok a =>
    rw [bind_of_ok result] at within ⊢
    dsimp only at within ⊢
    obtain ⟨between,least⟩ := rest a _ within
    obtain ⟨before,more⟩ := follows.world w between
    exact ⟨before,by omega⟩

end Run

end Rules

section Batches

variable {σ : Type} {m : Margin} {step : Step} {w : World (Watched σ)} {options : Options}
  {loss : Int}

theorem Step.drop_world {q : Quantity (Watched σ)} (step : Step) (row : Row) :
    (step.drop row w).result = .ok () ∧ (step.drop row w).world.stores = w.stores ∧
      q.held (step.drop row w).world = q.held w + q.rate .eventsDropped := by
  have world : (step.drop row w).world = { w with state := { w.state with
      counters := w.state.counters.add .eventsDropped 1 } } := rfl
  refine ⟨rfl,rfl,?_⟩
  rw [world]
  simp only [Quantity.held,Counters.worth_add]
  omega

/-- What a batch that is prepared counts are the rows that it drops, up to where it breaks off. -/
theorem Step.prepare_drops {q : Quantity (Watched σ)} (step : Step) (batch : List Row) :
    (step.prepare batch w).world.stores = w.stores ∧ ∃ dropped ≤ batch.countP step.drops,
      q.held (step.prepare batch w).world = q.held w + q.rate .eventsDropped * dropped := by
  induction batch generalizing w with
  | nil => exact ⟨rfl,0,Nat.zero_le _,by simp [prepare]⟩
  | cons row rest ih =>
    cases converted : step.convert row with
    | error failure =>
      have broken : (step.prepare (row :: rest) w).world = w := by
        rw [prepare,converted]
        rfl
      rw [broken]
      exact ⟨rfl,0,Nat.zero_le _,by simp⟩
    | ok found =>
      have head : (Run.ofExcept (step.convert row) w).result = .ok found := by
        rw [converted]
        rfl
      have same : (Run.ofExcept (step.convert row) w).world = w := by
        rw [converted]
        rfl
      rw [prepare,bind_of_ok head,same]
      cases found with
      | some parameters =>
        have last : ((step.prepare rest >>= fun others => pure (parameters :: others) :
            Run (Watched σ) _) w).world = (step.prepare rest w).world := by
          rw [bind_apply]
          cases (step.prepare rest w).result <;> rfl
        obtain ⟨stores,dropped,most,held⟩ := ih (w := w)
        dsimp only
        rw [last,List.countP_cons]
        exact ⟨stores,dropped,Nat.le_add_right_of_le most,held⟩
      | none =>
        have drops : step.drops row = true := by simp [Step.drops,converted]
        obtain ⟨counted,kept,one⟩ := Step.drop_world (w := w) (q := q) step row
        obtain ⟨stores,dropped,most,held⟩ := ih (w := (step.drop row w).world)
        dsimp only
        rw [bind_of_ok counted]
        refine ⟨stores.trans kept,dropped + 1,?_,?_⟩
        · simp [drops,most]
        · rw [held,one,Int.natCast_add,Int.mul_add]
          omega

theorem Step.recordAll_still (counts : List (Counter × Int)) :
    (recordAll counts : Run (Watched σ) Unit).Follows (.keeping World.stores fun _ => True) := by
  induction counts with
  | nil => exact follows_pure ()
  | cons count rest ih => exact (follows_record fun _ _ => rfl).bind fun _ => ih

/-- Counts that are not negative are all booked. -/
theorem Step.recordAll_returns {counts : List (Counter × Int)}
    (counted : ∀ count ∈ counts, 0 ≤ count.2) : (recordAll counts w).result = .ok () := by
  induction counts generalizing w with
  | nil => rfl
  | cons count rest ih =>
    have least : ¬ count.2 < 0 := Int.not_lt.mpr (counted count (by simp))
    have one : (record count.1 count.2 w).result = .ok () := by
      simp [record,RunState.record,bind_apply,state,modifyState,least]
    rw [recordAll,bind_of_ok one]
    exact ih fun other member => counted other (List.mem_cons_of_mem count member)

/-- A batch of which no more is written than was read counts nothing below zero. -/
theorem Step.tally_nonneg (known : Step.Of options step) {read written : Nat}
    (most : written ≤ read) : ∀ count ∈ step.tally read written, 0 ≤ count.2 := by
  cases known <;> simp [Step.rooms,Step.adjustments,Step.events]
  omega

variable [Database σ]

/-- An insert that reports no more than it was passed writes no more, and no margin knows of it. -/
theorem Step.write_most (step : Step) (rows : List Parameters)
    (within : CountsWithin (step.insert.write rows w).world.stores.dealings) :
    CountsWithin w.stores.dealings ∧
      m.quantity.held (step.insert.write rows w).world = m.quantity.held w ∧
        ∀ written, (step.insert.write rows w).result = .ok written → written ≤ rows.length := by
  cases rows with
  | nil => exact ⟨within,rfl,fun written returned => Nat.le_of_eq (Except.ok.inj returned).symm⟩
  | cons row rest =>
    let request : Request := .insert step.insert.sql (row :: rest)
    have world : (step.insert.write (row :: rest) w).world = w.after request := by
      refine Eq.trans ?_ (ask_world request w)
      simp only [Insert.write,classify,bind_apply,mapFailure_apply,request]
      cases (ask (.insert step.insert.sql (row :: rest)) w).result <;> rfl
    rw [world] at within ⊢
    refine ⟨CountsWithin.of_append within,Margin.held_free rfl w,fun written returned => ?_⟩
    obtain ⟨reply,asked,told⟩ := bind_result_ok.mp returned
    have answered : (Database.answer request w.stores.stores).1 = .ok reply := by
      refine ask_answered (w := w) ?_
      rw [classify,mapFailure_apply] at asked
      cases replied : (ask request w).result with
      | error failure => simp [request,replied] at asked
      | ok other => simpa [request,replied] using asked
    obtain rfl := Except.ok.inj told
    have inserted : ⟨row :: rest,reply.count⟩ ∈
        insertions step.insert.sql (w.after request).stores.dealings := by
      rw [Margin.after_dealings,insertions_append,answered]
      simp [insertions,request]
    have fewer := within.count_le inserted
    rwa [← Insertion.written_eq_count] at fewer

/-- What has come of a batch is booked, or it is broken off behind some of its dropped rows. -/
theorem Step.transfer_books (known : Step.Of options step) (total : Nat) (batch : List Row)
    (within : CountsWithin (step.transfer total batch w).world.stores.dealings) :
    CountsWithin w.stores.dealings ∧
      ((∃ failure, (step.transfer total batch w).result = .error failure) ∧
        (∃ dropped ≤ batch.countP step.drops,
          m.quantity.held (step.transfer total batch w).world =
            m.quantity.held w + m.rate .eventsDropped * dropped) ∨
      ∃ kept written, kept + batch.countP step.drops = batch.length ∧ written ≤ kept ∧
        m.quantity.held (step.transfer total batch w).world = m.quantity.held w +
          m.rate .eventsDropped * (batch.countP step.drops : Nat) +
            tallied m.rate (step.tally batch.length written)) := by
  obtain ⟨stores,dropped,most,held⟩ := Step.prepare_drops (w := w) (q := m.quantity) step batch
  cases prepared : (step.prepare batch w).result with
  | error failure =>
    rw [transfer,bind_of_error prepared] at within ⊢
    dsimp only at within ⊢
    rw [stores] at within
    exact ⟨within,.inl ⟨⟨failure,rfl⟩,dropped,most,held⟩⟩
  | ok rows =>
    rw [transfer,bind_of_ok prepared] at within ⊢
    dsimp only at within ⊢
    have length := Step.prepare_length prepared
    have all := Step.prepare_adds (q := m.quantity) step batch w rows prepared
    cases wrote : (step.insert.write rows (step.prepare batch w).world).result with
    | error failure =>
      rw [bind_of_error wrote] at within ⊢
      obtain ⟨before,same,_⟩ := Step.write_most (m := m) step rows within
      rw [stores] at before
      exact ⟨before,.inl ⟨⟨failure,rfl⟩,dropped,most,same.trans held⟩⟩
    | ok written =>
      rw [bind_of_ok wrote] at within ⊢
      dsimp only at within ⊢
      let v := (step.insert.write rows (step.prepare batch w).world).world
      have booking : (recordAll (step.tally batch.length written) >>= fun _ =>
          note (.progressUpdate batch.length) >>= fun _ => pure (total + written) :
            Run (Watched σ) Nat).Follows (.keeping World.stores fun _ => True) :=
        (Step.recordAll_still _).bind fun _ => (follows_note trivial).bind fun _ => follows_pure _
      rw [booking.world v] at within
      obtain ⟨before,same,fewer⟩ := Step.write_most (m := m) step rows within
      have least := fewer written wrote
      have nonneg : ∀ count ∈ step.tally batch.length written, 0 ≤ count.2 :=
        Step.tally_nonneg known (by omega)
      have returned := Step.recordAll_returns (w := v) nonneg
      have counted := Step.recordAll_adds (q := m.quantity)
        (step.tally batch.length written) v () returned
      rw [stores] at before
      refine ⟨before,.inr ⟨rows.length,written,length,least,?_⟩⟩
      rw [bind_of_ok returned]
      rw [Margin.seen,Int.add_zero] at all counted
      exact counted.trans (by rw [same,all]; rfl)

/-- Rows that are served are on a margin, and those that are not are not. -/
theorem Step.serve_holds (step : Step) (options : Options) (rows : Nat)
    (within : CountsWithin (Link.serve (step.reading options) rows w).world.stores.dealings) :
    CountsWithin w.stores.dealings ∧
      ((∃ failure, (Link.serve (step.reading options) rows w).result = .error failure) ∧
        m.quantity.held (Link.serve (step.reading options) rows w).world = m.quantity.held w ∨
      (Link.serve (step.reading options) rows w).result = .ok () ∧
        m.quantity.held (Link.serve (step.reading options) rows w).world =
          m.quantity.held w + m.servedBy step.cursor * rows) := by
  let request : Request := .fetch step.cursor options.batchSize rows
  have held (answer : Except Fault Reply)
      (answered : (Database.answer request w.stores.stores).1 = answer) :
      m.quantity.held (w.after request) =
        m.quantity.held w + m.served * (fetched m.cursor [(request,answer)] : Nat) := by
    change _ + m.served * (fetched m.cursor (w.after request).stores.dealings : Nat) =
      _ + m.served * (fetched m.cursor w.stores.dealings : Nat) + _
    rw [Margin.after_dealings,fetched_append,answered,Int.natCast_add,Int.mul_add]
    exact (Int.add_assoc _ _ _).symm
  have world : (Link.serve (step.reading options) rows w).world = w.after request := by
    rw [Link.serve,mapFailure_apply]
    change (askRows request w).world = _
    unfold askRows
    dsimp only
    split <;> rfl
  have result : (Link.serve (step.reading options) rows w).result =
      ((Database.answer request w.stores.stores).1.map fun _ => ()).mapError fun fault =>
        Link.fetchFailure fault.failure := by
    rw [Link.serve,mapFailure_apply]
    change ((askRows request w).result).mapError Link.fetchFailure = _
    unfold askRows
    dsimp only
    split
    next answered =>
      have same : (Database.answer request w.stores.stores).1 = .ok _ := answered
      rw [same]
      rfl
    next answered =>
      have same : (Database.answer request w.stores.stores).1 = .error _ := answered
      rw [same]
      rfl
  rw [world] at within ⊢
  refine ⟨CountsWithin.of_append within,?_⟩
  cases answered : (Database.answer request w.stores.stores).1 with
  | error fault =>
    refine .inl ⟨⟨_,result.trans (by rw [answered]; rfl)⟩,?_⟩
    rw [held _ answered]
    simp [fetched,request]
  | ok reply =>
    refine .inr ⟨result.trans (by rw [answered]; rfl),?_⟩
    rw [held _ answered]
    by_cases ours : step.cursor = m.cursor <;> simp [fetched,request,Margin.servedBy,ours]

/-- A batch that is served and transferred keeps a margin that covers its step. -/
theorem Step.round_sustains (known : Step.Of options step) (covers : m.Covers options loss step)
    (lossy : 0 ≤ loss) (total : Nat) {batch : List Row} (fits : batch.length ≤ options.batchSize) :
    (Link.serve (step.reading options) batch.length >>= fun _ => step.transfer total batch :
      Run (Watched σ) Nat).Sustains m loss := by
  intro w within
  cases served : (Link.serve (step.reading options) batch.length w).result with
  | error failure =>
    rw [bind_of_error served] at within ⊢
    dsimp only at within ⊢
    obtain ⟨before,⟨_,held⟩ | ⟨asked,_⟩⟩ := Step.serve_holds (m := m) step options _ within
    · exact ⟨before,by omega,nofun⟩
    · exact absurd (served.symm.trans asked) nofun
  | ok _ =>
    rw [bind_of_ok served] at within ⊢
    dsimp only at within ⊢
    obtain ⟨between,outcome⟩ := Step.transfer_books (m := m) known total batch within
    obtain ⟨before,⟨⟨_,failed⟩,_⟩ | ⟨_,held⟩⟩ := Step.serve_holds (m := m) step options _ between
    · exact absurd (served.symm.trans failed) nofun
    rcases outcome with ⟨⟨_,broken⟩,dropped,most,left⟩ | ⟨kept,written,length,fewer,left⟩
    · have lost := covers.broken batch dropped fits most
      exact ⟨before,by omega,fun a returned => absurd (broken.symm.trans returned) nofun⟩
    · have won := covers.booked batch kept written length fewer
      exact ⟨before,by omega,fun _ _ => by omega⟩

theorem Step.consume_sustains (known : Step.Of options step) (covers : m.Covers options loss step)
    (lossy : 0 ≤ loss) (total : Nat) {batches : List (List Row)}
    (fits : ∀ batch ∈ batches, batch.length ≤ options.batchSize) :
    (Link.consume (step.reading options) step.transfer total batches :
      Run (Watched σ) Nat).Sustains m loss := by
  induction batches generalizing total with
  | nil =>
    have last : (Link.serve (step.reading options) 0 : Run (Watched σ) Unit).Follows m.rising := by
      refine fun w => ⟨fun within => ?_,fun _ _ => trivial⟩
      obtain ⟨before,⟨_,held⟩ | ⟨_,held⟩⟩ := Step.serve_holds (m := m) step options 0 within
      · exact ⟨before,by omega⟩
      · exact ⟨before,by simp [held]⟩
    exact (last.bind fun _ => follows_pure total).sustains lossy
  | cons batch rest ih =>
    have first := Step.round_sustains (σ := σ) known covers lossy total (fits batch (by simp))
    have whole := first.bind fun next =>
      ih next fun other member => fits other (List.mem_cons_of_mem batch member)
    rw [bind_assoc] at whole
    exact whole

/-- A step keeps a margin that covers it, up to the loss of one batch. -/
theorem Step.run_sustains (known : Step.Of options step) (covers : m.Covers options loss step)
    (lossy : 0 ≤ loss) : (step.run options : Run (Watched σ) Nat).Sustains m loss := by
  have opened : (Link.openCursor step.cursor : Run (Watched σ) Unit).Follows m.rising :=
    Link.connection_follows.bind fun _ => follows_note trivial
  have asked : (ask (.execute .legacy step.cursor step.query step.parameters) :
      Run (Watched σ) Reply).Follows m.rising :=
    follows_ask trivial (fun _ => trivial) (Margin.rising_free rfl)
  have fetched : (Link.fetch (step.reading options) step.transfer 0 : Run (Watched σ) Nat).Sustains
      m loss :=
    (opened.sustains lossy).bind fun _ => ((asked.mapFailure _).sustains lossy).bind fun reply =>
      Step.consume_sustains known covers lossy 0 (batches_fit options.batchSize_pos reply.rows)
  have closed : (note .progressClose : Run (Watched σ) Unit).Follows m.rising := follows_note trivial
  have told (written : Nat) : (state >>= fun s => log (.about Log.info step.entity
      (step.closing written s.counters) [("count",.int written)]) >>= fun _ => pure written :
        Run (Watched σ) Nat).Follows m.rising :=
    follows_state.bind fun _ => (follows_log trivial).bind fun _ => follows_pure written
  exact ((follows_note trivial).sustains lossy).bind fun _ =>
    (fetched.ensuring closed).bind fun written => (told written).sustains lossy

theorem transferEvents_sustains
    (covers : ∀ watermark, m.Covers options loss (.events options watermark)) (lossy : 0 ≤ loss) :
    (transferEvents options : Run (Watched σ) Nat).Sustains m loss := by
  have asked : (ask (.execute .target "" watermarkQuery .null) :
      Run (Watched σ) Reply).Follows m.rising :=
    follows_ask trivial (fun _ => trivial) (Margin.rising_free rfl)
  have read : (readWatermark : Run (Watched σ) Value).Follows m.rising :=
    asked.bind fun _ => follows_ofExcept _
  have marked (watermark : Value) : (modifyState fun s => { s with watermark } :
      Run (Watched σ) Unit).Follows m.rising :=
    follows_modifyState fun _ within => ⟨within,Int.le_refl _⟩
  exact (read.sustains lossy).bind fun watermark => ((marked watermark).sustains lossy).bind fun _ =>
    ((follows_ofExcept _).sustains lossy).bind fun _ =>
      ((follows_log trivial).sustains lossy).bind fun _ =>
        Step.run_sustains (.events watermark) (covers watermark) lossy

end Batches

namespace Migration

variable {σ : Type} [Database σ] {m : Margin} {settings : Settings} {loss : Int}
  {w : World (Watched σ)}

theorem steps_sustains (covers : ∀ step, Step.Of settings.options step → m.Covers settings.options loss step)
    (lossy : 0 ≤ loss) : (steps settings.options : Run (Watched σ) Unit).Sustains m loss := by
  have part (entity : String) {x : Run (Watched σ) Nat} (sustains : x.Sustains m loss) :
      (announced entity x).Sustains m loss :=
    ((follows_log trivial).sustains lossy).bind fun _ => sustains.bind fun _ =>
      (follows_pure ()).sustains lossy
  have rooms := part "room" (Step.run_sustains (σ := σ) .rooms (covers _ .rooms) lossy)
  have adjustments :=
    part "adjustment" (Step.run_sustains (σ := σ) .adjustments (covers _ .adjustments) lossy)
  have events := part "event" (transferEvents_sustains (σ := σ)
    (fun watermark => covers _ (.events watermark)) lossy)
  exact ((follows_note trivial).sustains lossy).bind fun _ => rooms.bind fun _ =>
    adjustments.bind fun _ => events

theorem transaction_spends (covers : ∀ step, Step.Of settings.options step →
    m.Covers settings.options loss step) (lossy : 0 ≤ loss) :
    (transaction (steps settings.options) : Run (Watched σ) Unit).Spends m loss := by
  have asked (request : Request) (free : Margin.isFree request = true) :
      (ask request : Run (Watched σ) Reply).Follows m.rising :=
    follows_ask trivial (fun _ => trivial) (Margin.rising_free free)
  refine (asked .begin rfl).spends lossy fun _ => ?_
  refine (steps_sustains covers lossy).spends.attempt.bind fun result => ?_
  cases result with
  | error failure => exact (follows_note trivial).bind fun _ => follows_ofExcept _
  | ok _ =>
    refine follows_state.bind fun s => ?_
    split
    · exact follows_note trivial
    · exact (asked .commit rfl).bind fun _ => follows_pure ()

theorem within_spends (covers : ∀ step, Step.Of settings.options step →
    m.Covers settings.options loss step) (lossy : 0 ≤ loss) :
    (Link.within settings.legacy (writeAll settings) : Run (Watched σ) Unit).Spends m loss := by
  have booked : (modifyState fun s => { s with committed := !s.dryRun } :
      Run (Watched σ) Unit).Follows m.rising :=
    follows_modifyState fun _ within => ⟨within,Int.le_refl _⟩
  have written : (writeAll settings : Run (Watched σ) Unit).Spends m loss :=
    (openTarget_follows Margin.rising_admitsSessions settings).spends lossy fun _ =>
      ((transaction_spends covers lossy).bind fun _ => booked).ensuring
        (closeTarget_follows Margin.rising_admitsSessions)
  exact (Link.acquire_follows Margin.rising_admitsSessions _).spends lossy fun _ =>
    written.ensuring (Link.release_follows Margin.rising_admitsSessions)

variable {w : World σ}

/-- However a run ends that had its credentials, a margin that covers its steps is kept, up to the
loss of one batch. -/
theorem margin_kept (covers : ∀ step, Step.Of settings.options step →
    m.Covers settings.options loss step) (lossy : 0 ≤ loss) (ready : Ready settings)
    (within : CountsWithin (dealings settings w)) :
    0 ≤ (migrate settings w).world.state.counters.worth m.rate +
      m.served * fetched m.cursor (dealings settings w) + loss := by
  let v := (start (watched w)).world
  let u := (Link.within settings.legacy (writeAll settings) v).world
  have head : session settings (watched w) = _ := Run.bind_of_ok start_result
  have last : ∃ result, (migrate settings (watched w)).world = (ending result u).world := by
    refine ⟨(session settings (watched w)).result,?_⟩
    rw [migrate_of_ready ready,head]
  obtain ⟨result,last⟩ := last
  have counters : (migrate settings w).world.state.counters = u.state.counters := by
    have alike := congrArg (fun o => o.state.counters) (migrate_watched settings w).world
    rw [last] at alike
    have kept : (ending result u).world.state.counters = u.state.counters :=
      ending_keeps (fun _ _ _ _ => rfl) result u
    exact alike.trans kept
  have made : dealings settings w = u.stores.dealings := by
    unfold dealings
    rw [last,ending_stores]
  have fresh : m.quantity.held v = 0 := by
    have none : v.stores.dealings = [] := congrArg Watched.dealings start_kept.1
    change v.state.counters.worth m.rate + m.served * (fetched m.cursor v.stores.dealings : Nat) = 0
    rw [none,start_counters,Counters.worth_zero]
    simp [fetched]
  rw [made] at within ⊢
  obtain ⟨_,least⟩ := within_spends covers lossy v within
  rw [fresh] at least
  rw [counters]
  exact least

end Migration

end RoomTransfer
