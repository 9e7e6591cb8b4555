import RoomTransfer.Proofs.Likeness

/-! A dry run does the work of a real one. The flag is read at the end of the transaction and in
what is logged, and nowhere else: up to that end the two runs cannot be told apart, and where one
of them does not get there neither does the other. -/
namespace RoomTransfer

open Store

def World.flagged {σ : Type} (w : World σ) (dryRun : Bool) : World σ :=
  { w with state := { w.state with dryRun } }

namespace Migration

section Alike

variable {σ τ : Type} [Database σ] [Database τ] {l : Likeness σ τ} {settings : Settings}
  {w : World σ}

theorem transaction_like {body : Run σ Unit} {body' : Run τ Unit} (alike : body.Alike l body')
    (short : ∀ reply, (Run.ask .begin w).result = .ok reply →
      (body (Run.ask .begin w).world).result ≠ .ok ()) :
    (transaction body w).Like l (transaction body' (l.world w)) := by
  refine Run.like_bind (Run.alike_ask .begin w) fun reply begun => ?_
  refine Run.like_bind (Run.like_attempt (alike _)) fun result left => ?_
  cases result with
  | error failure => exact (Run.alike_note _).bind (fun _ => Run.alike_ofExcept _) _
  | ok _ => exact absurd (Except.ok.inj left) (short reply begun)

theorem session_like (ready : Ready settings) (short : ¬ Completes settings w) :
    (session settings w).Like l (session settings (l.world w)) := by
  have prepare := preparing_alike (l := l) settings w
  cases prepared : (preparing settings w).result with
  | error failure =>
    rw [session_of_unprepared prepared,session_of_unprepared (prepare.result.trans prepared)]
    exact Run.like_ensuring prepare release_alike
  | ok _ =>
    have unwritten (reply : Reply)
        (begun : (Run.ask .begin (preparing settings w).world).result = .ok reply) :
        (steps settings.options (Run.ask .begin (preparing settings w).world).world).result ≠
          .ok () := by
      intro left
      have opened := opened_iff.mpr ⟨ready,prepared,reply,begun⟩
      refine short (completes_iff.mpr ⟨opened,?_⟩)
      unfold block
      rw [opening_world opened]
      exact left
    have writes : (writing settings (preparing settings w).world).Like l
        (writing settings (preparing settings (l.world w)).world) := by
      rw [prepare.world]
      exact Run.like_bind (transaction_like (steps_alike _) unwritten) fun _ _ => claim_alike _
    obtain ⟨result,world,trace⟩ := Run.like_ensuring writes cleanUp_alike
    rw [session_of_prepared prepared,session_of_prepared (prepare.result.trans prepared)]
    refine ⟨result,world,?_⟩
    simp only [traceOf_append,prepare.trace,trace]

theorem migrate_like (short : ¬ Completes settings w) :
    (migrate settings w).Like l (migrate settings (l.world w)) := by
  by_cases ready : Ready settings
  · obtain ⟨result,world,trace⟩ := session_like (l := l) ready short
    have ended := ending_alike (l := l) (session settings w).result (session settings w).world
    rw [migrate_of_ready ready,migrate_of_ready ready,result,world]
    refine ⟨ended.result,ended.world,?_⟩
    simp only [traceOf_append,trace,ended.trace]
  · unfold migrate
    cases legacy : settings.requireLegacy with
    | error failure => exact ⟨rfl,rfl,rfl⟩
    | ok _ =>
      cases target : settings.requireTarget with
      | error failure => exact ⟨rfl,rfl,rfl⟩
      | ok _ => exact absurd ⟨legacy,target⟩ ready

end Alike

variable {σ : Type} [Database σ] {settings : Settings} {w : World σ}

/-- A run fails before all of its steps have returned. That its block is left with the demand to roll
back is no failure: the run goes on behind its transaction. -/
def BreaksOff (settings : Settings) (w : World σ) : Prop :=
  ¬ Completes settings w ∧ ¬ Undone settings w

/-- How a dry run compares with a real one. -/
structure SameWork (settings : Settings) (w : World σ) (dry real : Outcome σ Unit) : Prop where
  /-- The steps of both return, or those of neither. -/
  completes : Completes settings (w.flagged true) ↔ Completes settings (w.flagged false)
  /-- Runs that break off end with one failure, after one trace, in states that differ in the dry-run
  flag alone. -/
  short : BreaksOff settings (w.flagged false) →
    (∃ failure, dry.result = .error failure ∧ real.result = .error failure) ∧
      traceOf dry.effects = traceOf real.effects ∧
      dry.world.state = { real.world.state with dryRun := true } ∧ real.world.state.dryRun = false
  /-- Runs that are told to undo their steps end in one way, after one trace, in states that differ in
  the dry-run flag and in the claim of a commit, which the dry run never makes. -/
  undone : Undone settings (w.flagged false) →
    dry.result = real.result ∧ traceOf dry.effects = traceOf real.effects ∧
      dry.world.state = { real.world.state with dryRun := true, committed := false } ∧
      real.world.state.dryRun = false
  /-- Otherwise the traces part at the item that ends the transaction. -/
  whole : Completes settings (w.flagged false) → ∃ front behind behind',
    traceOf real.effects = front ++ .request .commit :: behind ∧
      traceOf dry.effects = front ++ .rollback "Rollback" :: behind' ∧
      ∀ item ∈ front, item.endsTransaction = false
  /-- The work is the same to the counters and the watermark. -/
  work : Completes settings (w.flagged false) →
    dry.world.state.counters = real.world.state.counters ∧
      dry.world.state.watermark = real.world.state.watermark
  /-- A dry run commits nothing and does not claim to. -/
  uncommitted : (traceOf dry.effects).any Item.isCommit = false
  unclaimed : Ready settings → dry.world.state.committed = false

theorem dry_uncommitted (settings : Settings) (dry : w.state.dryRun = true) :
    (traceOf (migrate settings w).effects).any Item.isCommit = false := by
  cases opened : (opening settings w).result with
  | ok _ =>
    obtain ⟨after,whole⟩ := bracketed opened
    rw [whole.commits,dry]
    cases (block settings w).result <;> rfl
  | error failure =>
    obtain ⟨_,_,inert⟩ := unopened_inert opened
    rw [List.any_eq_false]
    intro item member commit
    have ends := (inert item member).1
    simp [Item.endsTransaction,commit] at ends

/-- A run that claims a commit was real, and has returned from its transaction. -/
theorem transacted_of_claimed (ready : Ready settings)
    (claimed : (migrate settings w).world.state.committed = true) :
    (preparing settings w).result = .ok () ∧
      (transaction (steps settings.options) (preparing settings w).world).result = .ok () ∧
        w.state.dryRun = false := by
  rw [migrate_of_ready ready] at claimed
  have flagged := ((ending_committed _).mp claimed).1
  cases prepared : (preparing settings w).result with
  | error failure => exact absurd ((unprepared_committed prepared).symm.trans flagged) nofun
  | ok _ =>
    rw [prepared_committed prepared] at flagged
    obtain ⟨returned,real⟩ := (writing_flag preparing_committed).mp flagged
    exact ⟨rfl,returned,((preparing_quietly settings).world w).symm.trans real⟩

theorem BreaksOff.raises (broken : BreaksOff settings w) :
    ∃ failure, (migrate settings w).result = .error failure := by
  cases left : (migrate settings w).result with
  | ok _ => exact absurd (completes_of_returned left) (not_or.mpr broken)
  | error failure => exact ⟨failure,rfl⟩

theorem BreaksOff.unclaimed (broken : BreaksOff settings w) (ready : Ready settings) :
    (migrate settings w).world.state.committed = false := by
  cases claimed : (migrate settings w).world.state.committed with
  | false => rfl
  | true =>
    obtain ⟨prepared,returned,_⟩ := transacted_of_claimed ready claimed
    exact absurd (transacted_completes ready prepared returned) (not_or.mpr broken)

section Ready

/-! The dry run goes from the real world seen as that of a dry run, and from its own just so. -/

theorem dry_migrate (ready : Ready settings) : migrate settings (w.flagged true) =
    migrate settings (Likeness.dry.world (w.flagged false)) :=
  (migrate_of_state ready (Likeness.dry.state (w.flagged false).state) rfl).symm

theorem dry_opening (ready : Ready settings) : opening settings (w.flagged true) =
    opening settings (Likeness.dry.world (w.flagged false)) :=
  (opening_of_state ready (Likeness.dry.state (w.flagged false).state) rfl).symm

theorem dry_preparing (settings : Settings) (w : World σ) : preparing settings (w.flagged true) =
    preparing settings (Likeness.dry.world (w.flagged false)) :=
  (preparing_of_state (Likeness.dry.state (w.flagged false).state) rfl).symm

theorem dry_completes (ready : Ready settings) :
    Completes settings (w.flagged true) ↔ Completes settings (w.flagged false) := by
  have alike : Completes settings (Likeness.dry.world (w.flagged false)) ↔ _ := completes_alike
  unfold Completes at alike ⊢
  rw [dry_opening ready]
  exact alike

theorem dry_block (ready : Ready settings) :
    (block settings (w.flagged false)).Like .dry (block settings (w.flagged true)) := by
  unfold block
  rw [dry_opening ready]
  exact block_like settings (w.flagged false)

theorem dry_like (ready : Ready settings) (short : ¬ Completes settings (w.flagged false)) :
    (migrate settings (w.flagged false)).Like .dry (migrate settings (w.flagged true)) := by
  rw [dry_migrate ready]
  exact migrate_like short

/-- All before the end of the transaction goes alike, and its end looks at the flag. -/
theorem traces_part (ready : Ready settings) (whole : Completes settings (w.flagged false)) :
    ∃ front behind behind',
      traceOf (migrate settings (w.flagged false)).effects = front ++ .request .commit :: behind ∧
        traceOf (migrate settings (w.flagged true)).effects =
            front ++ .rollback "Rollback" :: behind' ∧
          ∀ item ∈ front, item.endsTransaction = false := by
  obtain ⟨opened,left⟩ := completes_iff.mp whole
  obtain ⟨opened',left'⟩ := completes_iff.mp ((dry_completes ready).mpr whole)
  have prepare : (preparing settings (w.flagged false)).Like .dry
      (preparing settings (w.flagged true)) := by
    rw [dry_preparing]
    exact preparing_alike settings (w.flagged false)
  obtain ⟨behind,real⟩ := bracketed opened
  obtain ⟨behind',dry⟩ := bracketed opened'
  rw [left] at real
  rw [left',prepare.trace,(dry_block ready).trace] at dry
  refine ⟨_,behind,behind',?_,?_,real.open_within (List.append_nil _).symm⟩
  · rw [real.shape,List.append_assoc]
    rfl
  · refine dry.shape.trans ?_
    rw [List.append_assoc]
    rfl

/-- What is read of the state of steps that all return, apart from the two flags and what is told of
the end of a run, is the same at the end of both. -/
theorem dry_keeps {β : Type} (ready : Ready settings) (whole : Completes settings (w.flagged false))
    (view : RunState → β) (blind : ∀ s finishedAt error committed,
      view { s with finishedAt, error, committed } = view s)
    (unflagged : ∀ s, view ((Likeness.dry : Likeness σ σ).state s) = view s) :
    view (migrate settings (w.flagged true)).world.state =
      view (migrate settings (w.flagged false)).world.state := by
  rw [migrate_state_keeps blind whole,migrate_state_keeps blind ((dry_completes ready).mpr whole),
    (dry_block ready).world]
  exact unflagged _

end Ready

theorem unready_same_work (unready : ¬ Ready settings) : SameWork settings w
    (migrate settings (w.flagged true)) (migrate settings (w.flagged false)) := by
  have refused : ∃ failure, ∀ w : World σ, migrate settings w = ⟨.error failure,w,[]⟩ := by
    unfold migrate
    cases legacy : settings.requireLegacy with
    | error failure => exact ⟨failure,fun _ => rfl⟩
    | ok _ =>
      cases target : settings.requireTarget with
      | error failure => exact ⟨failure,fun _ => rfl⟩
      | ok _ => exact absurd ⟨legacy,target⟩ unready
  have unopened (w : World σ) : (opening settings w).result ≠ .ok () :=
    fun opened => unready (opened_iff.mp opened).1
  obtain ⟨failure,refused⟩ := refused
  rw [refused,refused]
  constructor
  case completes => exact iff_of_false (fun whole => unopened _ whole.1) fun whole => unopened _ whole.1
  case short => exact fun _ => ⟨⟨failure,rfl,rfl⟩,rfl,rfl,rfl⟩
  case undone => exact fun undone => absurd undone.1 (unopened _)
  case whole => exact fun whole => absurd whole.1 (unopened _)
  case work => exact fun whole => absurd whole.1 (unopened _)
  case uncommitted => rfl
  case unclaimed => exact fun ready => absurd ready unready

/-- Over any databases, from any world, a dry run does the work of a real one. -/
theorem dry_run_same_work (settings : Settings) (w : World σ) : SameWork settings w
    (migrate settings (w.flagged true)) (migrate settings (w.flagged false)) := by
  by_cases ready : Ready settings
  case neg => exact unready_same_work ready
  have flag : (migrate settings (w.flagged false)).world.state.dryRun = false := migrate_keeps_flag
  constructor
  case completes => exact dry_completes ready
  case short =>
    intro broken
    have alike := dry_like ready broken.1
    obtain ⟨failure,raised⟩ := broken.raises
    have unclaimed := broken.unclaimed ready
    refine ⟨⟨failure,alike.result.trans raised,raised⟩,alike.trace,?_,flag⟩
    rw [alike.world]
    generalize (migrate settings (w.flagged false)).world = v at unclaimed
    simp only [Likeness.world,Likeness.state,Likeness.dry,unclaimed]
  case undone =>
    intro undone
    have alike := dry_like ready undone.not_completes
    exact ⟨alike.result,alike.trace,congrArg World.state alike.world,flag⟩
  case whole => exact traces_part ready
  case work =>
    intro whole
    constructor
    · exact dry_keeps ready whole RunState.counters (fun _ _ _ _ => rfl) fun _ => rfl
    · exact dry_keeps ready whole RunState.watermark (fun _ _ _ _ => rfl) fun _ => rfl
  case uncommitted => exact dry_uncommitted settings rfl
  case unclaimed =>
    intro ready
    cases claimed : (migrate settings (w.flagged true)).world.state.committed with
    | false => rfl
    | true =>
      obtain ⟨_,_,real⟩ := transacted_of_claimed ready claimed
      cases real

end Migration

end RoomTransfer
