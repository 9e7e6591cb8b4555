import RoomTransfer.Proofs.Conversion
import RoomTransfer.Proofs.Forgiving

/-! The cause of a run's failure and the closing of its sessions. That the legacy session cannot be
closed is only logged. A target that cannot be closed takes the place of whatever broke the
transaction: the run then tells nothing else. -/
namespace RoomTransfer

open Store

namespace Migration

variable {σ : Type} [Database σ] {settings : Settings} {w : World σ} {cause : Failure}

/-- What broke the transaction of a run once it had begun: a step failed, or the target refused to
commit. -/
inductive Broken (settings : Settings) (w : World σ) (cause : Failure) : Prop where
  | step (opened : (opening settings w).result = .ok ())
      (raised : (block settings w).result = .error cause)
  | commit (opened : (opening settings w).result = .ok ())
      (returned : (block settings w).result = .ok ()) (real : w.state.dryRun = false)
      (refused : (Run.ask .commit (block settings w).world).result = .error cause)

def written (settings : Settings) (w : World σ) : World σ :=
  (writing settings (preparing settings w).world).world

def targetClosed (settings : Settings) (w : World σ) : Except Fault Reply :=
  (Database.answer (.close .target) (written settings w).stores).1

/-- How the legacy store answers to being closed after it. -/
def legacyClosed (settings : Settings) (w : World σ) : Except Fault Reply :=
  (Database.answer (.close .legacy) ((written settings w).after (.close .target)).stores).1

theorem Broken.opened (broken : Broken settings w cause) : (opening settings w).result = .ok () := by
  cases broken <;> assumption

theorem Broken.writing_failed (broken : Broken settings w cause)
    (undemanded : cause.isRollback = false) :
    (writing settings (preparing settings w).world).result = .error cause := by
  obtain ⟨_,_,reply,begun⟩ := opened_iff.mp broken.opened
  have world := opening_world broken.opened
  have transacted : (transaction (steps settings.options) (preparing settings w).world).result =
      .error cause := by
    cases broken with
    | step opened raised =>
      rw [block,world] at raised
      rw [transaction_failed begun raised,passOn,undemanded]
      rfl
    | commit opened returned real refused =>
      have real := (block_dryRun opened).trans real
      rw [block,world] at returned real refused
      rw [transaction_committed begun returned real,refused]
      rfl
  exact congrArg Outcome.result (Run.bind_of_error transacted)

theorem closeTarget_apply (v : World σ) : (closeTarget v).world = v.after (.close .target) ∧
    (closeTarget v).result = match (Database.answer (.close .target) v.stores).1 with
      | .ok _ => .ok ()
      | .error fault => .error fault.failure := by
  unfold closeTarget
  rw [Run.bind_apply]
  unfold Run.ask
  dsimp only
  cases (Database.answer (.close .target) v.stores).1 <;> exact ⟨rfl,rfl⟩

/-- A database failure while the link is closed goes no further. -/
theorem release_returns {v : World σ} (lenient : ∀ fault,
    (Database.answer (.close .legacy) v.stores).1 = .error fault → fault.failure.isDatabase = true) :
    (Link.release v).result = .ok () := by
  cases isOpen : v.linkOpen with
  | false => simp [Link.release,Run.bind_apply,Run.world,isOpen]
  | true =>
    rw [release_open isOpen]
    cases answered : (Database.answer (.close .legacy) v.stores).1 with
    | ok reply => rfl
    | error fault => simp [released,lenient fault answered]

/-- What is left of the cause once the target has been asked to close. -/
def surviving (cause : Failure) : Except Fault Reply → Failure
  | .ok _ => cause
  | .error fault => fault.failure

theorem Broken.session_failed (broken : Broken settings w cause)
    (undemanded : cause.isRollback = false)
    (lenient : ∀ fault, legacyClosed settings w = .error fault → fault.failure.isDatabase = true) :
    (session settings w).result = .error (surviving cause (targetClosed settings w)) := by
  obtain ⟨_,prepared,_⟩ := opened_iff.mp broken.opened
  obtain ⟨left,answered⟩ := closeTarget_apply (written settings w)
  have released : (Link.release (closeTarget (written settings w)).world).result = .ok () := by
    rw [left]
    exact release_returns lenient
  have closed : (cleanUp (written settings w)).result = (closeTarget (written settings w)).result := by
    rw [cleanUp,Run.ensuring_apply,released]
    rfl
  rw [session_of_prepared prepared]
  simp only [Run.ensuring_apply]
  change ((cleanUp (written settings w)).result.bind fun _ => _) = _
  rw [closed,answered,broken.writing_failed undemanded]
  change _ = Except.error (surviving cause (Database.answer (.close .target) _).1)
  cases (Database.answer (.close .target) (written settings w).stores).1 <;> rfl

/-- A run whose transaction broke books what survived the closing of the target. -/
theorem Broken.booked (broken : Broken settings w cause) (undemanded : cause.isRollback = false)
    (clock : Universal w.clock)
    (lenient : ∀ fault, legacyClosed settings w = .error fault → fault.failure.isDatabase = true)
    (told : (surviving cause (targetClosed settings w)).isBooked = true) :
    Booked ((surviving cause (targetClosed settings w)).classified .transactionFailed)
      (migrate settings w) := by
  obtain ⟨ready,_⟩ := opened_iff.mp broken.opened
  have left := broken.session_failed undemanded lenient
  rw [session_result_passage] at left
  exact migrate_booked ready clock left told

/-- What a run tells of the cause that broke its transaction, where its sessions fail to close with
failures of the databases at most. -/
structure Told (settings : Settings) (w : World σ) (cause : Failure) : Prop where
  /-- Once the target is closed the cause is told, whatever becomes of the legacy session. -/
  cause_told : ∀ reply, targetClosed settings w = .ok reply →
    Booked (cause.classified .transactionFailed) (migrate settings w)
  /-- A target that fails to close hides the cause. -/
  cause_hidden : ∀ fault, targetClosed settings w = .error fault →
    Booked (.transactionFailed fault.failure.message) (migrate settings w)

theorem Broken.hidden (broken : Broken settings w cause) (undemanded : cause.isRollback = false)
    (clock : Universal w.clock)
    (lenient : ∀ fault, legacyClosed settings w = .error fault → fault.failure.isDatabase = true)
    {fault : Fault} (lost : targetClosed settings w = .error fault)
    (database : fault.failure.isDatabase = true) :
    Booked (.transactionFailed fault.failure.message) (migrate settings w) := by
  have told : (surviving cause (targetClosed settings w)).isBooked = true := by
    rw [lost,surviving,Failure.isBooked,database,Bool.or_true]
  have booked := broken.booked undemanded clock lenient told
  rw [lost,surviving,Failure.classified,if_pos database] at booked
  exact booked

/-- The cause that broke a transaction is what leaves the run and what its state tells, unless the
target fails to close after it. -/
theorem cause_told_unless_target_lost (settings : Settings) (w : World σ) (clock : Universal w.clock)
    (broken : Broken settings w cause) (booked : cause.isBooked = true)
    (target : ∀ fault, targetClosed settings w = .error fault → fault.failure.isDatabase = true)
    (legacy : ∀ fault, legacyClosed settings w = .error fault → fault.failure.isDatabase = true) :
    Told settings w cause where
  cause_told reply closed := by
    have undemanded := Failure.undemanded_of_isBooked booked
    have told := broken.booked undemanded clock legacy (by rw [closed]; exact booked)
    rw [closed] at told
    exact told
  cause_hidden fault lost := broken.hidden (Failure.undemanded_of_isBooked booked) clock legacy lost
    (target fault lost)

def unopenedRoom (legacy target : List Trap) : World Scripts where
  stores := {
    legacy := {
      rows := [("legacy_rooms",[[("id",.text "r"),("created_at",.stamp .first),
        ("opened_at",.null),("closed_at",.null),("audience",.text "a"),("parent_id",.null)]])]
      traps := legacy }
    target := { traps := target } }
  clock := [Timestamp.first]

theorem unopenedRoom_clock (legacy target : List Trap) :
    Universal (unopenedRoom legacy target).clock :=
  ⟨by simp [unopenedRoom],by simp [unopenedRoom,Timestamp.first]⟩

def unclosable : World Scripts :=
  unopenedRoom [⟨"close",1,.raised (.database "InterfaceError") "already closed"⟩] []

def losing : World Scripts :=
  unopenedRoom [] [⟨"close",0,.raised (.database "OperationalError") "connection lost"⟩]

def faultOf : Except Fault Reply → Option Fault
  | .ok _ => none
  | .error fault => some fault

theorem lenient_of_all {answer : Except Fault Reply}
    (lenient : (faultOf answer).all (·.failure.isDatabase) = true) (fault : Fault)
    (refused : answer = .error fault) : fault.failure.isDatabase = true := by
  rw [refused] at lenient
  exact lenient

theorem unopened_room_broken {w : World Scripts} (opened : (opening connected w).result = .ok ())
    (told : (failureOf (block connected w).result).map (fun cause => (cause.message,cause.isOwn)) =
      some ("Cannot migrate room r: missing opened_at",true)) :
    ∃ cause, Broken connected w cause ∧
      cause.message = "Cannot migrate room r: missing opened_at" ∧ cause.isOwn = true := by
  cases raised : (block connected w).result with
  | ok _ => simp [raised,failureOf] at told
  | error cause =>
    simp only [raised,failureOf,Option.map_some,Option.some.injEq,Prod.mk.injEq] at told
    exact ⟨cause,.step opened raised,told⟩

theorem unopened_room_told : ∃ cause, Broken connected unclosable cause ∧
    cause.message = "Cannot migrate room r: missing opened_at" ∧
      (∃ fault, legacyClosed connected unclosable = .error fault) ∧
        Told connected unclosable cause := by
  have facts : ((failureOf (block connected unclosable).result).map
        (fun cause => (cause.message,cause.isOwn)),
      (faultOf (targetClosed connected unclosable)).isNone,
      (faultOf (legacyClosed connected unclosable)).map (·.failure.isDatabase)) =
        (some ("Cannot migrate room r: missing opened_at",true),true,some true) := by
    decide +kernel
  simp only [Prod.mk.injEq] at facts
  obtain ⟨told,target,legacy⟩ := facts
  obtain ⟨cause,broken,message,own⟩ := unopened_room_broken (w := unclosable) rfl told
  cases closed : targetClosed connected unclosable with
  | error fault => simp [closed,faultOf] at target
  | ok reply =>
    cases lost : legacyClosed connected unclosable with
    | ok _ => simp [lost,faultOf] at legacy
    | error fault =>
      have database : fault.failure.isDatabase = true := by simpa [lost,faultOf] using legacy
      refine ⟨cause,broken,message,⟨fault,rfl⟩,?_⟩
      refine cause_told_unless_target_lost connected unclosable (unopenedRoom_clock _ _) broken
        (by simp [Failure.isBooked,own]) (fun _ refused => ?_) fun _ refused => ?_
      · rw [closed] at refused
        cases refused
      · rw [lost] at refused
        exact Except.error.inj refused ▸ database

/-- A target that is lost on closing hides which room could not be transferred. -/
theorem lost_target_hides_cause : ¬ ∀ (settings : Settings) (w : World Scripts) (cause : Failure),
    Universal w.clock → Broken settings w cause → cause.isBooked = true →
      (∀ fault, targetClosed settings w = .error fault → fault.failure.isDatabase = true) →
      (∀ fault, legacyClosed settings w = .error fault → fault.failure.isDatabase = true) →
        Booked (cause.classified .transactionFailed) (migrate settings w) := by
  intro always
  obtain ⟨cause,broken,message,own⟩ := unopened_room_broken (w := losing) rfl (by decide +kernel)
  have clock : Universal losing.clock := unopenedRoom_clock _ _
  have refused : (faultOf (targetClosed connected losing)).map
      (fun fault => (fault.failure.message,fault.failure.isDatabase)) =
        some ("connection lost",true) := by decide +kernel
  have legacy : (faultOf (legacyClosed connected losing)).all
      (·.failure.isDatabase) = true := by decide +kernel
  cases lost : targetClosed connected losing with
  | ok _ => simp [lost,faultOf] at refused
  | error fault =>
    simp only [lost,faultOf,Option.map_some,Option.some.injEq,Prod.mk.injEq] at refused
    obtain ⟨text,database⟩ := refused
    have booked : cause.isBooked = true := by simp [Failure.isBooked,own]
    have told := always connected _ cause clock broken booked
      (fun other same => Except.error.inj (lost.symm.trans same) ▸ database) (lenient_of_all legacy)
    have hidden := broken.hidden (Failure.undemanded_of_isBooked booked) clock
      (lenient_of_all legacy) lost database
    have same : cause.classified .transactionFailed = .transactionFailed fault.failure.message :=
      Except.error.inj (told.raised.symm.trans hidden.raised)
    have foreign : cause.isDatabase ≠ true := by
      intro database
      simpa [own] using Failure.foreign_of_isDatabase database
    rw [Failure.classified,if_neg foreign] at same
    have texts : cause.message = "Target transaction failed: " ++ fault.failure.message :=
      congrArg Failure.message same
    rw [message,text] at texts
    exact absurd texts (by decide)

end Migration

end RoomTransfer
