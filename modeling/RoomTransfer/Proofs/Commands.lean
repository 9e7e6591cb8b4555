import RoomTransfer.CommandLine.Program
import RoomTransfer.Proofs.Journaling

/-! Work in a session, as a function of the session, and the `migrate` command as the work before
its run and that from its run on. Before its run the command makes its folder and its log file. -/
namespace RoomTransfer.CommandLine

open Store

variable {σ α β : Type} {s s' : Session σ}

namespace Work

/-- How some work ends that is done in a session, and the session then. -/
def outcome (work : Work σ α) (s : Session σ) : Except Failure α × Session σ := work.run.run s

theorem outcome_bind (x : Work σ α) (f : α → Work σ β) (s : Session σ) :
    (x >>= f).outcome s = match x.outcome s with
      | (.ok a,s') => (f a).outcome s'
      | (.error failure,s') => (.error failure,s') := by
  unfold outcome
  rw [ExceptT.run_bind,StateT.run_bind]
  simp only [bind]
  rcases x.run.run s with ⟨_ | a,u⟩ <;> rfl

theorem bind_ok {x : Work σ α} {f : α → Work σ β} {b : β} :
    (x >>= f).outcome s = (.ok b,s') ↔
      ∃ a u, x.outcome s = (.ok a,u) ∧ (f a).outcome u = (.ok b,s') := by
  rw [outcome_bind]
  rcases x.outcome s with ⟨failure | a,u⟩
  · simp
  · constructor
    · exact fun rest => ⟨a,u,rfl,rest⟩
    · rintro ⟨_,_,same,rest⟩
      obtain ⟨found,rfl⟩ := Prod.mk.inj same
      obtain rfl := Except.ok.inj found
      exact rest

theorem outcome_attempt (work : Work σ α) (s : Session σ) :
    work.attempt.outcome s = (.ok (work.outcome s).1,(work.outcome s).2) := rfl

theorem outcome_ofExcept (result : Except Failure α) (s : Session σ) :
    (Work.ofExcept result).outcome s = (result,s) := by
  cases result <;> rfl

theorem outcome_perform (run : Run σ α) (s : Session σ) : (Work.perform run).outcome s =
    ((run s.world).result,{ s with
      world := (run s.world).world
      journal := s.journal.putAll (logsOf (run s.world).effects)
      trace := s.trace ++ traceOf (run s.world).effects }) :=
  outcome_ofExcept _ _

theorem outcome_withJournal (f : Log.Journal → Log.Journal × Except Failure α) (s : Session σ) :
    (Work.withJournal f).outcome s =
      ((f s.journal).2,{ s with journal := (f s.journal).1 }) :=
  outcome_ofExcept _ _

theorem outcome_withFiles (f : Files → Files × Except Failure α) (s : Session σ) :
    (Work.withFiles f).outcome s = ((f s.journal.files).2,{ s with journal :=
      { s.journal with files := (f s.journal.files).1 } }) :=
  outcome_withJournal (fun j => ({ j with files := (f j.files).1 },(f j.files).2)) s

theorem outcome_logAll (records : List Log.Record) (s : Session σ) :
    (Work.logAll records).outcome s = (.ok (),{ s with journal := s.journal.putAll records }) := rfl

theorem outcome_modify (f : Session σ → Session σ) (s : Session σ) :
    (modify f : Work σ Unit).outcome s = (.ok (),f s) := rfl

theorem bind_of_ok {x : Work σ α} {f : α → Work σ β} {a : α} {u : Session σ}
    (done : x.outcome s = (.ok a,u)) : (x >>= f).outcome s = (f a).outcome u := by
  rw [outcome_bind,done]

/-- Whatever comes of some work, it keeps what is true of its session. -/
def Keeps (P : Session σ → Prop) (work : Work σ α) : Prop :=
  ∀ s, P s → P (work.outcome s).2

variable {P : Session σ → Prop}

theorem Keeps.bind {x : Work σ α} {f : α → Work σ β} (first : x.Keeps P)
    (next : ∀ a, (f a).Keeps P) : (x >>= f).Keeps P := by
  intro s holds
  have held := first s holds
  rw [outcome_bind]
  rcases done : x.outcome s with ⟨failure | a,u⟩ <;> rw [done] at held
  · exact held
  · exact next a u held

theorem keeps_ofExcept (result : Except Failure α) : (Work.ofExcept result : Work σ α).Keeps P := by
  intro s holds
  rw [outcome_ofExcept]
  exact holds

theorem Keeps.attempt {work : Work σ α} (keeps : work.Keeps P) : work.attempt.Keeps P := by
  intro s holds
  rw [outcome_attempt]
  exact keeps s holds

theorem keeps_pure (a : α) : (pure a : Work σ α).Keeps P := fun _ holds => holds

theorem keeps_throw (failure : Failure) : (throw failure : Work σ α).Keeps P := fun _ holds => holds

theorem keeps_get : (get : Work σ (Session σ)).Keeps P := fun _ holds => holds

theorem keeps_modify {f : Session σ → Session σ} (same : ∀ s, P s → P (f s)) :
    (modify f : Work σ Unit).Keeps P := fun s holds => same s holds

end Work

section Writing

variable {folder path : String} {files : Files} {failure : Failure}

theorem outcome_writeReport (made : Report.write s.journal.files s.world.state folder
    Report.fileName = (files,.ok path)) : (writeReport folder).outcome s =
      (.ok (),{ s with
        journal := Log.Journal.putAll { s.journal with files } [Report.written path] }) := by
  have filed := Work.outcome_withFiles (fun t => Report.write t s.world.state folder Report.fileName) s
  have looked : (get : Work σ (Session σ)).outcome s = (.ok s,s) := rfl
  rw [made] at filed
  unfold writeReport
  rw [Work.bind_of_ok looked,Work.outcome_bind,Work.outcome_attempt,filed]
  rfl

/-- That the file system refuses the report is only logged. -/
theorem outcome_writeReport_refused (made : Report.write s.journal.files s.world.state folder
    Report.fileName = (files,.error failure)) : (writeReport folder).outcome s =
      if failure.isFile then (.ok (),{ s with
        journal := Log.Journal.putAll { s.journal with files }
          [⟨Log.warning,"Failed to write migration report: " ++ failure.message,[],.none⟩] })
      else (.error failure,{ s with journal := { s.journal with files } }) := by
  have filed := Work.outcome_withFiles (fun t => Report.write t s.world.state folder Report.fileName) s
  have looked : (get : Work σ (Session σ)).outcome s = (.ok s,s) := rfl
  rw [made] at filed
  unfold writeReport
  rw [Work.bind_of_ok looked,Work.outcome_bind,Work.outcome_attempt,filed]
  dsimp only
  cases file : failure.isFile <;> rfl

end Writing

variable [Database σ]

/-- All that the `migrate` command does before its run. -/
def beginning (env : Environment) (config : String) (verbose dryRun jsonLogs : Bool) :
    Work σ (String × Settings) := do
  let folder := runFolder (← Work.perform Run.now)
  Work.withFiles (·.makeFolders folder)
  Work.withJournal (·.setUp verbose folder jsonLogs)
  Work.log Log.info ("Output directory: " ++ folder)
  let settings ← loadSettings env config
  logSettings settings dryRun
  return (folder,settings)

/-- All that it does from its run on. -/
def concluding (settings : Settings) (dryRun : Bool) (folder : String) : Work σ Ending := do
  modify fun s => { s with world := { s.world with state := { dryRun } } }
  match ← (Work.perform (Migration.migrate settings)).attempt with
  | .ok () =>
    writeReport folder
    return .exit 0
  | .error failure =>
    if failure.endsProgram then return .unhandled failure
    Work.logAll (Summary.ofCommand failure true)
    writeReport folder
    return .exit 1

section Keeping

variable {P : Session σ → Prop}

omit [Database σ] in
/-- Where logging keeps something, so does loading settings. -/
theorem loadSettings_keeps (logs : ∀ records, (Work.logAll records : Work σ Unit).Keeps P)
    (env : Environment) (config : String) : (loadSettings env config : Work σ Settings).Keeps P := by
  refine Work.keeps_get.bind fun s => ?_
  rcases Settings.load s.journal.files config env with ⟨result,records⟩
  exact (logs records).bind fun _ => Work.keeps_ofExcept result

omit [Database σ] in
theorem logSettings_keeps (logs : ∀ records, (Work.logAll records : Work σ Unit).Keeps P)
    (settings : Settings) (dryRun : Bool) : (logSettings settings dryRun : Work σ Unit).Keeps P :=
  (logs _).bind fun _ => (logs _).bind fun _ => (Work.keeps_ofExcept _).bind fun _ =>
    (logs _).bind fun _ => (Work.keeps_ofExcept _).bind fun _ => (logs _).bind fun _ => logs _

end Keeping

/-- What the `migrate` command has when its run begins. -/
structure Begun (s s₁ : Session σ) (folder : String) : Prop where
  world : s₁.world = (Run.now s.world).world
  clean : Files.Clean folder
  logs : s₁.journal.LogsTo (Files.join folder Log.Journal.fileName)

section Beginning

variable {env : Environment} {config : String} {verbose dryRun jsonLogs : Bool}
  {s s₁ s₂ s₃ s₄ : Session σ} {folder : String} {settings : Settings} {t : Timestamp}

omit [Database σ] in
theorem logAll_begun (records : List Log.Record) :
    (Work.logAll records : Work σ Unit).Keeps fun s₁ => Begun s s₁ folder := by
  intro s₁ begun
  exact ⟨begun.world,begun.clean,(Log.Journal.putAll_keeps (P := fun _ => True)
    (fun _ _ _ _ _ => trivial) trivial begun.logs records).2⟩

omit [Database σ] in
/-- The folder is made and the log file opened before anything else. -/
theorem setUp_begun (looked : (Work.perform Run.now).outcome s = (.ok t,s₂))
    (made : (Work.withFiles (·.makeFolders (runFolder t))).outcome s₂ = (.ok (),s₃))
    (set : (Work.withJournal (·.setUp verbose (runFolder t) jsonLogs)).outcome s₃ = (.ok (),s₄)) :
    Begun s s₄ (runFolder t) := by
  rw [Work.outcome_perform] at looked
  rw [Work.outcome_withFiles] at made
  rw [Work.outcome_withJournal] at set
  obtain ⟨_,after⟩ := Prod.mk.inj looked
  obtain ⟨folders,after'⟩ := Prod.mk.inj made
  obtain ⟨_,after''⟩ := Prod.mk.inj set
  constructor
  · rw [← after'',← after',← after]
  · exact Files.makeFolders_clean folders
  · rw [← after'']
    exact Log.Journal.setUp_logsTo _ verbose jsonLogs (runFolder t)

theorem beginning_ok
    (began : (beginning env config verbose dryRun jsonLogs).outcome s = (.ok (folder,settings),s₁)) :
    Begun s s₁ folder ∧ (migrate env config verbose dryRun jsonLogs).outcome s =
      (concluding settings dryRun folder).outcome s₁ := by
  unfold beginning at began
  obtain ⟨t,s₂,looked,began⟩ := Work.bind_ok.mp began
  obtain ⟨_,s₃,made,began⟩ := Work.bind_ok.mp began
  obtain ⟨_,s₄,set,began⟩ := Work.bind_ok.mp began
  obtain ⟨_,s₅,told,began⟩ := Work.bind_ok.mp began
  obtain ⟨loaded,s₆,load,began⟩ := Work.bind_ok.mp began
  obtain ⟨_,s₇,shown,last⟩ := Work.bind_ok.mp began
  obtain ⟨same,rfl⟩ := Prod.mk.inj last
  obtain ⟨rfl,rfl⟩ := Prod.mk.inj (Except.ok.inj same)
  constructor
  · have telling := logAll_begun [⟨Log.info,"Output directory: " ++ runFolder t,[],.none⟩] s₄
      (setUp_begun looked made set)
    unfold Work.log at told
    rw [told] at telling
    have loading := loadSettings_keeps logAll_begun env config s₅ telling
    rw [load] at loading
    have showing := logSettings_keeps logAll_begun loaded dryRun s₆ loading
    rw [shown] at showing
    exact showing
  · unfold migrate
    rw [Work.bind_of_ok looked,Work.bind_of_ok made,Work.bind_of_ok set,Work.bind_of_ok told]
    unfold transfer
    have began : (loadSettings env config >>= fun settings =>
        logSettings settings dryRun >>= fun _ => pure settings : Work σ Settings).outcome s₅ =
          (.ok loaded,s₇) := by
      rw [Work.bind_of_ok load,Work.bind_of_ok shown]
      rfl
    rw [Work.outcome_bind,Work.outcome_attempt,began]
    rfl

end Beginning

/-- The world in which a `migrate` command runs the transfer. -/
def transferring (s : Session σ) (dryRun : Bool) : World σ :=
  { (Run.now s.world).world with state := { dryRun } }

/-- A session after its run, with all that is logged before the report. -/
def closed (s : Session σ) (o : Outcome σ Unit) : Session σ :=
  let told := match o.result with
    | .ok () => []
    | .error failure => Summary.ofCommand failure true
  { s with
    world := o.world
    journal := s.journal.putAll (logsOf o.effects ++ told)
    trace := s.trace ++ traceOf o.effects }

section Concluding

variable {settings : Settings} {dryRun : Bool} {folder : String} {o : Outcome σ Unit}

/-- A run that returns is followed by its report, and so is one that fails without ending the
program. -/
theorem concluding_reports (run : Migration.migrate settings { s.world with state := { dryRun } } = o)
    (handled : ∀ failure, o.result = .error failure → failure.endsProgram = false) :
    (concluding settings dryRun folder).outcome s = (writeReport folder >>= fun _ =>
      pure (.exit (if o.result.isOk then 0 else 1)) : Work σ Ending).outcome (closed s o) := by
  have performed : (Work.perform (Migration.migrate settings)).attempt.outcome
      { s with world := { s.world with state := { dryRun } } } =
        (.ok o.result,{ s with
          world := o.world
          journal := s.journal.putAll (logsOf o.effects)
          trace := s.trace ++ traceOf o.effects }) := by
    rw [Work.outcome_attempt,Work.outcome_perform,run]
  unfold concluding
  rw [Work.bind_of_ok (Work.outcome_modify _ _),Work.bind_of_ok performed]
  obtain ⟨result,world,effects⟩ := o
  cases result with
  | ok _ =>
    simp only [closed,List.append_nil]
    rfl
  | error failure =>
    have goes : failure.endsProgram = false := handled failure rfl
    have logged := Work.outcome_logAll (Summary.ofCommand failure true) { s with
      world, journal := s.journal.putAll (logsOf effects), trace := s.trace ++ traceOf effects }
    simp only [goes,Bool.false_eq_true,if_false]
    have both : closed s ⟨.error failure,world,effects⟩ = _ :=
      congrArg (fun journal => ({ s with world, journal, trace := s.trace ++ traceOf effects } :
        Session σ)) List.foldl_append
    rw [both]
    exact Work.bind_of_ok logged

/-- A failure that ends the program is let through, and nothing is reported. -/
theorem concluding_ends {failure : Failure}
    (run : Migration.migrate settings { s.world with state := { dryRun } } = o)
    (left : o.result = .error failure) (ends : failure.endsProgram = true) :
    ((concluding settings dryRun folder).outcome s).1 = .ok (.unhandled failure) := by
  unfold concluding
  rw [Work.bind_of_ok (Work.outcome_modify _ _),Work.outcome_bind,Work.outcome_attempt,
    Work.outcome_perform,run,left]
  dsimp only
  rw [ends]
  rfl

end Concluding

end RoomTransfer.CommandLine
