import RoomTransfer.Proofs.Commands
import RoomTransfer.Proofs.RunFolder

/-! What becomes of files that are there already. No invocation of the program touches one of them,
except that a run writes its own log and its own report anew. -/
namespace RoomTransfer

namespace Files

variable {t u : Files} {place : List String} {content bytes : List UInt8} {path : String}

/-- A file is there with some content. -/
def Has (place : List String) (content : List UInt8) (t : Files) : Prop :=
  t.entry? place = some (.file content)

instance : Decidable (t.Has place content) := inferInstanceAs (Decidable (t.entry? place = _))

/-- A path never leads to a place. -/
def Misses (path : String) (place : List String) : Prop :=
  ∀ (t : Files) other, t.place path = .ok other → other ≠ place

theorem makeFolder_has (has : t.Has place content) (made : t.makeFolder path = .ok u) :
    u.Has place content := by
  unfold makeFolder at made
  cases led : t.place path with
  | error cause =>
    rw [led] at made
    cases made
  | ok other =>
    cases found : t.entry? other with
    | some entry => simp [led,found,bind,Except.bind] at made
    | none =>
      simp only [led,found,bind,Except.bind,Except.ok.injEq] at made
      have differ : place ≠ other := by
        rintro rfl
        rw [has] at found
        cases found
      rw [← made,Has,entry_put_other differ,has]

theorem makeEach_has {paths : List String} (has : t.Has place content) :
    (t.makeEach paths).1.Has place content := by
  induction paths generalizing t with
  | nil => exact has
  | cons path rest ih =>
    unfold makeEach
    split
    · exact ih has
    · split
      · next made => exact ih (makeFolder_has has made)
      · exact has

theorem makeFolders_has (has : t.Has place content) (path : String) :
    (t.makeFolders path).1.Has place content := by
  have above : (t.makeEach (chain path).dropLast).1.Has place content := makeEach_has has
  unfold makeFolders
  split
  · next made => rwa [made] at above
  · next made =>
    rw [made] at above
    split
    · next last => exact makeFolder_has above last
    · exact above

theorem write_has (has : t.Has place content) (apart : ∀ other, t.place path = .ok other → other ≠ place)
    (wrote : t.write path bytes = .ok u) : u.Has place content := by
  obtain ⟨_,other,led,_,rfl⟩ := write_ok.mp wrote
  rw [Has,entry_put_other (apart other led).symm,has]

end Files

open Files

variable {t : Files} {place : List String} {content : List UInt8}

theorem Report.write_has {s : RunState} {folder name : String} (misses : Misses (join folder name) place)
    (has : t.Has place content) : (Report.write t s folder name).1.Has place content := by
  have folders := makeFolders_has has folder
  unfold Report.write
  split
  · next made => rwa [made] at folders
  · next made =>
    rw [made] at folders
    dsimp only
    split
    · exact folders
    · next opened wrote =>
      have begun := Files.write_has folders (misses _) wrote
      split
      · exact begun
      · dsimp only
        cases written : opened.write (join folder name) _ with
        | error cause => exact begun
        | ok full => exact Files.write_has begun (misses _) written

/-- The starter file is only written where nothing is. -/
theorem Settings.Starter.write_has (has : t.Has place content) (path : String) :
    (write t path).1.Has place content := by
  unfold write
  dsimp only
  split
  · exact has
  · exact has
  · next free =>
    split
    · next wrote =>
      refine Files.write_has has (fun other led same => ?_) wrote
      obtain ⟨slash,_⟩ := write_ok.mp wrote
      subst same
      have here : t.entry? other = some (.file content) := has
      have found : t.find (tidy path) = .ok (.file content) := by
        simp [Files.find,led,here,slash,bind,Except.bind]
      unfold Files.holds at free
      rw [found] at free
      cases free
    · split <;> exact has

namespace Log.Journal

variable {path : String}

theorem has_keptBy (misses : Misses path place) : KeptBy path (Has place content) :=
  fun t _ _ wrote has => Files.write_has has (misses t) wrote

theorem logsTo_of_fresh {j : Journal} (fresh : j.handlers = []) : j.LogsTo path := by
  intro h member
  rw [fresh] at member
  cases member

end Log.Journal

namespace CommandLine

open Store

variable {σ α : Type} {path : String}

/-- A session in which a file is there with some content, and which logs to no file but that at a
path. -/
structure Keeping (place : List String) (content : List UInt8) (path : String) (s : Session σ) : Prop where
  has : s.journal.files.Has place content
  logs : s.journal.LogsTo path

section Rules

variable (misses : Misses path place)

include misses in
theorem logAll_keeping (records : List Log.Record) :
    (Work.logAll records : Work σ Unit).Keeps (Keeping place content path) := by
  intro s keeping
  have kept := Log.Journal.putAll_keeps (Log.Journal.has_keptBy misses) keeping.has keeping.logs records
  exact ⟨kept.1,kept.2⟩

include misses in
theorem perform_keeping (run : Run σ α) : (Work.perform run).Keeps (Keeping place content path) := by
  intro s keeping
  rw [Work.outcome_perform]
  have kept := Log.Journal.putAll_keeps (Log.Journal.has_keptBy misses) keeping.has keeping.logs
    (logsOf (run s.world).effects)
  exact ⟨kept.1,kept.2⟩

theorem withFiles_keeping {f : Files → Files × Except Failure α}
    (keeps : ∀ t : Files, t.Has place content → (f t).1.Has place content) :
    (Work.withFiles f : Work σ α).Keeps (Keeping place content path) := by
  intro s keeping
  rw [Work.outcome_withFiles]
  exact ⟨keeps _ keeping.has,keeping.logs⟩

theorem print_keeping (text : String) : (Work.print text : Work σ Unit).Keeps (Keeping place content path) :=
  Work.keeps_modify fun _ keeping => ⟨keeping.has,keeping.logs⟩

theorem complain_keeping (text : String) :
    (Work.complain text : Work σ Unit).Keeps (Keeping place content path) :=
  Work.keeps_modify fun _ keeping => ⟨keeping.has,keeping.logs⟩

end Rules

section Commands

variable [Database σ] (env : Environment)

omit [Database σ] in
theorem settle_keeping (misses : Misses path place) {work : Work σ Unit}
    (keeps : work.Keeps (Keeping place content path)) :
    (settle work).Keeps (Keeping place content path) := by
  refine keeps.attempt.bind fun result => ?_
  cases result with
  | ok _ => exact Work.keeps_pure _
  | error failure =>
    dsimp only
    split
    · exact Work.keeps_pure _
    · split
      · exact (complain_keeping _).bind fun _ => Work.keeps_pure _
      · exact (logAll_keeping misses _).bind fun _ => Work.keeps_pure _

theorem status_keeping (misses : Misses path place) (config : String) :
    (status env config : Work σ Unit).Keeps (Keeping place content path) :=
  (loadSettings_keeps (logAll_keeping misses) env config).bind fun _ =>
    (perform_keeping misses _).bind fun _ => (print_keeping _).bind fun _ =>
      (Work.keeps_ofExcept _).bind fun _ => print_keeping _

omit [Database σ] in
theorem ask_keeping (question : String) :
    (Question.ask question : Work σ Bool).Keeps (Keeping place content path) := by
  refine Work.keeps_get.bind fun s => (Work.keeps_modify fun _ keeping => ?_).bind fun _ => ?_
  · exact ⟨keeping.has,keeping.logs⟩
  · split
    · exact Work.keeps_pure _
    · exact Work.keeps_throw _

theorem ensureIndex_keeping (misses : Misses path place) (config : String) (yes : Bool) :
    (ensureIndex env config yes : Work σ Unit).Keeps (Keeping place content path) := by
  refine (loadSettings_keeps (logAll_keeping misses) env config).bind fun settings =>
    (Work.keeps_ofExcept _).bind fun _ => ?_
  have confirmed (confirmed : Bool) : (if confirmed then do
        Work.perform (LegacyIndex.ensure settings.legacy)
        Work.log Log.info ("Index " ++ LegacyIndex.name ++ " is in place.")
      else Work.log Log.info "Index creation cancelled." : Work σ Unit).Keeps
        (Keeping place content path) := by
    split
    · exact (perform_keeping misses _).bind fun _ => logAll_keeping misses _
    · exact logAll_keeping misses _
  cases yes with
  | true => exact (Work.keeps_pure true).bind confirmed
  | false => exact (ask_keeping _).bind confirmed

omit [Database σ] in
theorem initConfig_keeping (misses : Misses path place) (output : String) :
    (initConfig output : Work σ Ending).Keeps (Keeping place content path) := by
  intro s keeping
  have looked : (get : Work σ (Session σ)).outcome s = (.ok s,s) := rfl
  have has := Settings.Starter.write_has keeping.has output
  unfold initConfig
  rw [Work.bind_of_ok looked]
  rcases made : Settings.Starter.write s.journal.files output with ⟨files,result,records⟩
  rw [made] at has
  have rest : (do
      Work.logAll records
      return .exit (if ← Work.ofExcept result then 0 else 1) : Work σ Ending).Keeps
        (Keeping place content path) :=
    (logAll_keeping misses records).bind fun _ => (Work.keeps_ofExcept result).bind fun _ =>
      Work.keeps_pure _
  exact rest { s with journal := { s.journal with files } } ⟨has,keeping.logs⟩

omit [Database σ] in
theorem writeReport_keeping (misses : Misses path place) {folder : String}
    (apart : Misses (join folder Report.fileName) place) :
    (writeReport folder : Work σ Unit).Keeps (Keeping place content path) := by
  refine Work.keeps_get.bind fun s => ?_
  have filed : (Work.withFiles fun t => Report.write t s.world.state folder Report.fileName :
      Work σ String).Keeps (Keeping place content path) :=
    withFiles_keeping fun _ has => Report.write_has apart has
  refine filed.attempt.bind fun result => ?_
  cases result with
  | ok path => exact logAll_keeping misses _
  | error failure =>
    dsimp only
    split
    · exact logAll_keeping misses _
    · exact Work.keeps_throw _

theorem transfer_keeping (misses : Misses path place) {folder : String}
    (apart : Misses (join folder Report.fileName) place) (config : String) (dryRun : Bool) :
    (transfer env config dryRun folder : Work σ Ending).Keeps (Keeping place content path) := by
  have logs (records : List Log.Record) : (Work.logAll records : Work σ Unit).Keeps
      (Keeping place content path) := logAll_keeping misses records
  have began : (do
      let settings ← loadSettings env config
      logSettings settings dryRun
      return settings : Work σ Settings).Keeps (Keeping place content path) :=
    (loadSettings_keeps logs env config).bind fun settings =>
      (logSettings_keeps logs settings dryRun).bind fun _ => Work.keeps_pure _
  refine began.attempt.bind fun result => ?_
  cases result with
  | error failure => exact (logs _).bind fun _ => Work.keeps_pure _
  | ok settings =>
    refine (Work.keeps_modify fun _ keeping => ⟨keeping.has,keeping.logs⟩).bind fun _ => ?_
    refine (perform_keeping misses _).attempt.bind fun result => ?_
    cases result with
    | ok _ => exact (writeReport_keeping misses apart).bind fun _ => Work.keeps_pure _
    | error failure =>
      dsimp only
      split
      · exact Work.keeps_pure _
      · exact (logs _).bind fun _ => (writeReport_keeping misses apart).bind fun _ =>
          Work.keeps_pure _

omit [Database σ] in
/-- Setting up the journal makes it log to the file of its folder alone. -/
theorem setUp_keeping {folder : String} (misses : Misses (join folder Log.Journal.fileName) place)
    (verbose objects : Bool) (s : Session σ) (has : s.journal.files.Has place content) :
    Keeping place content (join folder Log.Journal.fileName)
      ((Work.withJournal (·.setUp verbose folder objects)).outcome s).2 := by
  have kept := Log.Journal.setUp_keeps (Log.Journal.has_keptBy misses)
    (fun _ has => makeFolders_has has folder) has verbose objects
  rw [Work.outcome_withJournal]
  exact ⟨kept.1,kept.2⟩

omit [Database σ] in
theorem withConsole_keeping (verbose : Bool) :
    (withConsole verbose : Work σ Unit).Keeps (Keeping place content path) := by
  intro s keeping
  have same : s.journal.setUp verbose "" false = ({ s.journal with
      level := Log.debug, handlers := [Log.Journal.consoleHandler verbose false] },.ok ()) := rfl
  unfold withConsole
  rw [Work.outcome_withJournal,same]
  refine ⟨keeping.has,fun h member => ?_⟩
  obtain rfl := List.mem_singleton.mp member
  trivial

/-- The log and the report of a run are at its own places. -/
theorem runPlaces_miss {u : Timestamp} (spared : place ∉ runPlaces u) :
    Misses (join (runFolder u) Log.Journal.fileName) place ∧
      Misses (join (runFolder u) Report.fileName) place := by
  constructor
  · rintro t _ led rfl
    rw [place_runFolder (by decide) (by decide) led] at spared
    exact spared List.mem_cons_self
  · rintro t _ led rfl
    rw [place_runFolder (by decide) (by decide) led] at spared
    exact spared (List.mem_cons_of_mem _ List.mem_cons_self)

/-- The moment at which a world's clock stands. -/
def moment (w : World σ) : Timestamp := w.clock.headD default

omit [Database σ] in
/-- A look at the clock leaves the files as they are. -/
theorem outcome_now (s : Session σ) : ∃ u, (Work.perform Run.now).outcome s = (.ok (moment s.world),u) ∧
    u.journal.files = s.journal.files ∧ u.journal.handlers = s.journal.handlers := by
  obtain ⟨journal,⟨stores,state,clock,rest⟩,trace,printed,answers⟩ := s
  rcases clock with _ | ⟨t,_ | ⟨v,more⟩⟩ <;> exact ⟨_,rfl,rfl,rfl⟩

/-- The `migrate` command from the moment on at which the folder of the run is named. -/
def migrateIn (config : String) (verbose dryRun jsonLogs : Bool) (folder : String) : Work σ Ending := do
  Work.withFiles (·.makeFolders folder)
  Work.withJournal (·.setUp verbose folder jsonLogs)
  Work.log Log.info ("Output directory: " ++ folder)
  transfer env config dryRun folder

theorem migrate_eq (config : String) (verbose dryRun jsonLogs : Bool) :
    (migrate env config verbose dryRun jsonLogs : Work σ Ending) = Work.perform Run.now >>=
      fun t => migrateIn env config verbose dryRun jsonLogs (runFolder t) := rfl

theorem migrateIn_keeping {folder : String} (logs : Misses (join folder Log.Journal.fileName) place)
    (reports : Misses (join folder Report.fileName) place) (config : String)
    (verbose dryRun jsonLogs : Bool) :
    (migrateIn env config verbose dryRun jsonLogs folder : Work σ Ending).Keeps
      (Keeping place content (join folder Log.Journal.fileName)) :=
  (withFiles_keeping fun _ has => makeFolders_has has _).bind fun _ =>
    Work.Keeps.bind (fun s keeping => setUp_keeping logs verbose jsonLogs s keeping.has) fun _ =>
      (logAll_keeping logs _).bind fun _ => transfer_keeping env logs reports config dryRun

theorem migrate_keeping {config : String} {verbose dryRun jsonLogs : Bool} {s : Session σ}
    (fresh : s.journal.handlers = []) (has : s.journal.files.Has place content)
    (spared : place ∉ runPlaces (moment s.world)) :
    ((migrate env config verbose dryRun jsonLogs).outcome s).2.journal.files.Has place content := by
  obtain ⟨logs,reports⟩ := runPlaces_miss spared
  obtain ⟨u,looked,files,handlers⟩ := outcome_now s
  rw [migrate_eq,Work.bind_of_ok looked]
  generalize runFolder (moment s.world) = folder at *
  have keeping : Keeping place content (join folder Log.Journal.fileName) u :=
    ⟨by rwa [files],Log.Journal.logsTo_of_fresh (handlers.trans fresh)⟩
  exact (migrateIn_keeping env logs reports config verbose dryRun jsonLogs u keeping).has

end Commands

end CommandLine

end RoomTransfer
