import RoomTransfer.Proofs.Commands
import RoomTransfer.Proofs.Settlement

/-! What the `migrate` command tells of its run, by the code with which it ends and in the report
that it writes. The code tells of every failure, the report of those that the run has booked. -/
namespace RoomTransfer

open Store

/-- The times of a run are moments that can be compared, as far as they are known. -/
structure RunState.Timed (s : RunState) : Prop where
  started : s.startedAt = .null ∨ s.startedAt.IsInstant
  finished : s.finishedAt = .null ∨ s.finishedAt.IsInstant

theorem RunState.Timed.duration {s : RunState} (timed : s.Timed) : ∃ d, s.duration = .ok d := by
  obtain ⟨none | started,none' | finished⟩ := timed
  · exact ⟨.zero,by simp [RunState.duration,none]⟩
  · exact ⟨.zero,by simp [RunState.duration,none]⟩
  · obtain ⟨t,start,_⟩ := started
    exact ⟨.zero,by simp [RunState.duration,start,none']⟩
  · exact RunState.duration_of_instants started finished

namespace Report

variable {s : RunState} {report : List (String × Yaml.Block)} {t u : Files} {folder path : String}
  {failure : Failure}

def summaryField (report : List (String × Yaml.Block)) (name : String) : Option Yaml.Block :=
  match List.lookup "migration_summary" report with
  | some (.mapping fields) => List.lookup name fields
  | _ => none

theorem ofState_ok (made : ofState s = .ok report) : ∃ told, error s.error = .ok told ∧
    summaryField report "failed" = some (.bool s.hasErrors) ∧
      summaryField report "error" = some told := by
  unfold ofState at made
  cases started : moment s.startedAt with
  | error _ => simp [started,bind,Except.bind] at made
  | ok startedAt =>
    cases finished : moment s.finishedAt with
    | error _ => simp [started,finished,bind,Except.bind] at made
    | ok finishedAt =>
      cases lasted : s.duration with
      | error _ => simp [started,finished,lasted,bind,Except.bind] at made
      | ok duration =>
        cases mark : moment s.watermark with
        | error _ => simp [started,finished,lasted,mark,bind,Except.bind] at made
        | ok watermark =>
          cases told : error s.error with
          | error _ => simp [started,finished,lasted,mark,told,bind,Except.bind] at made
          | ok shown =>
            simp only [started,finished,lasted,mark,told,bind,Except.bind,pure,Except.pure,
              Except.ok.injEq] at made
            subst made
            exact ⟨shown,rfl,rfl,rfl⟩

theorem moment_known {v : Value} (known : v = .null ∨ v.IsInstant) : ∃ told, moment v = .ok told := by
  rcases known with rfl | ⟨t,rfl,_⟩ <;> exact ⟨_,rfl⟩

theorem ofState_error (timed : s.Timed) (named : s.error = .null ∨ ∃ text, s.error = .text text)
    (refused : ofState s = .error failure) : moment s.watermark = .error failure := by
  obtain ⟨startedAt,started⟩ := moment_known timed.started
  obtain ⟨finishedAt,finished⟩ := moment_known timed.finished
  obtain ⟨duration,lasted⟩ := timed.duration
  have shown : ∃ told, error s.error = .ok told := by
    rcases named with none | ⟨text,some⟩
    · exact ⟨.null,by rw [none]; rfl⟩
    · exact ⟨.text text,by rw [some]; rfl⟩
  obtain ⟨told,shown⟩ := shown
  unfold ofState at refused
  cases mark : moment s.watermark with
  | error other => simpa [started,finished,lasted,mark,bind,Except.bind] using refused
  | ok watermark => simp [started,finished,lasted,mark,shown,bind,Except.bind,pure,Except.pure] at refused

/-- A report that was written can be read, and is that of the state. -/
theorem write_ok (made : write t s folder fileName = (u,.ok path)) :
    path = Files.join folder fileName ∧ ∃ report, ofState s = .ok report ∧
      u.read path = .ok (Text.Utf8.encode (String.ofList (Yaml.document report))) := by
  unfold write at made
  split at made
  · cases made
  · next v _ =>
    dsimp only at made
    split at made
    · cases made
    · next w opened =>
      split at made
      · cases made
      · next report told =>
        obtain ⟨rfl,same⟩ := Prod.mk.inj made
        obtain rfl := Except.ok.inj same
        have inside (place : List String) (led : v.place (Files.join folder fileName) = .ok place) :
            Files.outside? place = none := by
          obtain ⟨above,piece,rfl⟩ := Files.place_join (by decide) (by decide) (by decide +kernel) led
          refine Files.outside_long ?_
          simp only [String.length_ofList,List.length_append,String.length_toList]
          exact Nat.lt_of_lt_of_le (by decide : 4 < fileName.length) (Nat.le_add_left _ _)
        obtain ⟨x,again,read⟩ := Files.write_again opened inside
          (Text.Utf8.encode (String.ofList (Yaml.document report)))
        refine ⟨rfl,report,told,?_⟩
        rw [again]
        exact read

/-- In a clean folder a report that is not written is refused by the file system, or cannot be made. -/
theorem write_refused (clean : Files.Clean folder)
    (refused : (write t s folder fileName).2 = .error failure) :
    failure.isFile = true ∨ ofState s = .error failure := by
  unfold write at refused
  split at refused
  · next v cause made =>
    obtain rfl := Except.error.inj refused
    refine .inl (Files.makeFolders_refused (t := t) clean ?_)
    rw [made]
  · next v _ =>
    dsimp only at refused
    split at refused
    · next cause denied =>
      obtain rfl := Except.error.inj refused
      have known := Files.write_refused (clean.join (by decide)) denied
      exact .inl (by simpa [Failure.isFile] using known)
    · split at refused
      · next cause told =>
        obtain rfl := Except.error.inj refused
        exact .inr told
      · cases refused

end Report

namespace Migration

section Closing

variable {σ : Type} {w : World σ}

theorem ending_timed (clock : Universal w.clock) (started : w.state.startedAt.IsInstant)
    (unfinished : w.state.finishedAt = .null) (result : Except Failure Unit) :
    (ending result w).world.state.Timed := by
  obtain ⟨u,_,looked,aware,_⟩ := Run.now_universal clock
  have stamped {t : Timestamp} (told : (Run.now w).result = .ok t) : t.offset.isSome = true := by
    rw [looked] at told
    obtain rfl := Except.ok.inj told
    exact aware
  cases result with
  | ok _ =>
    obtain ⟨t,told,state⟩ := finish_state w
    simp only [ending,state]
    exact ⟨.inr started,.inr ⟨t,rfl,stamped told⟩⟩
  | error failure =>
    change (settle failure w).world.state.Timed
    cases booked : failure.isBooked with
    | true =>
      obtain ⟨t,told,state⟩ := conclude_state (failure.classified .transactionFailed) w
      rw [settle_world booked,state]
      exact ⟨.inr started,.inr ⟨t,rfl,stamped told⟩⟩
    | false =>
      rw [settle_unbooked booked]
      exact ⟨.inr started,.inl unfinished⟩

end Closing

section Telling

variable {σ : Type} [Database σ] {settings : Settings} {w : World σ} {o : Outcome σ Unit}

/-- The failure that the state of a run tells of: one of the transfer or by the user, raised by a
run that had all its credentials. -/
def Tells (settings : Settings) (o : Outcome σ Unit) (failure : Failure) : Prop :=
  Ready settings ∧ o.result = .error failure ∧ (failure.isOwn || failure.isInterrupt) = true

structure Candid (settings : Settings) (o : Outcome σ Unit) : Prop where
  timed : o.world.state.Timed
  told : ∀ failure, Tells settings o failure → o.world.state.error = .text failure.message
  untold : (¬ ∃ failure, Tells settings o failure) → o.world.state.error = .null
  marked : o.result = .ok () → o.world.state.Marked

theorem classified_told {failure : Failure} (booked : failure.isBooked = true) :
    ((failure.classified .transactionFailed).isOwn ||
      (failure.classified .transactionFailed).isInterrupt) = true := by
  unfold Failure.classified
  cases database : failure.isDatabase with
  | true => rfl
  | false => simpa [Failure.isBooked,database] using booked

theorem migrate_candid (settings : Settings) (clock : Universal w.clock)
    (fresh : w.state.reset = w.state) : Candid settings (migrate settings w) := by
  by_cases ready : Ready settings
  · obtain ⟨clock',started,unset,unfinished⟩ := session_told settings clock
    have timed : (migrate settings w).world.state.Timed := by
      rw [migrate_of_ready ready]
      exact ending_timed clock' started unfinished _
    cases left : (session settings w).result with
    | ok _ =>
      have mark := session_marked left
      have returned : (migrate settings w).result = .ok () :=
        migrate_returned ready clock (session_result_passage.symm.trans left)
      have error : (migrate settings w).world.state.error = .null := by
        rw [migrate_of_ready ready,left]
        exact (finish_keeps RunState.error fun _ _ => rfl).trans unset
      have marked : (migrate settings w).world.state.Marked := by
        rw [migrate_of_ready ready,left]
        exact mark.of_same (finish_keeps RunState.watermark fun _ _ => rfl)
      refine ⟨timed,?_,fun _ => error,fun _ => marked⟩
      intro failure tells
      exact absurd (returned.symm.trans tells.2.1) nofun
    | error failure =>
      rw [session_result_passage] at left
      cases booked : failure.isBooked with
      | true =>
        obtain ⟨raised,error,_,_⟩ := migrate_booked ready clock left booked
        refine ⟨timed,?_,?_,fun returned => absurd (raised.symm.trans returned) nofun⟩
        · intro other tells
          obtain rfl := Except.error.inj (raised.symm.trans tells.2.1)
          exact error
        · exact fun none => absurd ⟨_,ready,raised,classified_told booked⟩ none
      | false =>
        obtain ⟨raised,error,_⟩ := migrate_unbooked ready clock left booked
        refine ⟨timed,?_,fun _ => error,fun returned => absurd (raised.symm.trans returned) nofun⟩
        intro other tells
        obtain rfl := Except.error.inj (raised.symm.trans tells.2.1)
        have loud : failure.isBooked = true := by
          unfold Failure.isBooked
          rw [tells.2.2]
          rfl
        exact absurd (booked.symm.trans loud) Bool.false_ne_true
  · -- Such a run is refused before its state is reset, and nothing books the refusal.
    obtain ⟨failure,run⟩ := migrate_of_unready (w := w) ready
    rw [run]
    exact ⟨⟨.inl (congrArg RunState.startedAt fresh).symm,.inl (congrArg RunState.finishedAt fresh).symm⟩,
      fun _ tells => absurd tells.1 ready,fun _ => (congrArg RunState.error fresh).symm,nofun⟩

omit [Database σ] in
theorem Candid.named (candid : Candid settings o) :
    o.world.state.error = .null ∨ ∃ text, o.world.state.error = .text text := by
  by_cases told : ∃ failure, Tells settings o failure
  · obtain ⟨failure,tells⟩ := told
    exact .inr ⟨failure.message,candid.told failure tells⟩
  · exact .inl (candid.untold told)

/-- The summary in a report tells of a failure, or that there was none. -/
structure Truthful (settings : Settings) (o : Outcome σ Unit) (report : List (String × Yaml.Block)) :
    Prop where
  told : ∀ failure, Tells settings o failure →
    Report.summaryField report "failed" = some (.bool true) ∧
      Report.summaryField report "error" = some (.text failure.message)
  untold : (¬ ∃ failure, Tells settings o failure) →
    Report.summaryField report "failed" = some (.bool false) ∧
      Report.summaryField report "error" = some .null

omit [Database σ] in
theorem Candid.truthful (candid : Candid settings o) {report : List (String × Yaml.Block)}
    (made : Report.ofState o.world.state = .ok report) : Truthful settings o report := by
  obtain ⟨shown,error,failed,told⟩ := Report.ofState_ok made
  constructor
  · intro failure tells
    rw [failed,told]
    have text := candid.told failure tells
    rw [text] at error
    obtain rfl := Except.ok.inj error
    exact ⟨by simp [RunState.hasErrors,text,Value.isNull],rfl⟩
  · intro none
    rw [failed,told]
    have null := candid.untold none
    rw [null] at error
    obtain rfl := Except.ok.inj error
    exact ⟨by simp [RunState.hasErrors,null,Value.isNull],rfl⟩

end Telling

end Migration

namespace CommandLine

section Filing

variable {σ : Type} {s : Session σ} {folder : String}

theorem files_apart (folder : String) : Files.Apart (Files.join folder Log.Journal.fileName)
    (Files.join folder Report.fileName) :=
  Files.apart_of_last (by decide) (by decide) (by decide +kernel) (by decide +kernel)
    (by decide +kernel) (by decide +kernel) (by decide +kernel)

/-- The report of a state is in its file, or the file system refuses it. -/
def Filed (folder : String) (state : RunState) (before after : Files) : Prop :=
  (∃ report, Report.ofState state = .ok report ∧
    after.read (Files.join folder Report.fileName) =
      .ok (Text.Utf8.encode (String.ofList (Yaml.document report)))) ∨
  ∃ failure, failure.isFile = true ∧ (Report.write before state folder Report.fileName).2 = .error failure

/-- Writing the report ends with the code that it should, or the report cannot be made. -/
theorem writeReport_ends (clean : Files.Clean folder)
    (logs : s.journal.LogsTo (Files.join folder Log.Journal.fileName)) (code : Nat) :
    let r := (writeReport folder >>= fun _ => pure (.exit code) : Work σ Ending).outcome s
    (r.1 = .ok (.exit code) ∧ Filed folder s.world.state s.journal.files r.2.journal.files) ∨
      ∃ failure, r.1 = .error failure ∧ Report.ofState s.world.state = .error failure := by
  intro r
  cases made : Report.write s.journal.files s.world.state folder Report.fileName with
  | mk files result =>
    cases result with
    | ok path =>
      have ended : r = _ := Work.bind_of_ok (outcome_writeReport made)
      obtain ⟨rfl,report,told,read⟩ := Report.write_ok made
      have kept := Log.Journal.putAll_keeps (j := { s.journal with files })
        (Log.Journal.read_keptBy (files_apart folder)) read logs
          [Report.written (Files.join folder Report.fileName)]
      rw [ended]
      exact .inl ⟨rfl,.inl ⟨report,told,kept.1⟩⟩
    | error failure =>
      have written := outcome_writeReport_refused made
      cases file : failure.isFile with
      | true =>
        rw [file,if_pos rfl] at written
        have ended : r = _ := Work.bind_of_ok written
        rw [ended]
        exact .inl ⟨rfl,.inr ⟨failure,file,by rw [made]⟩⟩
      | false =>
        rw [file,if_neg Bool.false_ne_true] at written
        have ended : r = _ := Work.outcome_bind _ _ s
        rw [written] at ended
        rw [ended]
        rcases Report.write_refused clean (congrArg Prod.snd made) with known | told
        · exact absurd (file.symm.trans known) Bool.false_ne_true
        · exact .inr ⟨failure,rfl,told⟩

end Filing

section Command

variable {σ : Type} [Database σ] {s s₁ : Session σ} {settings : Settings} {folder : String}
  {arguments : List String} {env : Environment} {config : String} {verbose dryRun jsonLogs : Bool}

/-- What a `migrate` command tells of its run. -/
structure Reported (settings : Settings) (folder : String) (before : Files) (o : Outcome σ Unit)
    (r : Ending × Session σ) : Prop where
  returned : r.1 = .exit 0 ↔ o.result = .ok ()
  raised : (r.1 = .exit 1 ∨ ∃ failure, r.1 = .unhandled failure) ↔ ∃ failure, o.result = .error failure
  /-- What no command handles ends the program, or comes from a watermark that is no moment. -/
  unhandled : ∀ failure, r.1 = .unhandled failure →
    (o.result = .error failure ∧ failure.endsProgram = true) ∨
      Report.moment o.world.state.watermark = .error failure
  /-- The report is in its file, unless the file system refuses it. -/
  report : (∃ code, r.1 = .exit code) → (∃ report, Migration.Truthful settings o report ∧
      r.2.journal.files.read (Files.join folder Report.fileName) =
        .ok (Text.Utf8.encode (String.ofList (Yaml.document report)))) ∨
    ∃ failure, failure.isFile = true ∧
      (Report.write before o.world.state folder Report.fileName).2 = .error failure

/-- How a command ends: what nothing handles is let through. -/
def endingOf : Except Failure Ending → Ending
  | .ok ending => ending
  | .error failure => .unhandled failure

theorem run_migrate (env : Environment) (s : Session σ)
    (asked : Request.ofArguments arguments = .order (.migrate config verbose dryRun jsonLogs)) :
    let r := (migrate env config verbose dryRun jsonLogs).outcome s
    run arguments env s = (endingOf r.1,r.2) := by
  intro r
  have performed : (answer env (.order (.migrate config verbose dryRun jsonLogs)) :
      Work σ Ending).run.run s = r := rfl
  unfold run
  rw [asked,performed]
  obtain ⟨_ | _,_⟩ := r <;> rfl

theorem concluding_reported {o : Outcome σ Unit} (clean : Files.Clean folder)
    (logs : s.journal.LogsTo (Files.join folder Log.Journal.fileName))
    (run : Migration.migrate settings { s.world with state := { dryRun } } = o)
    (candid : Migration.Candid settings o) :
    let r := (concluding settings dryRun folder).outcome s
    Reported settings folder (closed s o).journal.files o (endingOf r.1,r.2) := by
  intro r
  by_cases ended : ∃ failure, o.result = .error failure ∧ failure.endsProgram = true
  · obtain ⟨failure,left,ends⟩ := ended
    have same : r.1 = .ok (.unhandled failure) := concluding_ends run left ends
    rw [same]
    refine ⟨by simp [left,endingOf],by simp [left,endingOf],?_,by simp [endingOf]⟩
    intro other same
    obtain rfl : failure = other := by simpa [endingOf] using same
    exact .inl ⟨left,ends⟩
  · have handled (failure : Failure) (left : o.result = .error failure) :
        failure.endsProgram = false := by
      simpa using fun ends => ended ⟨failure,left,ends⟩
    have logging : (closed s o).journal.LogsTo (Files.join folder Log.Journal.fileName) :=
      (Log.Journal.putAll_keeps (P := fun _ => True) (fun _ _ _ _ _ => trivial) trivial logs _).2
    have ends := writeReport_ends clean logging (if o.result.isOk then 0 else 1)
    have same : r = _ := concluding_reports run handled
    rw [← same] at ends
    rcases ends with ⟨same,filed⟩ | ⟨failure,same,unmade⟩
    · rw [same]
      refine ⟨?_,?_,nofun,fun _ => ?_⟩
      · cases o.result <;> simp [endingOf,Except.isOk,Except.toBool]
      · cases o.result <;> simp [endingOf,Except.isOk,Except.toBool]
      · rcases filed with ⟨report,made,read⟩ | refused
        · exact .inl ⟨report,candid.truthful made,read⟩
        · exact .inr refused
    · rw [same]
      -- Only a watermark is kept as it comes, and a run that returns has a known one or none.
      have mark := Report.ofState_error candid.timed candid.named unmade
      have raised : ∃ failure, o.result = .error failure := by
        cases left : o.result with
        | error failure => exact ⟨failure,rfl⟩
        | ok _ =>
          have absent : Report.moment o.world.state.watermark = .error failure := mark
          rcases candid.marked left with unread | ⟨t,known⟩
          · rw [unread] at absent
            cases absent
          · rw [known] at absent
            cases absent
      obtain ⟨cause,left⟩ := raised
      refine ⟨by simp [left,endingOf],by simp [left,endingOf],?_,by simp [endingOf]⟩
      intro other same
      obtain rfl : failure = other := by simpa [endingOf] using same
      exact .inr mark

/-- The code tells of every failure of the run, the report of those that the run has booked. -/
theorem migrate_reported
    (asked : Request.ofArguments arguments = .order (.migrate config verbose dryRun jsonLogs))
    (clock : Universal (transferring s dryRun).clock)
    (began : (beginning env config verbose dryRun jsonLogs).outcome s = (.ok (folder,settings),s₁)) :
    let o := Migration.migrate settings (transferring s dryRun)
    Reported settings folder (closed s₁ o).journal.files o (run arguments env s) := by
  intro o
  obtain ⟨⟨world,clean,logs⟩,whole⟩ := beginning_ok began
  have run : Migration.migrate settings { s₁.world with state := { dryRun } } = o := by rw [world]; rfl
  rw [run_migrate env s asked,whole]
  exact concluding_reported clean logs run (Migration.migrate_candid settings clock rfl)

end Command

def sourceOnly : Environment :=
  [("SOURCE_HOST","legacy.internal"),("SOURCE_DB","conference"),("SOURCE_USER","reader")]

def blank : Session Scripts where
  journal := { origin := { logger := "room_migrator", module := "logging", moment := 0 } }
  world := { stores := {}, clock := [Timestamp.first] }

theorem blank_asked :
    Request.ofArguments ["migrate"] = .order (.migrate "config.yaml" false false false) := by
  decide +kernel

theorem blank_clock : Universal (transferring blank false).clock := by
  have one : Universal [Timestamp.first] := ⟨by simp,by simp [Timestamp.first]⟩
  exact one

def addressless : Outcome Scripts Unit :=
  ⟨.error (.targetMissing "DATABASE_URL"),transferring blank false,[]⟩

/-- The command comes to its run, which is refused at once, and its report can be written. -/
theorem blank_begins : ∃ folder settings s₁,
    (beginning sourceOnly "config.yaml" false false false).outcome blank = (.ok (folder,settings),s₁) ∧
    ¬ Migration.Ready settings ∧
    Migration.migrate settings (transferring blank false) = addressless ∧
    (Report.write (closed s₁ addressless).journal.files {} folder Report.fileName).2.isOk = true := by
  have settled : ((beginning sourceOnly "config.yaml" false false false).outcome blank).1.toOption.map
      (fun begun => (begun.1,begun.2.legacy.missing,begun.2.targetAddress)) =
        some ("migration_logs/run_10101_000000",[],"") := by decide +kernel
  have written : (Report.write (closed
      ((beginning sourceOnly "config.yaml" false false false).outcome blank).2 addressless).journal.files
        {} "migration_logs/run_10101_000000" Report.fileName).2.isOk = true := by decide +kernel
  rcases began : (beginning sourceOnly "config.yaml" false false false).outcome blank with ⟨_ | begun,s₁⟩ <;>
    rw [began] at settled written
  · cases settled
  · obtain ⟨folder,settings⟩ := begun
    simp only [Except.toOption,Option.map_some,Option.some.injEq,Prod.mk.injEq] at settled
    obtain ⟨rfl,complete,missing⟩ := settled
    have legacy : settings.requireLegacy = .ok () := by simp [Settings.requireLegacy,complete]
    have target : settings.requireTarget = .error (.targetMissing "DATABASE_URL") := by
      simp [Settings.requireTarget,missing]
    refine ⟨_,settings,s₁,rfl,fun ready => ?_,?_,written⟩
    · exact absurd (target.symm.trans ready.2) nofun
    · unfold Migration.migrate
      rw [legacy,target]
      rfl

/-- Without an address of the target the command ends with code one, and its report is written. -/
theorem target_missing_reported :
    Request.ofArguments ["migrate"] = .order (.migrate "config.yaml" false false false) ∧
    Universal (transferring blank false).clock ∧ ∃ folder settings s₁,
      (beginning sourceOnly "config.yaml" false false false).outcome blank = (.ok (folder,settings),s₁) ∧
      let o := Migration.migrate settings (transferring blank false)
      Reported settings folder (closed s₁ o).journal.files o (run ["migrate"] sourceOnly blank) := by
  obtain ⟨folder,settings,s₁,began,_⟩ := blank_begins
  exact ⟨blank_asked,blank_clock,folder,settings,s₁,began,
    migrate_reported blank_asked blank_clock began⟩

/-- A report that tells of no failure may be that of a command that ended with code one. -/
theorem target_missing_untold :
    ¬ ∀ (arguments : List String) (env : Environment) (config : String) (verbose dryRun jsonLogs : Bool)
      (s s₁ : Session Scripts) (folder : String) (settings : Settings) (code : Nat)
      (report : List (String × Yaml.Block)),
      Request.ofArguments arguments = .order (.migrate config verbose dryRun jsonLogs) →
      Universal (transferring s dryRun).clock →
      (beginning env config verbose dryRun jsonLogs).outcome s = (.ok (folder,settings),s₁) →
      (run arguments env s).1 = .exit code →
      (run arguments env s).2.journal.files.read (Files.join folder Report.fileName) =
        .ok (Text.Utf8.encode (String.ofList (Yaml.document report))) →
      (Report.summaryField report "failed" = some (.bool true) ↔ code = 1) := by
  intro always
  obtain ⟨folder,settings,s₁,began,unready,failed,written⟩ := blank_begins
  obtain ⟨⟨world,clean,logs⟩,whole⟩ := beginning_ok began
  have candid : Migration.Candid settings (Migration.migrate settings (transferring blank false)) :=
    Migration.migrate_candid settings blank_clock rfl
  rw [failed] at candid
  have reported : Reported settings folder (closed s₁ addressless).journal.files addressless
      (run ["migrate"] sourceOnly blank) := by
    rw [run_migrate sourceOnly blank blank_asked,whole]
    exact concluding_reported clean logs (by rw [world]; exact failed) candid
  have ended : (run ["migrate"] sourceOnly blank).1 = .exit 1 := by
    rcases reported.raised.mpr ⟨_,rfl⟩ with one | ⟨failure,through⟩
    · exact one
    · rcases reported.unhandled failure through with ⟨same,ends⟩ | mark
      · obtain rfl := Except.error.inj same
        exact absurd ends (by decide)
      · cases mark
  rcases reported.report ⟨1,ended⟩ with ⟨report,truthful,read⟩ | ⟨failure,_,refused⟩
  · have untold := truthful.untold fun ⟨_,tells⟩ => unready tells.1
    have told := (always _ _ _ _ _ _ _ _ _ _ _ _ blank_asked blank_clock began ended read).mpr rfl
    rw [untold.1] at told
    cases told
  · have made : (Except.error failure : Except Failure String).isOk = true := refused ▸ written
    cases made

end CommandLine

end RoomTransfer
