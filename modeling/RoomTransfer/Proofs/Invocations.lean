import RoomTransfer.Proofs.KeptFiles
import RoomTransfer.Store.Script

/-! Invocations of the program, one after another: each finds the files that the last one left. A file
that is there outlives all of them, except that a run writes its log and its report over those of
another run that started in the same second. -/
namespace RoomTransfer.CommandLine

open Files Store

variable {σ : Type}

structure Invocation (σ : Type) where
  arguments : List String
  env : Environment
  world : World σ
  origin : Log.Origin
  answers : List String := []

def Invocation.session (i : Invocation σ) (t : Files) : Session σ where
  journal := { origin := i.origin, files := t }
  world := i.world
  answers := i.answers

/-- The moment for which the folder of its run is named, where it starts a run. -/
def Invocation.start? (i : Invocation σ) : Option Timestamp :=
  match Request.ofArguments i.arguments with
  | .order (.migrate _ _ _ _) => some (moment i.world)
  | _ => none

variable [Database σ] {t : Files} {place : List String} {content : List UInt8}

def Invocation.files (i : Invocation σ) (t : Files) : Files :=
  (run i.arguments i.env (i.session t)).2.journal.files

def filesAfter (t : Files) (invocations : List (Invocation σ)) : Files :=
  invocations.foldl (fun t i => i.files t) t

theorem filesAfter_append (t : Files) (first second : List (Invocation σ)) :
    filesAfter t (first ++ second) = filesAfter (filesAfter t first) second :=
  List.foldl_append

theorem run_session (arguments : List String) (env : Environment) (s : Session σ) :
    (run arguments env s).2 = ((answer env (Request.ofArguments arguments)).outcome s).2 := by
  unfold run Work.outcome
  rcases (answer env (Request.ofArguments arguments)).run.run s with ⟨_ | _,_⟩ <;> rfl

omit [Database σ] in
/-- No place is reached by the empty path, so nothing that logs there does harm. -/
theorem empty_misses (place : List String) : Misses "" place := nofun

/-- An order that starts no run only writes where nothing is. -/
theorem perform_has {env : Environment} {order : Order} {s : Session σ}
    (fresh : s.journal.handlers = []) (has : s.journal.files.Has place content)
    (spared : ∀ config verbose dryRun jsonLogs,
      order = .migrate config verbose dryRun jsonLogs → place ∉ runPlaces (moment s.world)) :
    ((perform env order).outcome s).2.journal.files.Has place content := by
  have keeping : Keeping place content "" s := ⟨has,Log.Journal.logsTo_of_fresh fresh⟩
  have misses := empty_misses place
  cases order with
  | migrate config verbose dryRun jsonLogs =>
    exact migrate_keeping env fresh has (spared _ _ _ _ rfl)
  | status config verbose =>
    exact ((withConsole_keeping verbose).bind
      (fun _ => settle_keeping misses (status_keeping env misses config)) s keeping).has
  | ensureIndex config verbose yes =>
    exact ((withConsole_keeping verbose).bind
      (fun _ => settle_keeping misses (ensureIndex_keeping env misses config yes)) s keeping).has
  | initConfig output =>
    exact ((withConsole_keeping false).bind (fun _ => initConfig_keeping misses output) s keeping).has

omit [Database σ] in
theorem refuse_keeping {path : String} (scope : Scope) (fault : Fault) :
    (refuse scope fault : Work σ Unit).Keeps (Keeping place content path) := by
  have closing : (Work.complain ("Error: " ++ fault.message ++ "\n") : Work σ Unit).Keeps
      (Keeping place content path) := complain_keeping _
  unfold refuse
  split
  · exact (complain_keeping _).bind fun _ => closing
  · exact closing

/-- What one invocation leaves of a file. -/
theorem Invocation.files_has {i : Invocation σ} (has : t.Has place content)
    (spared : ∀ u, i.start? = some u → place ∉ runPlaces u) : (i.files t).Has place content := by
  have keeping : Keeping place content "" (i.session t) := ⟨has,Log.Journal.logsTo_of_fresh rfl⟩
  unfold Invocation.files
  rw [run_session]
  cases asked : Request.ofArguments i.arguments with
  | version => exact ((print_keeping _).bind (fun _ => Work.keeps_pure _) _ keeping).has
  | page scope => exact ((print_keeping _).bind (fun _ => Work.keeps_pure _) _ keeping).has
  | refused scope fault =>
    exact ((refuse_keeping scope fault).bind (fun _ => Work.keeps_pure _) _ keeping).has
  | order order =>
    refine perform_has rfl has ?_
    rintro config verbose dryRun jsonLogs rfl
    exact spared _ (by rw [Invocation.start?,asked]; rfl)

/-- What any number of them leave of it. -/
theorem filesAfter_has {invocations : List (Invocation σ)} (has : t.Has place content)
    (spared : ∀ i ∈ invocations, ∀ u, i.start? = some u → place ∉ runPlaces u) :
    (filesAfter t invocations).Has place content := by
  induction invocations generalizing t with
  | nil => exact has
  | cons i rest ih =>
    exact ih (i.files_has has (spared i List.mem_cons_self))
      fun other member => spared other (List.mem_cons_of_mem _ member)

/-- A file that is there at some point keeps its content ever after, unless it is the log or the report
of a run and another run starts later in the same second. -/
theorem existing_file_kept (t : Files) (before after : List (Invocation σ))
    (has : (filesAfter t before).Has place content)
    (later : ∀ i ∈ after, ∀ u v, i.start? = some u → place ∈ runPlaces v → ¬ SameSecond v u) :
    (filesAfter t (before ++ after)).Has place content := by
  rw [filesAfter_append]
  exact filesAfter_has has fun i member u starts mine => later i member u u starts mine ⟨rfl,rfl⟩

omit [Database σ] in
theorem Invocation.eq_of_start? {i : Invocation σ} {u : Timestamp} (starts : i.start? = some u) :
    u = moment i.world := by
  unfold Invocation.start? at starts
  split at starts
  · exact (Option.some.inj starts).symm
  · cases starts

def Invocation.Writes (i : Invocation σ) : Prop :=
  (∃ config verbose dryRun jsonLogs,
    Request.ofArguments i.arguments = .order (.migrate config verbose dryRun jsonLogs)) ∨
  ∃ output, Request.ofArguments i.arguments = .order (.initConfig output)

def startedAt (u : Timestamp) (arguments : List String) : Invocation Scripts where
  arguments
  env := [("SOURCE_PORT","a")]
  world := { stores := {}, clock := [u] }
  origin := { logger := "room_migrator", module := "logging", moment := 0 }

def firstLog : List String := ["migration_logs","run_10101_000000","migration.log"]

def firstText : List UInt8 := Text.Utf8.encode "An earlier run.\n"

def oneLog : Files where
  entries := [(["migration_logs"],.folder),(["migration_logs","run_10101_000000"],.folder),
    (firstLog,.file firstText)]

def secondMoment : Timestamp :=
  { Timestamp.first with micros := 1000000, micros_lt := by decide }

theorem firstLog_mem : firstLog ∈ runPlaces .first := by decide +kernel

/-- The log outlives a run in the next second and a new settings file. -/
theorem log_outlives_second :
    oneLog.Has firstLog firstText ∧
    (filesAfter oneLog ([] ++ [startedAt secondMoment ["migrate"],
      startedAt secondMoment ["init-config"]])).Has firstLog firstText := by
  have has : oneLog.Has firstLog firstText := by decide
  refine ⟨has,existing_file_kept oneLog [] _ has fun i member u v starts mine same => ?_⟩
  have second : u = secondMoment := by
    rw [Invocation.eq_of_start? starts]
    simp only [List.mem_cons,List.not_mem_nil,or_false] at member
    rcases member with rfl | rfl <;> rfl
  have shared := (runPlaces_shared firstLog_mem).mp mine
  rw [second] at same
  exact absurd (shared.time.trans same.time) (by decide)

/-- A run in the same second writes over the log of the first, even if it gets no further than its
settings. -/
theorem log_lost_within_second :
    ¬ ∀ (t : Files) (before after : List (Invocation Scripts)) (place : List String)
      (content : List UInt8), (∀ i ∈ before ++ after, i.Writes) →
      (filesAfter t before).Has place content → (filesAfter t (before ++ after)).Has place content := by
  intro always
  have asked : Request.ofArguments ["migrate"] = .order (.migrate "config.yaml" false false false) := by
    decide +kernel
  have lost : ¬(filesAfter oneLog [startedAt .first ["migrate"]]).Has firstLog firstText := by
    decide +kernel
  refine lost (always oneLog [] [startedAt .first ["migrate"]] firstLog firstText ?_ (by decide))
  rintro i member
  obtain rfl := List.mem_singleton.mp member
  exact .inl ⟨_,_,_,_,asked⟩

end RoomTransfer.CommandLine
