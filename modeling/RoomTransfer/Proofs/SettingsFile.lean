import RoomTransfer.Proofs.ReaderRefusals
import RoomTransfer.Settings.File

/-! Settings from a path in any state. Whatever stands there, there are settings, or else the settings
are refused, unless the path or the text of the file is refused by what they are read with: that
goes out as it is. -/
namespace RoomTransfer

section Paths

variable {t : Files} {path : String}

theorem Files.holds_error {cause : FileError} (refused : t.holds path = .error cause) :
    cause = .nameTooLong := by
  unfold holds at refused
  split at refused
  · cases refused
  · exact (Except.error.inj refused).symm
  · cases refused

theorem Files.holds_of_read {bytes : List UInt8} (read : t.read path = .ok bytes) :
    t.holds path = .ok true := by
  obtain ⟨entry,found,_⟩ := bind_eq_ok read
  rw [holds,found]

end Paths

namespace Settings

variable {t : Files} {path : String} {env : Environment}

/-- What goes out in place of settings: nobody can tell whether there is a file, or what is in it
cannot be made into characters and values. -/
inductive Escapes (t : Files) (path : String) : Failure → Prop where
  | asked {cause : FileError} (refused : t.holds path = .error cause) :
    Escapes t path (.file cause path)
  | made {bytes : List UInt8} {cause : Failure} (content : t.read path = .ok bytes)
    (refused : Yaml.read (.ofBytes bytes) = .error (.refused cause)) : Escapes t path cause

/-- A file that tells nothing: it is missing, or cannot be read, or is no document. -/
inductive Mute (t : Files) (path : String) : Prop where
  | missing (absent : t.holds path = .ok false)
  | unreadable {cause : FileError} (present : t.holds path = .ok true)
    (refused : t.read path = .error cause)
  | malformed {bytes : List UInt8} {fault : Yaml.Fault} (content : t.read path = .ok bytes)
    (faulty : Yaml.read (.ofBytes bytes) = .error fault) (given : ∀ cause, fault ≠ .refused cause)

/-- The defaults with the credentials of an environment, unless its port is no integer. -/
inductive Bare (env : Environment) : Except Failure Settings → Prop where
  | ok {legacy : Credentials} (credentials : Credentials.ofEnvironment env = .ok legacy) :
    Bare env (.ok ⟨.default,legacy,env.get "DATABASE_URL"⟩)
  | error (given : env.get "SOURCE_PORT" ≠ "")
    (faulty : Text.integer? (env.get "SOURCE_PORT") = none) :
    Bare env (.error (.portNotInteger "SOURCE_PORT" (env.get "SOURCE_PORT")))

/-- The failures that go out in place of settings. -/
def escaping : List String := "OSError" :: Yaml.outward

theorem Escapes.kind {cause : Failure} (escapes : Escapes t path cause) :
    ∃ name ∈ escaping, cause.kind = .foreign name := by
  cases escapes with
  | asked refused =>
    rw [Files.holds_error refused]
    exact ⟨"OSError",.head _,rfl⟩
  | made content refused =>
    obtain ⟨name,known,kind⟩ := Yaml.refused_outward refused
    exact ⟨name,.tail _ known,kind⟩

theorem Escapes.readFile {cause : Failure} (escapes : Escapes t path cause) :
    readFile t path = (.error cause,[]) := by
  cases escapes with
  | asked refused => simp only [Settings.readFile,refused]
  | made content refused => simp only [Settings.readFile,Files.holds_of_read content,content,refused]

theorem Mute.readFile (mute : Mute t path) :
    (readFile t path).1 = .ok .nothing := by
  cases mute with
  | missing absent => simp only [Settings.readFile,absent]
  | unreadable present refused => simp only [Settings.readFile,present,refused]
  | malformed content faulty given =>
    simp only [Settings.readFile,Files.holds_of_read content,content,faulty]

theorem readFile_error {failure : Failure} (failed : (readFile t path).1 = .error failure) :
    Escapes t path failure := by
  unfold readFile at failed
  split at failed
  next cause refused =>
    cases failed
    exact .asked refused
  · cases failed
  · split at failed
    · cases failed
    next bytes content =>
      split at failed
      · cases failed
      next cause refused =>
        cases failed
        exact .made content refused
      · cases failed

theorem optionsOf_config (content : Yaml.Content) :
    FailsOnly (·.kind = .config) (optionsOf path content) := by
  unfold optionsOf
  split
  · exact .ok _
  · split
    · exact .ok _
    · exact .error rfl
  · exact .error rfl

theorem ofEnvironment_config (env : Environment) :
    FailsOnly (·.kind = .config) (Credentials.ofEnvironment env) := by
  have port : FailsOnly (·.kind = .config) (Credentials.readPort (env.get "SOURCE_PORT")) := by
    unfold Credentials.readPort
    split
    · exact .ok _
    · split
      · exact .ok _
      · exact .error rfl
  exact port.bind fun _ => .ok _

theorem withEnvironment_bare (env : Environment) :
    Bare env (withEnvironment { options := .default } env) := by
  unfold withEnvironment
  cases credentials : Credentials.ofEnvironment env with
  | ok legacy => exact .ok credentials
  | error failure =>
    unfold Credentials.ofEnvironment Credentials.readPort at credentials
    split at credentials
    · cases credentials
    next given =>
      split at credentials
      · cases credentials
      next faulty =>
        cases credentials
        exact .error (fun empty => given (by rw [empty]; rfl)) faulty

/-- The options and the environment come after the file. -/
theorem load_fst (t : Files) (path : String) (env : Environment) :
    (load t path env).1 = (readFile t (Files.tidy path)).1 >>= fun content =>
      optionsOf (Files.tidy path) content >>= fun options => withEnvironment { options } env := by
  unfold load
  rfl

theorem Escapes.load {cause : Failure} (escapes : Escapes t (Files.tidy path) cause)
    (env : Environment) : load t path env = (.error cause,[]) := by
  unfold Settings.load
  dsimp only
  rw [escapes.readFile]
  rfl

/-- What is in a file leads to settings, or to a refusal of them. -/
theorem load_of_content {content : Yaml.Content}
    (read : (readFile t (Files.tidy path)).1 = .ok content) (env : Environment) :
    FailsOnly (·.kind = .config) (load t path env).1 := by
  rw [load_fst,read]
  exact (optionsOf_config content).bind fun _ => (ofEnvironment_config env).bind fun _ => .ok _

theorem load_of_nothing (nothing : (readFile t (Files.tidy path)).1 = .ok .nothing) :
    (load t path env).1 = withEnvironment { options := .default } env := by
  rw [load_fst,nothing]
  rfl

/-- An empty file tells nothing either. -/
theorem readFile_empty (empty : t.read path = .ok []) : (readFile t path).1 = .ok .nothing := by
  have nothing : Yaml.read (.ofBytes []) = .ok .nothing := rfl
  simp only [readFile,Files.holds_of_read empty,empty,nothing]

/-- Bytes that are no text do not count as a file that tells nothing. -/
theorem Escapes.ofBroken {bytes : List UInt8} (content : t.read path = .ok bytes)
    (short : bytes.length ≤ Yaml.Source.blockLength)
    (broken : (Text.Utf8.split 0 bytes).2 ≠ .complete) :
    ∃ cause, Escapes t path (.undecodable cause) := by
  obtain ⟨cause,source⟩ := Yaml.ofBytes_broken short broken
  exact ⟨cause,.made content (by rw [source,Yaml.read_hindered])⟩

/-- Whatever stands at a path, there are settings, or else they are refused, apart from what goes out
as it is. Where the file tells nothing the settings are those of an empty file. A document may be
nested to any depth here: no limit on the recursion of its reader is modelled. -/
theorem load_settles (t : Files) (path : String) (env : Environment) :
    ((∃ s, (load t path env).1 = .ok s) ∨ ∃ failure, (load t path env).1 = .error failure ∧
      (failure.kind = .config ∨ Escapes t (Files.tidy path) failure)) ∧
    (∀ failure, Escapes t (Files.tidy path) failure → load t path env = (.error failure,[]) ∧
      ∃ name ∈ escaping, failure.kind = .foreign name) ∧
    (Mute t (Files.tidy path) → Bare env (load t path env).1 ∧
      ∀ u empty, u.read (Files.tidy empty) = .ok [] →
        (load t path env).1 = (load u empty env).1) := by
  refine ⟨?_,fun failure escapes => ⟨escapes.load env,escapes.kind⟩,fun mute => ?_⟩
  · cases read : (readFile t (Files.tidy path)).1 with
    | error failure =>
      have escapes := readFile_error read
      exact .inr ⟨failure,by rw [escapes.load],.inr escapes⟩
    | ok content =>
      have settled := load_of_content read env
      cases loaded : (load t path env).1 with
      | ok s => exact .inl ⟨s,rfl⟩
      | error failure => exact .inr ⟨failure,rfl,.inl (settled failure loaded)⟩
  · have told : (load t path env).1 = withEnvironment { options := .default } env :=
      load_of_nothing mute.readFile
    refine ⟨told ▸ withEnvironment_bare env,fun u empty content => ?_⟩
    exact told.trans (load_of_nothing (readFile_empty content)).symm

/-- A file of one byte that is no text leaves neither settings nor a refusal of them. -/
theorem broken_byte_escapes :
    ¬ ∀ (t : Files) (path : String) (env : Environment), (∃ s, (load t path env).1 = .ok s) ∨
      ∃ failure, (load t path env).1 = .error failure ∧ failure.kind = .config := by
  intro closed
  let t : Files := ⟨[(["config.yaml"],.file [0xFF])]⟩
  have broken : (Text.Utf8.split 0 [0xFF]).2 ≠ .complete := by
    rw [Text.Utf8.split]
    intro complete
    cases complete
  have content : t.read (Files.tidy "config.yaml") = .ok [0xFF] := by decide +kernel
  obtain ⟨cause,escapes⟩ := Escapes.ofBroken content (by decide) broken
  have escaped := escapes.load []
  rcases closed t "config.yaml" [] with ⟨s,loaded⟩ | ⟨failure,failed,config⟩
  · rw [escaped] at loaded
    cases loaded
  · rw [escaped] at failed
    cases failed
    cases config

end Settings

end RoomTransfer
