import RoomTransfer.Log.Journal
import RoomTransfer.Proofs.Filing

/-! The journal and the files around it. Records go to one file, so every file at another place is
read as before, whatever is logged. -/
namespace RoomTransfer

/-- Two paths that lead to different places, whatever files there are. -/
def Files.Apart (path other : String) : Prop := ∀ (t : Files) place place',
  t.place path = .ok place → t.place other = .ok place' → place' ≠ place

/-- Plain names that end in different letters are apart in every folder. -/
theorem Files.apart_of_last {folder first second : String} (long : 2 < first.length)
    (long' : 2 < second.length) (plain : '/' ∉ first.toList) (plain' : '/' ∉ second.toList)
    (relative : first.startsWith "/" = false) (relative' : second.startsWith "/" = false)
    (differ : first.toList.getLast? ≠ second.toList.getLast?) :
    Apart (join folder first) (join folder second) := by
  intro t place place' led led' same
  obtain ⟨above,piece,rfl⟩ := place_join long plain relative led
  obtain ⟨above',piece',rfl⟩ := place_join long' plain' relative' led'
  have ends : String.ofList (piece' ++ second.toList) = String.ofList (piece ++ first.toList) := by
    simpa using congrArg List.getLast? same
  have names : piece' ++ second.toList = piece ++ first.toList := String.ofList_injective ends
  have given {name : String} (size : 2 < name.length) : ∃ c, name.toList.getLast? = some c := by
    refine ⟨_,List.getLast?_eq_some_getLast fun none => ?_⟩
    rw [← String.length_toList,none] at size
    exact absurd size (by decide)
  obtain ⟨c,last⟩ := given long
  obtain ⟨d,last'⟩ := given long'
  have both := congrArg List.getLast? names
  rw [List.getLast?_append,List.getLast?_append,last,last'] at both
  exact differ (last.trans (both.symm.trans last'.symm))

namespace Log

def Handler.LogsTo (path : String) (h : Handler) : Prop :=
  match h.sink with
  | .console => True
  | .file own _ => own = path

namespace Journal

variable {path other : String} {content : List UInt8} {j : Journal}

def LogsTo (path : String) (j : Journal) : Prop := ∀ h ∈ j.handlers, h.LogsTo path

/-- What writing the file at a path leaves true of the files. -/
def KeptBy (path : String) (P : Files → Prop) : Prop :=
  ∀ t bytes u, t.write path bytes = .ok u → P t → P u

theorem read_keptBy (apart : Files.Apart path other) :
    KeptBy path fun t => t.read other = .ok content :=
  fun _ _ _ wrote known => Files.read_other wrote (apart _) known

variable {P : Files → Prop}

theorem writeLine_keeps (kept : KeptBy path P) (holds : P j.files) {h : Handler}
    (logs : h.LogsTo path) (line : String) : P (j.writeLine line h.sink).1.files ∧
      (j.writeLine line h.sink).1.handlers = j.handlers ∧
        Handler.LogsTo path { h with sink := (j.writeLine line h.sink).2 } := by
  obtain ⟨sink,level,layout⟩ := h
  cases sink with
  | console => exact ⟨holds,rfl,trivial⟩
  | file own position =>
    obtain rfl : own = path := logs
    refine ⟨?_,rfl,rfl⟩
    unfold writeLine
    dsimp only
    cases wrote : j.files.write own (overwrite ((j.files.read own).toOption.getD []) position
        (Text.Utf8.encode (line ++ "\n"))) with
    | error cause => exact holds
    | ok u => exact kept _ _ _ wrote holds

theorem deliver_keeps (kept : KeptBy path P) {handlers : List Handler} (holds : P j.files)
    (logs : ∀ h ∈ handlers, h.LogsTo path) (record : Record) : P (deliver record j handlers).1.files ∧
      (deliver record j handlers).1.handlers = j.handlers ∧
        ∀ h ∈ (deliver record j handlers).2, h.LogsTo path := by
  induction handlers generalizing j with
  | nil => exact ⟨holds,rfl,nofun⟩
  | cons h rest ih =>
    have own := logs h List.mem_cons_self
    have others := fun other member => logs other (List.mem_cons_of_mem h member)
    have step : ∃ k h', deliver record j (h :: rest) =
        ((deliver record k rest).1,h' :: (deliver record k rest).2) ∧
          P k.files ∧ k.handlers = j.handlers ∧ h'.LogsTo path := by
      by_cases low : h.level ≤ record.level
      · cases shown : h.layout.text j.origin record with
        | error cause => exact ⟨j,h,by simp [deliver,low,shown],holds,rfl,own⟩
        | ok line =>
          have written := writeLine_keeps kept holds own line
          exact ⟨_,_,by simp [deliver,low,shown],written⟩
      · exact ⟨j,h,by simp [deliver,low],holds,rfl,own⟩
    obtain ⟨k,h',whole,held,same,new⟩ := step
    obtain ⟨kept',still,later⟩ := ih held others
    rw [whole]
    exact ⟨kept',still.trans same,List.forall_mem_cons.mpr ⟨new,later⟩⟩

/-- Logging leaves true of the files what writing the log file does. -/
theorem put_keeps (kept : KeptBy path P) (holds : P j.files) (logs : j.LogsTo path)
    (record : Record) : P (j.put record).files ∧ (j.put record).LogsTo path := by
  unfold put
  split
  · split
    · next none =>
      have last : ∀ h ∈ [lastResort], h.LogsTo path := by simp [Handler.LogsTo,lastResort]
      obtain ⟨held,same,_⟩ := deliver_keeps kept holds last record
      exact ⟨held,by unfold LogsTo; rw [same]; exact logs⟩
    · obtain ⟨held,_,rest⟩ := deliver_keeps kept holds logs record
      exact ⟨held,rest⟩
  · exact ⟨holds,logs⟩

theorem putAll_keeps (kept : KeptBy path P) (holds : P j.files) (logs : j.LogsTo path)
    (records : List Record) :
    P (j.putAll records).files ∧ (j.putAll records).LogsTo path := by
  induction records generalizing j with
  | nil => exact ⟨holds,logs⟩
  | cons record rest ih =>
    obtain ⟨held,keeps⟩ := put_keeps kept holds logs record
    exact ih held keeps

/-- So does opening it, if making its folder does. -/
theorem openFile_keeps {folder : String} (kept : KeptBy (Files.join folder fileName) P)
    (making : ∀ t : Files, P t → P (t.makeFolders folder).1) (holds : P j.files)
    (logs : j.LogsTo (Files.join folder fileName)) :
    P (j.openFile folder).1.files ∧ (j.openFile folder).1.LogsTo (Files.join folder fileName) := by
  have made := making j.files holds
  unfold openFile
  split
  · next refused =>
    rw [refused] at made
    exact ⟨made,logs⟩
  · next done =>
    rw [done] at made
    dsimp only
    split
    · exact ⟨made,logs⟩
    · next files wrote =>
      let handler : Handler := ⟨.file (Files.join folder fileName) 0,debug,.logFile⟩
      have both : Journal.LogsTo (Files.join folder fileName)
          { j with files, handlers := j.handlers ++ [handler] } := by
        refine List.forall_mem_append.mpr ⟨logs,fun h member => ?_⟩
        obtain rfl := List.mem_singleton.mp member
        rfl
      exact put_keeps kept (kept _ _ _ wrote made) both _

theorem setUp_keeps {folder : String} (kept : KeptBy (Files.join folder fileName) P)
    (making : ∀ t : Files, P t → P (t.makeFolders folder).1) (holds : P j.files)
    (verbose objects : Bool) : P (j.setUp verbose folder objects).1.files ∧
      (j.setUp verbose folder objects).1.LogsTo (Files.join folder fileName) := by
  have console : Journal.LogsTo (Files.join folder fileName)
      { j with level := debug, handlers := [consoleHandler verbose objects] } := by
    intro h member
    obtain rfl := List.mem_singleton.mp member
    trivial
  unfold setUp
  split
  · exact ⟨holds,console⟩
  · exact openFile_keeps kept making holds console

theorem setUp_logsTo (j : Journal) (verbose objects : Bool) (folder : String) :
    (j.setUp verbose folder objects).1.LogsTo (Files.join folder fileName) :=
  (setUp_keeps (P := fun _ => True) (fun _ _ _ _ _ => trivial) (fun _ _ => trivial) trivial
    verbose objects).2

end Journal

end Log

end RoomTransfer
