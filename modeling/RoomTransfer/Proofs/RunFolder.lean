import RoomTransfer.CommandLine.Program
import RoomTransfer.Proofs.DecimalText
import RoomTransfer.Proofs.Filing

/-! The folder of a run. It is named for the second at which the run starts, and the paths of what is
in it lead to one place each, whatever files there are. -/
namespace RoomTransfer

open Number

namespace Timestamp.Pattern

theorem chars_number (places n : Nat) :
    (({} : Manner).number places n).flatMap Piece.chars = paddedDigits places n := by
  have natural : ¬(n : Int) < 0 := by omega
  simp [Manner.number,Piece.chars,integerText,paddedDigits,natural]

/-- A pattern that leaves room is written as its pieces. -/
theorem write_eq {f : Face} {pattern : List Char}
    (fits : ((pieces f pattern.length pattern).flatMap Piece.chars).length < room pattern) :
    write f pattern = (pieces f pattern.length pattern).flatMap Piece.chars := by
  have taken (found : List Piece) (n : Nat) : found.foldl (fun n piece => n + piece.size) n =
      n + (found.flatMap Piece.chars).length := by
    induction found generalizing n with
    | nil => rfl
    | cons piece found ih =>
      rw [List.foldl_cons,ih,List.flatMap_cons,List.length_append,Nat.add_assoc]
      simp [Piece.size,Piece.chars]
  unfold write
  dsimp only
  rw [taken,Nat.zero_add,if_pos fits]

end Timestamp.Pattern

namespace Files

variable {s folder name : String}

theorem relative_of_plain (plain : '/' ∉ s.toList) : s.startsWith "/" = false := by
  refine Bool.eq_false_iff.mpr fun slash => plain ?_
  exact (String.startsWith_string_iff.mp slash).subset List.mem_cons_self

theorem getLast?_of_endsWith (slash : s.endsWith "/" = true) : s.toList.getLast? = some '/' := by
  have ends : s.toSlice.endsWith "/" = true := slash
  rw [String.Slice.endsWith_string_iff,String.copy_toSlice] at ends
  obtain ⟨front,whole⟩ := ends
  rw [← whole]
  exact List.getLast?_append_cons front '/' []

/-- The path of a plain name inside of a folder whose own path has no slash at its end. -/
theorem join_toList (plain : '/' ∉ name.toList) (given : folder ≠ "")
    (bare : folder.toList.getLast? ≠ some '/') :
    (join folder name).toList = folder.toList ++ '/' :: name.toList := by
  have nonempty : folder.isEmpty = false := by simpa [String.isEmpty_iff] using given
  have unended : folder.endsWith "/" = false := Bool.eq_false_iff.mpr (mt getLast?_of_endsWith bare)
  unfold join
  rw [relative_of_plain plain,nonempty,unended]
  simp only [Bool.false_eq_true,if_false,Bool.or_self,String.toList_append,List.append_assoc]
  rfl

end Files

namespace CommandLine

open Timestamp Timestamp.Pattern

def runPattern : List Char := "run_%Y%m%d_%H%M%S".toList

def runName (t : Timestamp) : String := String.ofList (t.byPattern runPattern)

def daySecond (t : Timestamp) : Nat := t.micros / 1000000

theorem pieces_run (f : Face) : pieces f runPattern.length runPattern =
    [⟨0,' ',['r']⟩,⟨0,' ',['u']⟩,⟨0,' ',['n']⟩,⟨0,' ',['_']⟩] ++
      (({} : Manner).number 1 f.year ++ (({} : Manner).number 2 f.date.month ++
        (({} : Manner).number 2 f.date.day ++ (⟨0,' ',['_']⟩ :: (({} : Manner).number 2 f.hour ++
          (({} : Manner).number 2 f.minute ++ ({} : Manner).number 2 f.second)))))) := rfl

def clockChars (t : Timestamp) : List Char := paddedDigits 2 (daySecond t / 3600) ++
  (paddedDigits 2 (daySecond t / 60 % 60) ++ paddedDigits 2 (daySecond t % 60))

theorem length_clockChars (t : Timestamp) : (clockChars t).length = 6 := by
  have bound := t.micros_lt
  have day : daySecond t < 86400 := by unfold daySecond; omega
  have two {n : Nat} (small : n < 100) : (paddedDigits 2 n).length = 2 := length_paddedDigits small
  unfold clockChars
  rw [List.length_append,List.length_append,two (by omega),two (by omega),two (by omega)]

/-- Month and day take two digits each. -/
theorem length_monthDay (d : Date) :
    (paddedDigits 2 d.month).length = 2 ∧ (paddedDigits 2 d.day).length = 2 := by
  have short : daysInMonth d.year d.month ≤ 31 := by
    unfold daysInMonth
    repeat' split
    all_goals omega
  have month := d.month_mem
  have day := d.day_mem
  exact ⟨length_paddedDigits (by omega),length_paddedDigits (by omega)⟩

/-- The digits of the date, then those of the time of day. -/
theorem runName_toList (t : Timestamp) : (runName t).toList = "run_".toList ++
    (paddedDigits 1 t.date.year ++ (paddedDigits 2 t.date.month ++ (paddedDigits 2 t.date.day ++
      '_' :: clockChars t))) := by
  have filled : fillIn t (runPattern.takeWhile (·.toNat ≠ 0)) = runPattern := rfl
  have year : (Face.ofTimestamp t).year = (t.date.year : Nat) := by
    simp [Face.year,Face.ofTimestamp]
  have chars : (pieces (Face.ofTimestamp t) runPattern.length runPattern).flatMap Piece.chars =
      "run_".toList ++ (paddedDigits 1 t.date.year ++ (paddedDigits 2 t.date.month ++
        (paddedDigits 2 t.date.day ++ '_' :: clockChars t))) := by
    rw [pieces_run,year]
    simp only [List.flatMap_append,List.flatMap_cons,chars_number]
    rfl
  have large : room runPattern = 8192 := by decide +kernel
  have digits : (paddedDigits 1 t.date.year).length ≤ 4 := by
    have known := t.date.year_mem
    have short := (Nat.length_toDigits_le_iff (n := t.date.year) (b := 10) (k := 4) (by decide)
      (by decide)).mpr (by omega)
    simp only [paddedDigits,Number.digits,List.length_append,List.length_replicate]
    omega
  have fits : ((pieces (Face.ofTimestamp t) runPattern.length runPattern).flatMap
      Piece.chars).length < room runPattern := by
    obtain ⟨month,day⟩ := length_monthDay t.date
    have start : "run_".toList.length = 4 := rfl
    rw [chars,large]
    simp only [List.length_append,List.length_cons,month,day,length_clockChars,start]
    omega
  unfold runName byPattern
  rw [String.toList_ofList,filled,write_eq fits,chars]

/-- Runs have folders of one name just if they start in one second. -/
structure SameSecond (t u : Timestamp) : Prop where
  date : t.date = u.date
  time : daySecond t = daySecond u

theorem clockChars_inj {t u : Timestamp} (same : clockChars t = clockChars u) :
    daySecond t = daySecond u := by
  have bound := t.micros_lt
  have bound' := u.micros_lt
  have day : daySecond t < 86400 := by unfold daySecond; omega
  have day' : daySecond u < 86400 := by unfold daySecond; omega
  have two {n : Nat} (small : n < 100) : (paddedDigits 2 n).length = 2 := length_paddedDigits small
  unfold clockChars at same
  obtain ⟨hours,rest⟩ := List.append_inj same (by rw [two (by omega),two (by omega)])
  obtain ⟨minutes,seconds⟩ := List.append_inj rest (by rw [two (by omega),two (by omega)])
  have hour := paddedDigits_inj hours
  have minute := paddedDigits_inj minutes
  have second := paddedDigits_inj seconds
  omega

theorem runName_inj {t u : Timestamp} : runName t = runName u ↔ SameSecond t u := by
  constructor
  · intro same
    obtain ⟨month,day⟩ := length_monthDay t.date
    obtain ⟨month',day'⟩ := length_monthDay u.date
    have chars := congrArg String.toList same
    rw [runName_toList,runName_toList] at chars
    have dated := List.append_cancel_left chars
    obtain ⟨years,rest⟩ := List.append_inj' dated (by
      simp only [List.length_append,List.length_cons,month,day,month',day',length_clockChars])
    obtain ⟨months,rest⟩ := List.append_inj rest (by rw [month,month'])
    obtain ⟨days,rest⟩ := List.append_inj rest (by rw [day,day'])
    have year := paddedDigits_inj years
    have month := paddedDigits_inj months
    have day := paddedDigits_inj days
    refine ⟨?_,clockChars_inj (List.cons.inj rest).2⟩
    obtain ⟨⟨_,_,_,_,_,_⟩,_,_,_⟩ := t
    obtain ⟨⟨_,_,_,_,_,_⟩,_,_,_⟩ := u
    dsimp only at year month day
    subst year month day
    rfl
  · rintro ⟨date,time⟩
    have chars : (runName t).toList = (runName u).toList := by
      rw [runName_toList,runName_toList,clockChars,clockChars,date,time]
    exact String.toList_inj.mp chars

section Places

variable {t : Files} {u : Timestamp} {name : String} {place : List String}

theorem runName_plain (u : Timestamp) : '/' ∉ (runName u).toList := by
  have digits (width n : Nat) : '/' ∉ paddedDigits width n := fun member =>
    absurd ((allDigits_zeros _).append (allDigits_digits n) '/' member) (by decide)
  simp [runName_toList,clockChars,digits]

theorem runName_first (u : Timestamp) : ∃ more, (runName u).toList = 'r' :: more :=
  ⟨_,runName_toList u⟩

theorem join_runFolder (u : Timestamp) (plain : '/' ∉ name.toList) :
    (Files.join (runFolder u) name).toList =
      "migration_logs".toList ++ '/' :: ((runName u).toList ++ '/' :: name.toList) := by
  have outer : (runFolder u).toList = "migration_logs".toList ++ '/' :: (runName u).toList :=
    Files.join_toList (runName_plain u) (by decide) (by decide)
  have given : runFolder u ≠ "" := by
    intro none
    rw [none] at outer
    cases outer
  have bare : (runFolder u).toList.getLast? ≠ some '/' := by
    intro slash
    obtain ⟨more,chars⟩ := runName_first u
    have last : (runName u).toList.getLast? = some '/' := by
      rw [outer,chars,List.getLast?_append_cons,List.getLast?_cons_cons] at slash
      rwa [chars]
    exact runName_plain u (List.mem_of_getLast? last)
  rw [Files.join_toList plain given bare,outer,List.append_assoc]
  rfl

/-- Whatever files there are, a file in the folder of a run can only be at one place. -/
theorem place_runFolder (plain : '/' ∉ name.toList) (long : 2 < name.length)
    (led : t.place (Files.join (runFolder u) name) = .ok place) :
    place = ["migration_logs",runName u,name] := by
  have path := join_runFolder u plain
  have relative : (Files.join (runFolder u) name).startsWith "/" = false := by
    refine Bool.eq_false_iff.mpr fun slash => ?_
    have first := String.startsWith_string_iff.mp slash
    rw [path] at first
    exact absurd (List.cons_prefix_cons.mp first).1 (by decide)
  have folder : runName u ≠ "" ∧ runName u ≠ "." ∧ runName u ≠ ".." := by
    obtain ⟨more,chars⟩ := runName_first u
    refine ⟨?_,?_,?_⟩ <;> (intro same; rw [same] at chars; cases chars)
  have own : name ≠ "" ∧ name ≠ "." ∧ name ≠ ".." := by
    refine ⟨?_,?_,?_⟩ <;> (rintro rfl; exact absurd long (by decide))
  have names : Files.names (Files.join (runFolder u) name) = ["migration_logs",runName u,name] := by
    unfold Files.names Text.pieces
    rw [path,Text.cut_mark (by decide),Text.cut_mark (runName_plain u),Text.cut_plain plain]
    simp [folder.1,own.1]
  unfold Files.place at led
  cases checked : Files.check (Files.join (runFolder u) name) with
  | error cause =>
    rw [checked] at led
    cases led
  | ok _ =>
    rw [checked] at led
    change t.walk (Files.start _) (Files.names _) = .ok place at led
    rw [names,Files.start,relative] at led
    refine Files.walk_down (fun step member => ?_) led
    simp only [List.mem_cons,List.not_mem_nil,or_false] at member
    rcases member with rfl | rfl | rfl
    · decide
    · exact folder.2
    · exact own.2

/-- The places of the log and of the report of a run. -/
def runPlaces (u : Timestamp) : List (List String) :=
  [["migration_logs",runName u,Log.Journal.fileName],["migration_logs",runName u,Report.fileName]]

/-- Runs have their files at the same places just if they start in the same second. -/
theorem runPlaces_shared {v : Timestamp} (mine : place ∈ runPlaces u) :
    place ∈ runPlaces v ↔ SameSecond u v := by
  have differ : Log.Journal.fileName ≠ Report.fileName := by decide
  rw [← runName_inj]
  simp only [runPlaces,List.mem_cons,List.not_mem_nil,or_false] at mine ⊢
  rcases mine with rfl | rfl <;> simp [differ,differ.symm]

end Places

end CommandLine

end RoomTransfer
