import RoomTransfer.Files

/-! Files that are written and read. What was written is read back, and a file at another place
stays as it is. Where a name in a folder leads is known by the name alone. -/
namespace RoomTransfer

namespace Text

variable {mark c : Char} {cs ds : List Char}

/-- Behind text without a mark in it the last piece goes on. -/
theorem cut_append (plain : mark ∉ ds) : ∃ front piece,
    cut mark (cs ++ ds) = front ++ [piece ++ ds] := by
  induction cs with
  | nil =>
    refine ⟨[],[],?_⟩
    induction ds with
    | nil => rfl
    | cons d ds ih =>
      obtain ⟨differ,rest⟩ := not_or.mp (mt List.mem_cons.mpr plain)
      have tail := ih rest
      simp only [List.nil_append] at tail ⊢
      simp [cut,Ne.symm differ,tail]
  | cons c cs ih =>
    obtain ⟨front,piece,whole⟩ := ih
    by_cases same : c = mark
    · exact ⟨[] :: front,piece,by simp [cut,same,whole]⟩
    · cases front with
      | nil => exact ⟨[],c :: piece,by simp [cut,same,whole]⟩
      | cons first front => exact ⟨(c :: first) :: front,piece,by simp [cut,same,whole]⟩

theorem cut_plain (plain : mark ∉ cs) : cut mark cs = [cs] := by
  induction cs with
  | nil => rfl
  | cons c cs ih =>
    obtain ⟨differ,rest⟩ := not_or.mp (mt List.mem_cons.mpr plain)
    simp [cut,Ne.symm differ,ih rest]

/-- Text without a mark in it is the first piece of what a mark follows. -/
theorem cut_mark (plain : mark ∉ cs) : cut mark (cs ++ mark :: ds) = cs :: cut mark ds := by
  induction cs with
  | nil => simp [cut]
  | cons c cs ih =>
    obtain ⟨differ,rest⟩ := not_or.mp (mt List.mem_cons.mpr plain)
    simp [cut,Ne.symm differ,ih rest]

theorem mem_cut {piece : List Char} (member : piece ∈ cut mark cs) (found : c ∈ piece) : c ∈ cs := by
  induction cs generalizing piece with
  | nil =>
    obtain rfl := List.mem_singleton.mp member
    cases found
  | cons d cs ih =>
    unfold cut at member
    split at member
    · rcases List.mem_cons.mp member with rfl | later
      · cases found
      · exact List.mem_cons_of_mem d (ih later found)
    · split at member
      · next none =>
        obtain rfl := List.mem_singleton.mp member
        obtain rfl := List.mem_singleton.mp found
        exact List.mem_cons_self
      · next first others whole =>
        rcases List.mem_cons.mp member with rfl | later
        · rcases List.mem_cons.mp found with rfl | rest
          · exact List.mem_cons_self
          · exact List.mem_cons_of_mem d (ih (by rw [whole]; exact List.mem_cons_self) rest)
        · exact List.mem_cons_of_mem d (ih (by rw [whole]; exact List.mem_cons_of_mem _ later) found)

end Text

namespace Files

variable {t u : Files} {place other : List String} {path : String} {content : List UInt8}
  {e : FileEntry}

section Entries

theorem lookup_cons_ite (entries : List (List String × FileEntry)) :
    List.lookup other ((place,e) :: entries) =
      if other = place then some e else List.lookup other entries := by
  by_cases same : other = place
  · simp [same]
  · simp [List.lookup_cons,same,beq_false_of_ne same]

theorem lookup_replaced (entries : List (List String × FileEntry)) :
    List.lookup other (entries.map fun (p,old) => if p = place then (p,e) else (p,old)) =
      if other = place then (List.lookup other entries).map fun _ => e
      else List.lookup other entries := by
  induction entries with
  | nil => simp
  | cons entry rest ih =>
    obtain ⟨p,old⟩ := entry
    rw [List.map_cons]
    by_cases same : p = place
    · subst same
      simp only [if_true,lookup_cons_ite,ih]
      split <;> rfl
    · simp only [same,if_false,lookup_cons_ite,ih]
      by_cases here : other = p
      · simp [here,same]
      · simp [here]

theorem entry_put_other (differ : other ≠ place) : Files.entry? (t.put place e) other = t.entry? other := by
  unfold put
  split
  · rfl
  · split
    · simp [ entry?,lookup_replaced,differ]
    · have apart : (other == place) = false := by simp [differ]
      simp [ entry?,List.lookup_append,List.lookup_cons,apart]

theorem entry_put_same (inside : outside? place = none) : Files.entry? (t.put place e) place = some e := by
  unfold put
  simp only [inside,Option.isSome_none,Bool.false_eq_true,if_false]
  split
  · next held =>
    obtain ⟨old,found⟩ := Option.isSome_iff_exists.mp held
    simp [ entry?,inside,lookup_replaced,found]
  · next absent =>
    have none : List.lookup place t.entries = none := Option.not_isSome_iff_eq_none.mp absent
    simp only [ entry?,inside,Option.orElse_none,List.lookup_append,none,Option.none_or]
    exact List.lookup_cons_self

/-- Nothing stands outside of the working folder under a name as long as this. -/
theorem outside_long {front : List String} {name : String} (long : 4 < name.length) :
    outside? (front ++ [name]) = none := by
  have last : (front ++ [name]).getLast? = some name := by simp
  have short (other : String) (few : other.length ≤ 4) : name ≠ other := by
    rintro rfl
    omega
  have ends {names : List String} (few : ∀ other, names.getLast? = some other → other.length ≤ 4) :
      front ++ [name] ≠ names := by
    rintro rfl
    exact absurd rfl (short name (few name last))
  unfold outside?
  rw [if_neg,if_neg]
  · split
    · next found same =>
      have own : name = found := by
        rw [same] at last
        exact (Option.some.inj last).symm
      rw [if_neg]
      intro member
      have few : ∀ other ∈ systemFolders, other.length ≤ 4 := by decide
      exact short found (few found (List.contains_iff_mem.mp member)) own
    · rfl
  · exact ends (by decide)
  · simp only [Bool.or_eq_true,decide_eq_true_eq,not_or]
    refine ⟨?_,ends (by decide)⟩
    simp [short ".." (by decide)]

end Entries

section Walks

/-- Only folders are walked through, so what else stands at a place changes no walk. -/
theorem walk_put {names from_ : List String} (barred : t.entry? place ≠ some .folder)
    (walked : t.walk from_ names = .ok other) : (t.put place e).walk from_ names = .ok other := by
  induction names generalizing from_ with
  | nil => exact walked
  | cons name rest ih =>
    unfold walk at walked ⊢
    split at walked
    · cases walked
    · cases walked
    · next folder =>
      have apart : from_ ≠ place := by
        rintro rfl
        exact barred folder
      rw [entry_put_other apart,folder]
      dsimp only
      split at walked
      · next same => rw [if_pos same]; exact ih walked
      · next same =>
        rw [if_neg same]
        split at walked
        · next up => rw [if_pos up]; exact ih walked
        · next up =>
          rw [if_neg up]
          split at walked
          · cases walked
          · next fits => rw [if_neg fits]; exact ih walked

theorem place_put (barred : t.entry? place ≠ some .folder) (led : t.place path = .ok other) :
    (t.put place e).place path = .ok other := by
  unfold Files.place at led ⊢
  cases checked : check path with
  | error cause =>
    rw [checked] at led
    cases led
  | ok _ =>
    rw [checked] at led
    exact walk_put barred led

/-- A walk ends at the last of its names. -/
theorem walk_last {front from_ : List String} {name : String} (long : 2 < name.length)
    (walked : t.walk from_ (front ++ [name]) = .ok other) : ∃ above, other = above ++ [name] := by
  have dotless (dots : String) (few : dots.length ≤ 2) : name ≠ dots := by
    rintro rfl
    omega
  induction front generalizing from_ with
  | nil =>
    rw [List.nil_append] at walked
    unfold walk at walked
    split at walked
    · cases walked
    · cases walked
    · rw [if_neg (dotless "." (by decide)),if_neg (dotless ".." (by decide))] at walked
      split at walked
      · cases walked
      · exact ⟨from_,(Except.ok.inj walked).symm⟩
  | cons step front ih =>
    rw [List.cons_append] at walked
    unfold walk at walked
    split at walked
    · cases walked
    · cases walked
    · split at walked
      · exact ih walked
      · split at walked
        · exact ih walked
        · split at walked
          · cases walked
          · exact ih walked

/-- A walk along names that all lead further down goes through all of them. -/
theorem walk_down {names from_ : List String} (down : ∀ name ∈ names, name ≠ "." ∧ name ≠ "..")
    (walked : t.walk from_ names = .ok other) : other = from_ ++ names := by
  induction names generalizing from_ with
  | nil => rw [List.append_nil]; exact (Except.ok.inj walked).symm
  | cons name rest ih =>
    obtain ⟨here,up⟩ := down name List.mem_cons_self
    unfold walk at walked
    split at walked
    · cases walked
    · cases walked
    · rw [if_neg here,if_neg up] at walked
      split at walked
      · cases walked
      · rw [ih (fun other member => down other (List.mem_cons_of_mem name member)) walked,
          List.append_assoc,List.singleton_append]

end Walks

/-- Where a file with a plain name in a folder is: its place ends in that name. -/
theorem place_join {folder name : String} (long : 2 < name.length) (plain : '/' ∉ name.toList)
    (relative : name.startsWith "/" = false) (led : t.place (join folder name) = .ok place) :
    ∃ above piece, place = above ++ [String.ofList (piece ++ name.toList)] := by
  have text : ∃ before : List Char, (join folder name).toList = before ++ name.toList := by
    unfold join
    rw [relative]
    simp only [Bool.false_eq_true,if_false]
    split
    · exact ⟨folder.toList,String.toList_append⟩
    · exact ⟨(folder ++ "/").toList,String.toList_append⟩
  obtain ⟨before,text⟩ := text
  have cuts : ∃ front piece, Text.cut '/' (before ++ name.toList) =
      front ++ [piece ++ name.toList] := Text.cut_append plain
  obtain ⟨front,piece,cuts⟩ := cuts
  have grown : 2 < (String.ofList (piece ++ name.toList)).length := by
    simp only [String.length_ofList,List.length_append,String.length_toList]
    omega
  have given : String.ofList (piece ++ name.toList) ≠ "" := by
    intro none
    rw [none] at grown
    exact absurd grown (by decide)
  have named : names (join folder name) = (front.map String.ofList).filter (· ≠ "") ++
      [String.ofList (piece ++ name.toList)] := by
    unfold names Text.pieces
    rw [text,cuts,List.map_append,List.filter_append]
    exact congrArg _ (List.filter_eq_self.mpr (by simpa using given))
  unfold Files.place at led
  cases checked : check (join folder name) with
  | error cause =>
    rw [checked] at led
    cases led
  | ok _ =>
    rw [checked] at led
    change t.walk _ (names (join folder name)) = .ok place at led
    rw [named] at led
    obtain ⟨above,ends⟩ := walk_last grown led
    exact ⟨above,piece,ends⟩

section Writing

theorem write_ok : t.write path content = .ok u ↔ path.endsWith "/" = false ∧
    ∃ place, t.place path = .ok place ∧ t.entry? place ≠ some .folder ∧
      t.put place (.file content) = u := by
  unfold write
  cases checked : check path with
  | error cause => simp [Files.place,checked,bind,Except.bind]
  | ok _ =>
    cases slash : path.endsWith "/" with
    | true =>
      cases t.walk (start path) ((names path).dropLast ++ ["."]) <;>
        simp [bind,Except.bind,throw,throwThe,MonadExceptOf.throw]
    | false =>
      cases led : t.place path with
      | error cause => simp [bind,Except.bind]
      | ok place =>
        cases found : t.entry? place with
        | none => simp [bind,Except.bind,found]
        | some entry => cases entry <;> simp [bind,Except.bind,found]

theorem read_ok : t.read path = .ok content ↔ path.endsWith "/" = false ∧
    ∃ place, t.place path = .ok place ∧ t.entry? place = some (.file content) := by
  unfold read find
  cases led : t.place path with
  | error cause => simp [bind,Except.bind]
  | ok place =>
    cases found : t.entry? place with
    | none => simp [bind,Except.bind,found]
    | some entry =>
      cases entry with
      | folder => simp [bind,Except.bind,found]
      | file held => cases slash : path.endsWith "/" <;> simp [bind,Except.bind,found]

/-- What is written inside of the working folder is read back. -/
theorem read_written (wrote : t.write path content = .ok u)
    (inside : ∀ place, t.place path = .ok place → outside? place = none) :
    u.read path = .ok content := by
  obtain ⟨slash,place,led,barred,rfl⟩ := write_ok.mp wrote
  exact read_ok.mpr ⟨slash,place,place_put barred led,entry_put_same (inside place led)⟩

/-- What was written can be written again. -/
theorem write_again (wrote : t.write path content = .ok u)
    (inside : ∀ place, t.place path = .ok place → outside? place = none) (more : List UInt8) :
    ∃ v, u.write path more = .ok v ∧ v.read path = .ok more := by
  obtain ⟨slash,place,led,barred,rfl⟩ := write_ok.mp wrote
  have there := place_put (e := .file content) barred led
  have held := entry_put_same (t := t) (e := .file content) (inside place led)
  have again : (t.put place (.file content)).write path more = .ok _ :=
    write_ok.mpr ⟨slash,place,there,by simp [held],rfl⟩
  refine ⟨_,again,read_written again fun other found => ?_⟩
  obtain rfl := Except.ok.inj (there.symm.trans found)
  exact inside _ led

/-- A file at another place is read as before. -/
theorem read_other {apart : String} {held : List UInt8} (wrote : t.write path content = .ok u)
    (differ : ∀ place other, t.place path = .ok place → t.place apart = .ok other → other ≠ place)
    (known : t.read apart = .ok held) : u.read apart = .ok held := by
  obtain ⟨_,place,led,barred,rfl⟩ := write_ok.mp wrote
  obtain ⟨slash,other,leads,found⟩ := read_ok.mp known
  refine read_ok.mpr ⟨slash,other,place_put barred leads,?_⟩
  rw [entry_put_other (differ place other led leads),found]

end Writing

/-- A path without a null character, which the file system is asked about. -/
def Clean (path : String) : Prop := ∀ c ∈ path.toList, c.toNat ≠ 0

-- Without its name another instance may be found, one that runs through all characters.
instance (path : String) : Decidable (Clean path) :=
  List.decidableBAll (fun c : Char => c.toNat ≠ 0) path.toList

section Refusals

theorem Clean.append {first second : String} (one : Clean first) (two : Clean second) :
    Clean (first ++ second) := by
  intro c member
  rw [String.toList_append] at member
  rcases List.mem_append.mp member with before | after
  · exact one c before
  · exact two c after

theorem Clean.join {folder name : String} (one : Clean folder) (two : Clean name) :
    Clean (join folder name) := by
  unfold Files.join
  split
  · exact two
  · split
    · exact one.append two
    · exact (one.append (by decide)).append two

theorem clean_of_place (led : t.place path = .ok place) : Clean path := by
  unfold Files.place check at led
  split at led
  · cases led
  · next none => simpa [Clean] using none

theorem walk_refused {names from_ : List String} {cause : FileError}
    (refused : t.walk from_ names = .error cause) : cause ≠ .nullCharacter := by
  induction names generalizing from_ with
  | nil => cases refused
  | cons name rest ih =>
    unfold walk at refused
    split at refused
    · obtain rfl := Except.error.inj refused
      decide
    · obtain rfl := Except.error.inj refused
      decide
    · split at refused
      · exact ih refused
      · split at refused
        · exact ih refused
        · split at refused
          · obtain rfl := Except.error.inj refused
            decide
          · exact ih refused

theorem check_refused {cause : FileError} (clean : Clean path) (refused : check path = .error cause) :
    cause ≠ .nullCharacter := by
  unfold check at refused
  split at refused
  · next null =>
    obtain ⟨c,member,zero⟩ := List.any_eq_true.mp null
    exact absurd (by simpa using zero) (clean c member)
  · split at refused
    · obtain rfl := Except.error.inj refused
      decide
    · split at refused
      · obtain rfl := Except.error.inj refused
        decide
      · cases refused

theorem place_refused {cause : FileError} (clean : Clean path) (refused : t.place path = .error cause) :
    cause ≠ .nullCharacter := by
  unfold Files.place at refused
  cases checked : check path with
  | error other =>
    rw [checked] at refused
    obtain rfl := Except.error.inj refused
    exact check_refused clean checked
  | ok _ =>
    rw [checked] at refused
    exact walk_refused refused

theorem makeFolder_refused {cause : FileError} (clean : Clean path)
    (refused : t.makeFolder path = .error cause) : cause ≠ .nullCharacter := by
  unfold makeFolder at refused
  cases led : t.place path with
  | error other =>
    rw [led] at refused
    obtain rfl := Except.error.inj refused
    exact place_refused clean led
  | ok place =>
    cases found : t.entry? place with
    | none => simp [led,found,bind,Except.bind] at refused
    | some entry =>
      simp only [led,found,bind,Except.bind,Except.error.injEq] at refused
      subst refused
      decide

theorem write_refused {cause : FileError} (clean : Clean path)
    (refused : t.write path content = .error cause) : cause ≠ .nullCharacter := by
  unfold write at refused
  cases checked : check path with
  | error other =>
    rw [checked] at refused
    obtain rfl := Except.error.inj refused
    exact check_refused clean checked
  | ok _ =>
    cases slash : path.endsWith "/" with
    | true =>
      cases walked : t.walk (start path) ((names path).dropLast ++ ["."]) with
      | error other =>
        simp only [checked,slash,walked,bind,Except.bind,if_true] at refused
        obtain rfl := Except.error.inj refused
        exact walk_refused walked
      | ok _ =>
        simp only [checked,slash,walked,bind,Except.bind,if_true] at refused
        obtain rfl := Except.error.inj refused
        decide
    | false =>
      cases led : t.place path with
      | error other =>
        simp only [checked,slash,led,bind,Except.bind,Bool.false_eq_true,if_false] at refused
        obtain rfl := Except.error.inj refused
        exact place_refused clean led
      | ok place =>
        simp only [checked,slash,led,bind,Except.bind,Bool.false_eq_true,if_false] at refused
        split at refused
        · obtain rfl := Except.error.inj refused
          decide
        · cases refused

/-- The paths above a clean path are clean. -/
theorem chain_clean {above : String} (clean : Clean path) (member : above ∈ chain path) :
    Clean above := by
  have all (before : String) (pieces : List String) (one : Clean before)
      (each : ∀ piece ∈ pieces, Clean piece) : ∀ p ∈ chain.go before pieces, Clean p := by
    induction pieces generalizing before with
    | nil => nofun
    | cons piece rest ih =>
      have here := one.append (each piece List.mem_cons_self)
      intro p found
      rcases List.mem_cons.mp found with rfl | later
      · exact here
      · exact ih _ (here.append (by decide)) (fun other inside =>
          each other (List.mem_cons_of_mem piece inside)) p later
  refine all "" (Text.pieces '/' path) nofun (fun piece inside => ?_) above
    (List.mem_filter.mp member).1
  obtain ⟨cs,cut,rfl⟩ := List.mem_map.mp inside
  intro c found
  exact clean c (Text.mem_cut cut (by simpa using found))

theorem makeEach_refused {paths : List String} {failure : Failure}
    (clean : ∀ p ∈ paths, Clean p) (refused : (t.makeEach paths).2 = .error failure) :
    failure.isFile = true := by
  induction paths generalizing t with
  | nil => cases refused
  | cons path rest ih =>
    have later := fun p member => clean p (List.mem_cons_of_mem path member)
    unfold makeEach at refused
    split at refused
    · exact ih later refused
    · split at refused
      · exact ih later refused
      · next cause made =>
        obtain rfl := Except.error.inj refused
        simpa [Failure.isFile] using makeFolder_refused (clean path List.mem_cons_self) made

/-- That a clean folder cannot be made is a refusal by the file system. -/
theorem makeFolders_refused {failure : Failure} (clean : Clean path)
    (refused : (t.makeFolders path).2 = .error failure) : failure.isFile = true := by
  unfold makeFolders at refused
  split at refused
  · next u cause made =>
    obtain rfl := Except.error.inj refused
    refine makeEach_refused (fun p member => chain_clean clean (List.dropLast_subset _ member))
      (t := t) ?_
    rw [made]
  · next u made =>
    split at refused
    · cases refused
    · next cause last =>
      dsimp only at refused
      split at refused
      · cases refused
      · obtain rfl := Except.error.inj refused
        simpa [Failure.isFile] using makeFolder_refused clean last

/-- A folder that is there after it was asked for has a clean path. -/
theorem makeFolders_clean (made : (t.makeFolders path).2 = .ok ()) : Clean path := by
  unfold makeFolders at made
  split at made
  · cases made
  · next u _ =>
    split at made
    · next v done =>
      unfold makeFolder at done
      cases led : u.place path with
      | error cause =>
        rw [led] at done
        cases done
      | ok place => exact clean_of_place led
    · next cause last =>
      dsimp only at made
      split at made
      · next there =>
        unfold isFolder find at there
        cases led : u.place path with
        | error cause => simp [led,bind,Except.bind] at there
        | ok place => exact clean_of_place led
      · cases made

end Refusals

end Files

end RoomTransfer
