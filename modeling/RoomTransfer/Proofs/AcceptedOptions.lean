import RoomTransfer.Proofs.Conversion

/-! Options that are accepted. Each tells what is given for it, or its default. Numbers are checked for
what they are, while of the mode and the label only texts are checked for what they say. -/
namespace RoomTransfer

theorem WatermarkMode.ofName?_eq_some {s : String} {mode : WatermarkMode} :
    ofName? s = some mode ↔ s = mode.name := by
  constructor
  · intro found
    unfold ofName? at found
    have named := List.find?_some found
    exact (of_decide_eq_true named).symm
  · rintro rfl
    cases mode <;> rfl

namespace Options

/-- What is given for an option, or else its default. -/
def raw (given? : String → Option Value) (option : String) (value : Value) : Value :=
  (given? option).getD value

/-- The mode that a value stands for. A value that is no text stands for itself. -/
inductive Moded : Value → ModeOption → Prop where
  | named (mode : WatermarkMode) : Moded (.text mode.name) (.mode mode)
  | kept {v : Value} (textless : ∀ s, v ≠ .text s) : Moded v (.unchecked v)

/-- Options that tell what is given for them. -/
structure Tell (given? : String → Option Value) (o : Options) : Prop where
  batchSize : raw given? "batch_size" (.int 1000) = .int o.batchSize
  openRoomYears : raw given? "open_room_years" (.int 10) = .int o.openRoomYears
  pendingMarker : raw given? "pending_original_occurred_at" (.int (-1)) = .int o.pendingMarker
  watermarkMode : Moded (raw given? "watermark_mode" (.text "strict")) o.watermarkMode
  agentLabel : raw given? "agent_label" defaultLabel = o.agentLabel
  labeled : o.agentLabel.isGiven = true
  showProgress : raw given? "show_progress" (.bool true) = o.showProgress

section Checks

variable {v : Value} {option : String} {i : Int}

theorem checkMode_text (s : String) {mode : ModeOption} :
    checkMode (.text s) = .ok mode ↔ ∃ m : WatermarkMode, s = m.name ∧ mode = .mode m := by
  cases found : WatermarkMode.ofName? s with
  | some m =>
    have named := WatermarkMode.ofName?_eq_some.mp found
    constructor
    · intro checked
      simp only [checkMode,found,Except.ok.injEq] at checked
      exact ⟨m,named,checked.symm⟩
    · rintro ⟨other,same,rfl⟩
      have both := found.symm.trans (WatermarkMode.ofName?_eq_some.mpr same)
      obtain rfl := Option.some.inj both
      simp only [checkMode,found]
  | none =>
    constructor
    · intro checked
      simp [checkMode,found] at checked
    · rintro ⟨m,same,_⟩
      exact absurd (found.symm.trans (WatermarkMode.ofName?_eq_some.mpr same)) nofun

theorem checkMode_eq_ok {mode : ModeOption} : checkMode v = .ok mode ↔ Moded v mode := by
  by_cases text : ∃ s, v = .text s
  · obtain ⟨s,rfl⟩ := text
    refine (checkMode_text s).trans ⟨?_,?_⟩
    · rintro ⟨m,rfl,rfl⟩
      exact .named m
    · intro moded
      cases moded with
      | named m => exact ⟨m,rfl,rfl⟩
      | kept textless => exact absurd rfl (textless s)
  · have textless : ∀ s, v ≠ .text s := fun s same => text ⟨s,same⟩
    have checked : checkMode v = .ok (.unchecked v) := by
      cases v with
      | text s => exact absurd rfl (textless s)
      | _ => rfl
    rw [checked]
    constructor
    · rintro ⟨⟩
      exact .kept textless
    · intro moded
      cases moded with
      | named m => exact absurd rfl (textless m.name)
      | kept _ => rfl

theorem checkInteger_eq_ok : checkInteger option v = .ok i ↔ v = .int i := by
  cases v <;> simp [checkInteger]

theorem checkPositive_eq_ok {n : { n : Nat // 0 < n }} :
    checkPositive option i = .ok n ↔ i = (n.1 : Int) := by
  obtain ⟨n,positive⟩ := n
  unfold checkPositive
  split
  · rw [Except.ok.injEq,Subtype.mk.injEq]
    dsimp only
    omega
  · constructor
    · nofun
    · intro same
      dsimp only at same
      omega

theorem checkLabel_eq_ok {label : Value} :
    checkLabel v = .ok label ↔ v = label ∧ label.isGiven = true := by
  unfold checkLabel
  split
  · next given =>
    rw [Except.ok.injEq]
    exact ⟨fun same => ⟨same,same ▸ given⟩,And.left⟩
  · next empty =>
    refine ⟨nofun,?_⟩
    rintro ⟨rfl,given⟩
    exact absurd given empty

end Checks

/-- Options are accepted if and only if they tell what is given for them. -/
theorem ofGiven_eq_ok {given? : String → Option Value} {o : Options} :
    ofGiven given? = .ok o ↔ Tell given? o := by
  constructor
  · intro accepted
    obtain ⟨mode,moded,accepted⟩ := bind_eq_ok accepted
    obtain ⟨batch,integer₁,accepted⟩ := bind_eq_ok accepted
    obtain ⟨years,integer₂,accepted⟩ := bind_eq_ok accepted
    obtain ⟨marker,integer₃,accepted⟩ := bind_eq_ok accepted
    obtain ⟨size,positive₁,accepted⟩ := bind_eq_ok accepted
    obtain ⟨span,positive₂,accepted⟩ := bind_eq_ok accepted
    obtain ⟨label,labeled,accepted⟩ := bind_eq_ok accepted
    obtain rfl := Except.ok.inj accepted
    obtain rfl := checkPositive_eq_ok.mp positive₁
    obtain rfl := checkPositive_eq_ok.mp positive₂
    obtain ⟨told,given⟩ := checkLabel_eq_ok.mp labeled
    exact ⟨checkInteger_eq_ok.mp integer₁,checkInteger_eq_ok.mp integer₂,
      checkInteger_eq_ok.mp integer₃,checkMode_eq_ok.mp moded,told,given,rfl⟩
  · intro tell
    have moded := checkMode_eq_ok.mpr tell.watermarkMode
    have labeled := checkLabel_eq_ok.mpr ⟨tell.agentLabel,tell.labeled⟩
    have integer₁ : checkInteger "batch_size" _ = .ok _ := checkInteger_eq_ok.mpr tell.batchSize
    have integer₂ : checkInteger "open_room_years" _ = .ok _ :=
      checkInteger_eq_ok.mpr tell.openRoomYears
    have integer₃ : checkInteger "pending_original_occurred_at" _ = .ok _ :=
      checkInteger_eq_ok.mpr tell.pendingMarker
    have positive₁ : checkPositive "batch_size" o.batchSize = .ok ⟨o.batchSize,o.batchSize_pos⟩ :=
      checkPositive_eq_ok.mpr rfl
    have positive₂ : checkPositive "open_room_years" o.openRoomYears =
        .ok ⟨o.openRoomYears,o.openRoomYears_pos⟩ := checkPositive_eq_ok.mpr rfl
    have progress := tell.showProgress
    unfold raw at moded labeled integer₁ integer₂ integer₃ progress
    simp only [ofGiven,bind,Except.bind,moded,labeled,integer₁,integer₂,integer₃,positive₁,positive₂,
      progress]
    rfl

/-- A mode that is one of the two. -/
def HasMode (o : Options) : Prop := ∃ mode, o.watermarkMode = .mode mode

/-- A label that is a text, and not an empty one. -/
def HasLabel (o : Options) : Prop := ∃ s, o.agentLabel = .text s ∧ s ≠ ""

variable {given? : String → Option Value} {o : Options}

theorem Tell.mode_iff (tell : Tell given? o) :
    o.HasMode ↔ ∃ s, raw given? "watermark_mode" (.text "strict") = .text s := by
  have moded := tell.watermarkMode
  constructor
  · rintro ⟨mode,same⟩
    rw [same] at moded
    generalize raw given? "watermark_mode" (.text "strict") = v at moded ⊢
    cases moded
    exact ⟨mode.name,rfl⟩
  · rintro ⟨s,text⟩
    rw [text] at moded
    generalize same : o.watermarkMode = m at moded
    cases moded with
    | named mode => exact ⟨mode,same⟩
    | kept textless => exact absurd rfl (textless s)

theorem Tell.label_iff (tell : Tell given? o) :
    o.HasLabel ↔ ∃ s, raw given? "agent_label" defaultLabel = .text s := by
  rw [tell.agentLabel]
  constructor
  · rintro ⟨s,same,_⟩
    exact ⟨s,same⟩
  · rintro ⟨s,same⟩
    have given := tell.labeled
    rw [same] at given
    exact ⟨s,same,by simpa [Value.isGiven] using given⟩

/-- What is given for the options of a mapping is refused as a wrong value, or all of it is accepted.
Accepted numbers are integers in their range. The mode is one of the two, and the label a text, where
and only where what is given for them is a text. -/
theorem accepted_options (fields : List (Value × Value)) :
    (∀ cause, ofFields fields = .error cause →
      (Failure.settingInvalid cause).kind = .foreign "ValueError" ∧
        ∀ o, ¬ Tell (Value.field? fields) o) ∧
    ∀ o, ofFields fields = .ok o → Tell (Value.field? fields) o ∧ 1 ≤ o.batchSize ∧
      1 ≤ o.openRoomYears ∧
      (o.HasMode ↔ ∃ s, raw (Value.field? fields) "watermark_mode" (.text "strict") = .text s) ∧
      (o.HasLabel ↔ ∃ s, raw (Value.field? fields) "agent_label" defaultLabel = .text s) := by
  constructor
  · intro cause refused
    refine ⟨rfl,fun o tell => ?_⟩
    exact absurd (refused.symm.trans (ofGiven_eq_ok.mpr tell)) nofun
  · intro o accepted
    have tell := ofGiven_eq_ok.mp accepted
    exact ⟨tell,o.batchSize_pos,o.openRoomYears_pos,tell.mode_iff,tell.label_iff⟩

/-- A number is accepted for the mode, and for the label. -/
theorem number_accepted :
    (¬ ∀ (fields : List (Value × Value)) (o : Options), ofFields fields = .ok o → o.HasMode) ∧
      ¬ ∀ (fields : List (Value × Value)) (o : Options), ofFields fields = .ok o → o.HasLabel := by
  constructor
  · intro always
    obtain ⟨mode,told⟩ := always [(.text "watermark_mode",.int 5)]
      { Options.default with watermarkMode := .unchecked (.int 5) } rfl
    cases told
  · intro always
    obtain ⟨s,told,_⟩ := always [(.text "agent_label",.int 7)]
      { Options.default with agentLabel := .int 7 } rfl
    cases told

end Options

end RoomTransfer
