import RoomTransfer.Proofs.Refusals

/-! What a reader of documents refuses, from tokens over nodes to values. Its parts share a state, and
what lies in the way of the text stays what it is from part to part. -/
namespace RoomTransfer.Yaml

section Parts

variable {σ α β γ : Type} {inv : σ → Prop}

/-- A part with a state that fails with no other fault, and keeps what holds of the state. -/
def Keeps (inv : σ → Prop) (part : StateT σ (Except Fault) α) : Prop :=
  ∀ s, inv s → Decided (·.isOutward = true) (fun done => inv done.2) (part s)

namespace Keeps

theorem pure (a : α) : Keeps inv (pure a) := fun _ holds => .ok holds

theorem error {fault : Fault} (outward : fault.isOutward = true) :
    Keeps inv (throw fault : StateT σ (Except Fault) α) := fun _ _ => .error outward

theorem bind {first : StateT σ (Except Fault) α} {rest : α → StateT σ (Except Fault) β}
    (before : Keeps inv first) (after : ∀ a, Keeps inv (rest a)) : Keeps inv (first >>= rest) :=
  fun s holds => (before s holds).bind fun done holds => after done.1 done.2 holds

theorem look {rest : σ → StateT σ (Except Fault) α} (after : ∀ s, inv s → Keeps inv (rest s)) :
    Keeps inv (get >>= rest) := fun s holds => after s holds s holds

theorem change {f : σ → σ} (kept : ∀ s, inv s → inv (f s)) :
    Keeps inv (modify f : StateT σ (Except Fault) Unit) := fun s holds => .ok (kept s holds)

theorem lift {result : Except Fault α} {good : α → Prop} {rest : α → StateT σ (Except Fault) β}
    (made : Decided (·.isOutward = true) good result) (after : ∀ a, good a → Keeps inv (rest a)) :
    Keeps inv (liftM result >>= rest) := by
  intro s holds
  cases made with
  | error outward => exact .error outward
  | ok good => exact after _ good s holds

theorem ite {p : Prop} [Decidable p] {x y : StateT σ (Except Fault) α} (yes : Keeps inv x)
    (no : Keeps inv y) : Keeps inv (if p then x else y) := by
  split
  · exact yes
  · exact no

theorem mapM {f : γ → StateT σ (Except Fault) α} (each : ∀ c, Keeps inv (f c)) (cs : List γ) :
    Keeps inv (cs.mapM f) := by
  induction cs with
  | nil => exact .pure []
  | cons c rest ih =>
    rw [List.mapM_cons]
    exact (each c).bind fun _ => ih.bind fun _ => .pure _

end Keeps

end Parts

namespace Read

/-- A part of the reader of nodes. -/
abbrev Keeps {α : Type} (part : Read α) : Prop := Yaml.Keeps (fun r => r.scan.Clear) part

theorem malformed_keeps {α : Type} : (malformed : Read α).Keeps := fun _ _ => .error rfl

theorem peek_keeps : peek.Keeps :=
  .look fun _ clear => .lift clear.peek fun _ clear =>
    Yaml.Keeps.bind (.change fun _ _ => clear) fun _ => .pure _

theorem skip_keeps : skip.Keeps := .change fun _ clear => clear

theorem next_keeps (p : Token → Bool) : (next p).Keeps := peek_keeps.bind fun _ => .pure _

theorem accept_keeps (p : Token → Bool) : (accept p).Keeps :=
  (next_keeps p).bind fun _ => .ite (skip_keeps.bind fun _ => .pure true) (.pure false)

theorem expect_keeps (p : Token → Bool) : (expect p).Keeps :=
  (accept_keeps p).bind fun _ => .ite malformed_keeps (.pure ())

theorem place_keeps : place.Keeps := .look fun _ _ => .pure _

theorem address_keeps (handle : Option String) (suffix : String) : (address handle suffix).Keeps := by
  unfold address
  split
  · exact .pure _
  · refine .look fun r _ => ?_
    split
    · exact .pure _
    · exact malformed_keeps

theorem properties_keeps : properties.Keeps := by
  have addressed (anchor handle : Option String) (suffix : String) :
      Read.Keeps (do return (anchor,some (← address handle suffix))) :=
    (address_keeps _ _).bind fun _ => .pure _
  refine peek_keeps.bind fun _ => ?_
  split
  · refine skip_keeps.bind fun _ => peek_keeps.bind fun _ => ?_
    split
    · exact skip_keeps.bind fun _ => addressed _ _ _
    · exact .pure _
  · refine skip_keeps.bind fun _ => peek_keeps.bind fun _ => ?_
    split
    · exact skip_keeps.bind fun _ => addressed _ _ _
    · exact addressed _ _ _
  · exact .pure _

theorem resolve_keeps (name : String) : (resolve name).Keeps :=
  .look fun _ _ => .ite (.pure _) malformed_keeps

theorem openAnchor_keeps (anchor : Option String) : (openAnchor anchor).Keeps := by
  cases anchor with
  | none => exact .pure ()
  | some name => exact .look fun _ _ => .ite malformed_keeps (.change fun _ clear => clear)

theorem closeAnchor_keeps (anchor : Option String) (node : Node) : (closeAnchor anchor node).Keeps := by
  cases anchor with
  | none => exact .pure node
  | some name =>
    exact Yaml.Keeps.bind (.change fun _ clear => clear) fun _ => .pure _

theorem empty_keeps (place : Nat) (anchor tag : Option String) : (empty place anchor tag).Keeps := by
  unfold empty
  exact .ite malformed_keeps ((openAnchor_keeps _).bind fun _ => closeAnchor_keeps _ _)

theorem separator_keeps (first : Bool) : (separator first).Keeps :=
  .ite (expect_keeps _) (.pure ())

/-- All that nodes are read with, with so much fuel. -/
structure NodesKeep (fuel : Nat) : Prop where
  node (block loose : Bool) : (node block loose fuel).Keeps
  nodeUnless (p : Token → Bool) (block loose : Bool) : (nodeUnless p block loose fuel).Keeps
  blockEntries : (blockEntries fuel).Keeps
  looseEntries : (looseEntries fuel).Keeps
  blockValue : (blockValue fuel).Keeps
  blockFields : (blockFields fuel).Keeps
  flowItems (first : Bool) : (flowItems first fuel).Keeps
  flowFields (first : Bool) : (flowFields first fuel).Keeps

namespace NodesKeep

variable {fuel : Nat} (parts : NodesKeep fuel)
include parts

theorem node_succ (block loose : Bool) : (Read.node block loose (fuel + 1)).Keeps := by
  have kept {α : Type} {items : Read α} (within : items.Keeps) (anchor : Option String) (made : α → Node) :
      Read.Keeps (do
        openAnchor anchor
        closeAnchor anchor (made (← items))) :=
    (openAnchor_keeps anchor).bind fun _ => within.bind fun _ => closeAnchor_keeps anchor _
  unfold Read.node
  refine peek_keeps.bind fun _ => ?_
  split
  · exact skip_keeps.bind fun _ => resolve_keeps _
  · refine place_keeps.bind fun _ => properties_keeps.bind fun _ => peek_keeps.bind fun _ => ?_
    split
    · exact .ite (kept parts.looseEntries _ _) (empty_keeps _ _ _)
    · exact skip_keeps.bind fun _ => (openAnchor_keeps _).bind fun _ => closeAnchor_keeps _ _
    · exact skip_keeps.bind fun _ => kept (parts.flowItems true) _ _
    · exact skip_keeps.bind fun _ => kept (parts.flowFields true) _ _
    · exact .ite (skip_keeps.bind fun _ => kept parts.blockEntries _ _) (empty_keeps _ _ _)
    · exact .ite (skip_keeps.bind fun _ => kept parts.blockFields _ _) (empty_keeps _ _ _)
    · exact empty_keeps _ _ _

theorem nodeUnless_succ (p : Token → Bool) (block loose : Bool) :
    (Read.nodeUnless p block loose (fuel + 1)).Keeps := by
  unfold Read.nodeUnless
  exact (next_keeps p).bind fun _ => .ite (.pure _) (parts.node block loose)

theorem blockEntries_succ : (Read.blockEntries (fuel + 1)).Keeps := by
  unfold Read.blockEntries
  exact (accept_keeps _).bind fun _ => .ite
    ((parts.nodeUnless _ _ _).bind fun _ => parts.blockEntries.bind fun _ => .pure _)
    ((expect_keeps _).bind fun _ => .pure _)

theorem looseEntries_succ : (Read.looseEntries (fuel + 1)).Keeps := by
  unfold Read.looseEntries
  exact (accept_keeps _).bind fun _ => .ite
    ((parts.nodeUnless _ _ _).bind fun _ => parts.looseEntries.bind fun _ => .pure _) (.pure _)

theorem blockValue_succ : (Read.blockValue (fuel + 1)).Keeps := by
  unfold Read.blockValue
  exact (accept_keeps _).bind fun _ => .ite (parts.nodeUnless _ _ _) (.pure _)

theorem blockFields_succ : (Read.blockFields (fuel + 1)).Keeps := by
  unfold Read.blockFields
  exact (accept_keeps _).bind fun _ => .ite
    ((parts.nodeUnless _ _ _).bind fun _ => parts.blockValue.bind fun _ =>
      parts.blockFields.bind fun _ => .pure _)
    ((expect_keeps _).bind fun _ => .pure _)

theorem flowItems_succ (first : Bool) : (Read.flowItems first (fuel + 1)).Keeps := by
  unfold Read.flowItems
  refine (accept_keeps _).bind fun _ => .ite (.pure _) <| (separator_keeps first).bind fun _ =>
    place_keeps.bind fun _ => (accept_keeps _).bind fun _ => .ite ?_ ?_
  · refine (parts.nodeUnless _ _ _).bind fun _ => ?_
    have item (place : Nat) (key value : Node) : Read.Keeps (do
        return .mapping place .mapping [(key,value)] :: (← Read.flowItems false fuel)) :=
      (parts.flowItems false).bind fun _ => .pure _
    exact (accept_keeps _).bind fun _ => .ite ((parts.nodeUnless _ _ _).bind fun _ => item _ _ _)
      (Yaml.Keeps.bind (.pure _) fun _ => item _ _ _)
  · exact (accept_keeps _).bind fun _ => .ite (.pure _)
      ((parts.node _ _).bind fun _ => (parts.flowItems false).bind fun _ => .pure _)

theorem flowFields_succ (first : Bool) : (Read.flowFields first (fuel + 1)).Keeps := by
  unfold Read.flowFields
  refine (accept_keeps _).bind fun _ => .ite (.pure _) <| (separator_keeps first).bind fun _ =>
    (accept_keeps _).bind fun _ => .ite ?_ ?_
  · refine (parts.nodeUnless _ _ _).bind fun _ => ?_
    have field (key value : Node) : Read.Keeps (do
        return (key,value) :: (← Read.flowFields false fuel)) :=
      (parts.flowFields false).bind fun _ => .pure _
    exact (accept_keeps _).bind fun _ => .ite ((parts.nodeUnless _ _ _).bind fun _ => field _ _)
      (Yaml.Keeps.bind (.pure _) fun _ => field _ _)
  · exact (accept_keeps _).bind fun _ => .ite (.pure _)
      ((parts.node _ _).bind fun _ => (parts.flowFields false).bind fun _ => .pure _)

end NodesKeep

/-- The parts call each other with less fuel, so all of them are dealt with at once. -/
theorem nodes_keep (fuel : Nat) : NodesKeep fuel := by
  induction fuel with
  | zero =>
    exact ⟨fun _ _ => malformed_keeps,fun _ _ _ => malformed_keeps,malformed_keeps,malformed_keeps,
      malformed_keeps,malformed_keeps,fun _ => malformed_keeps,fun _ => malformed_keeps⟩
  | succ fuel parts =>
    exact ⟨parts.node_succ,parts.nodeUnless_succ,parts.blockEntries_succ,parts.looseEntries_succ,
      parts.blockValue_succ,parts.blockFields_succ,parts.flowItems_succ,parts.flowFields_succ⟩

theorem directives_keeps (fuel : Nat) (versioned : Bool) (handles : List (String × String)) :
    (directives fuel versioned handles).Keeps := by
  induction fuel generalizing versioned handles with
  | zero => exact malformed_keeps
  | succ fuel ih =>
    unfold directives
    refine peek_keeps.bind fun _ => ?_
    split
    · refine skip_keeps.bind fun _ => ?_
      split
      · exact .ite malformed_keeps (ih _ _)
      · exact .ite malformed_keeps (ih _ _)
      · exact ih _ _
    · exact .pure _

theorem skipDocumentEnds_keeps (fuel : Nat) : (skipDocumentEnds fuel).Keeps := by
  induction fuel with
  | zero => exact malformed_keeps
  | succ fuel ih =>
    unfold skipDocumentEnds
    exact (accept_keeps _).bind fun _ => .ite ih (.pure ())

theorem markedDocument_keeps (fuel : Nat) : (markedDocument fuel).Keeps :=
  (directives_keeps _ _ _).bind fun _ => Yaml.Keeps.bind (.change fun _ clear => clear) fun _ =>
    (expect_keeps _).bind fun _ => (nodes_keep fuel).nodeUnless _ _ _

theorem document_keeps (fuel : Nat) : (document fuel).Keeps := by
  have ended (root : Node) : Read.Keeps (do
      skipDocumentEnds fuel
      if ← next isStreamEnd then return some (Document.mk root (← get).anchors)
      else furtherDocument fuel) :=
    (skipDocumentEnds_keeps _).bind fun _ => (next_keeps _).bind fun _ =>
      .ite (.look fun _ _ => .pure _) ((directives_keeps _ _ _).bind fun _ => malformed_keeps)
  exact (next_keeps _).bind fun _ => (next_keeps _).bind fun _ => .ite (.pure _)
    (.ite (((nodes_keep fuel).node _ _).bind ended) ((markedDocument_keeps _).bind ended))

end Read

namespace Document

variable (d : Document)

theorem made_outward (n : Node) : Outward (d.made n) := by
  unfold made
  split
  · exact .error rfl
  · exact .error rfl
  · exact .error rfl
  · exact .error rfl
  · exact .error rfl
  · exact .error rfl
  · exact Made.ofText_outward _ _

theorem merged_outward (fuel : Nat) (within : List Nat) (n : Node) :
    Outward (d.merged fuel within n) := by
  induction fuel generalizing within n with
  | zero => exact .error rfl
  | succ fuel ih =>
    unfold merged
    split
    · split
      · exact .ok _
      · refine (FailsOnly.mapM (fun source => ?_) _).bind fun _ => .ok _
        dsimp only
        split
        · exact ih _ _
        · exact (FailsOnly.mapM (ih _) _).bind fun _ => .ok _
        · exact .error rfl
    · exact .error rfl

/-- A part of what makes the values. -/
abbrev Makes {α : Type} (part : Making α) : Prop := Keeps (fun _ => True) part

theorem visit_makes (n : Node) : Makes (d.visit n) :=
  .ite (.look fun _ _ => .ite (.pure _) (Keeps.bind (.change fun _ => id) fun _ => .pure _))
    (.lift (.ofFailsOnly (d.made_outward n)) fun _ _ => .pure _)

theorem visitKey_makes (n : Node) : Makes (d.visitKey n) :=
  .ite (.error rfl) ((d.visit_makes n).bind fun _ => .pure _)

theorem visitField_makes (field : Node × Node) : Makes (d.visitField field) :=
  (d.visitKey_makes _).bind fun _ => d.visit_makes _

theorem visitPair_makes (n : Node) : Makes (d.visitPair n) := by
  unfold visitPair
  split
  · exact (d.visit_makes _).bind fun _ => (d.visit_makes _).bind fun _ => .pure _
  · exact .error rfl

theorem fill_makes (n : Node) : Makes (d.fill n) := by
  have fields : Makes (do return (← (← d.fieldsOf n).mapM d.visitField).flatten) :=
    .lift (.ofFailsOnly (d.merged_outward _ _ _)) fun _ _ =>
      (Keeps.mapM d.visitField_makes _).bind fun _ => .pure _
  unfold fill
  split
  · exact (Keeps.mapM d.visit_makes _).bind fun _ => .pure _
  · exact (Keeps.mapM d.visitPair_makes _).bind fun _ => .pure _
  · exact fields
  · exact fields
  · exact .error rfl

theorem fillAll_makes (fuel : Nat) (level : List Node) : Makes (d.fillAll fuel level) := by
  induction fuel generalizing level with
  | zero =>
    cases level with
    | nil => exact .pure ()
    | cons n rest => exact .error rfl
  | succ fuel ih =>
    cases level with
    | nil => exact .pure ()
    | cons n rest => exact (Keeps.mapM d.fill_makes _).bind fun groups => ih groups.flatten

theorem make_outward : Outward d.make := by
  have whole : Makes (d.visit d.root >>= fun level => d.fillAll (d.size + 1) level) :=
    (d.visit_makes _).bind fun _ => d.fillAll_makes _ _
  have run : Outward ((d.visit d.root >>= fun level => d.fillAll (d.size + 1) level).run []) :=
    fun _ => (whole [] trivial).failed
  exact run.bind fun _ => .ok _

theorem ofSource?_outward {source : Source}
    (clear : ∀ fault ∈ source.obstacle, fault.isOutward = true) : Outward (ofSource? source) := by
  have read : Outward ((Read.document (32 * (source.text.length + 2))).run
      { scan := .start source, handles := Read.knownHandles }) :=
    fun _ => (Read.document_keeps _ { scan := .start source,handles := _ } clear).failed
  exact read.bind fun _ => .ok _

end Document

/-- The reader of a document fails with nothing but what lies in the way of the text, and with failures
that are not the transfer's. -/
theorem read_outward {source : Source}
    (clear : ∀ fault ∈ source.obstacle, fault.isOutward = true) : Outward (read source) := by
  refine (Document.ofSource?_outward clear).bind fun found => ?_
  cases found with
  | none => exact .ok _
  | some d => exact d.make_outward.bind fun _ => .ok _

/-- What is refused of a file is one of a few failures, whatever the bytes in it. -/
theorem refused_outward {bytes : List UInt8} {cause : Failure}
    (refused : read (.ofBytes bytes) = .error (.refused cause)) :
    ∃ name ∈ outward, cause.kind = .foreign name := by
  have named := read_outward (Source.ofBytes_outward bytes) _ refused
  unfold Fault.isOutward at named
  dsimp only at named
  split at named
  next name kind => exact ⟨name,List.contains_iff_mem.mp named,kind⟩
  · cases named

section Bytes

open Text.Utf8

/-- A character that breaks off has begun, and none stands for it. -/
theorem split_begun {position : Nat} {bytes run : List UInt8}
    (begun : (split position bytes).2 = .begun run) :
    run ≠ [] ∧ (split position bytes).1.length < bytes.length := by
  fun_induction split position bytes with
  | case1 => cases begun
  | case2 position b rest length c _ cs remainder later ih =>
    obtain ⟨some,shorter⟩ := ih (by rw [later]; exact begun)
    have consumed := next_length b rest
    simp only [later] at shorter
    refine ⟨some,?_⟩
    simp only [List.length_cons]
    omega
  | case3 => cases begun
  | case4 position b rest length _ taken _ _ =>
    obtain rfl : taken = run := Remainder.begun.inj begun
    have consumed := next_length b rest
    refine ⟨?_,by simp⟩
    rw [← List.length_pos_iff]
    simp only [taken,length,List.length_take,List.length_cons]
    omega
  | case5 => cases begun

theorem plainLineEnds_length (cs : List Char) :
    (Source.plainLineEnds cs).length ≤ cs.length := by
  fun_induction Source.plainLineEnds cs with
  | case1 rest ih => simp only [List.length_cons]; omega
  | case2 rest _ ih => exact Nat.succ_le_succ ih
  | case3 c rest _ _ ih => exact Nat.succ_le_succ ih
  | case4 => exact Nat.le_refl 0

theorem blocks_short {bytes : List UInt8} (some : bytes ≠ [])
    (short : bytes.length ≤ Source.blockLength) :
    Source.blocks bytes.length bytes = [bytes] := by
  obtain ⟨b,rest,rfl⟩ := List.exists_cons_of_ne_nil some
  rw [List.length_cons,Source.blocks,List.take_of_length_le short,List.drop_of_length_le short]
  cases rest.length <;> rfl

/-- In a file of one block, bytes that are no text keep all of it from being read. -/
theorem ofBytes_broken {bytes : List UInt8} (short : bytes.length ≤ Source.blockLength)
    (broken : (split 0 bytes).2 ≠ .complete) : ∃ cause,
    Source.ofBytes bytes = ⟨[],.some (.refused (.undecodable cause))⟩ := by
  have some : bytes ≠ [] := by
    rintro rfl
    exact broken (by rw [split])
  have decoded : ∃ cs cause, Source.decode [] [bytes] = (cs,.some cause) ∧
      cs.length < Source.blockLength := by
    rw [Source.decode,List.nil_append]
    rcases parts : split 0 bytes with ⟨cs,remainder⟩
    cases remainder with
    | complete => exact absurd (by rw [parts]) broken
    | illFormed cause => exact ⟨[],cause,rfl,by decide⟩
    | begun run =>
      have breaks : (split 0 bytes).2 = .begun run := by rw [parts]
      obtain ⟨begun,shorter⟩ := split_begun breaks
      rw [parts] at shorter
      refine ⟨cs,Text.Utf8.brokenOff run,?_,Nat.lt_of_lt_of_le shorter short⟩
      simp [Source.decode,begun]
  obtain ⟨cs,cause,decoded,shorter⟩ := decoded
  -- What was read before belongs to the first piece, which is lost as a whole.
  have start : Source.pieceStart (Source.plainLineEnds cs).length = 0 := by
    have fewer := plainLineEnds_length cs
    exact if_pos (Nat.lt_of_le_of_lt fewer shorter)
  refine ⟨cause,?_⟩
  unfold Source.ofBytes
  simp only [blocks_short some short,decoded,start,List.take_zero]
  rfl

/-- What lies in the way of a text that cannot be read at all is handed on. -/
theorem read_hindered (cause : Failure) :
    read ⟨[],some (.refused cause)⟩ = .error (.refused cause) := rfl

end Bytes

end RoomTransfer.Yaml
