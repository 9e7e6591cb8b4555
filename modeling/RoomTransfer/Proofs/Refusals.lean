import RoomTransfer.Proofs.Verdict
import RoomTransfer.Yaml.Document

/-! What keeps a document from being read. Where its reader does not just give it up, it hands on one
of a few failures, and none of them is the transfer's own. -/
namespace RoomTransfer.Yaml

/-- The failures that a reader of documents hands on. -/
def outward : List String :=
  ["UnicodeDecodeError","ValueError","OverflowError","TypeError","KeyError","IndexError",
    "AttributeError"]

/-- A fault that gives the document up, or else hands on a failure that is not the transfer's. -/
def Fault.isOutward : Fault → Bool
  | .malformed | .unfinished => true
  | .refused cause => match cause.kind with
    | .foreign name => outward.contains name
    | _ => false

/-- A result that is no other fault. -/
abbrev Outward {α : Type} (result : Except Fault α) : Prop := FailsOnly (·.isOutward = true) result

namespace Quoted

theorem lineEnds_outward (fuel : Nat) (c : Cursor) : Outward (lineEnds fuel c) := by
  induction fuel generalizing c with
  | zero => exact .error rfl
  | succ fuel ih =>
    unfold lineEnds
    split
    · exact .error rfl
    · dsimp only
      split
      · exact (ih _).bind fun _ => .ok _
      · exact .ok _

theorem blanks_outward (c : Cursor) : Outward (blanks c) := by
  unfold blanks
  dsimp only
  split
  · exact (lineEnds_outward _ _).bind fun _ => .ok _
  · split
    · exact .error rfl
    · exact .ok _

theorem character_outward (code : Nat) : Outward (character code) := by
  unfold character
  split
  · exact .ok _
  · split
    · exact .error rfl
    · exact .error rfl

theorem escape_outward (c : Cursor) : Outward (escape c) := by
  unfold escape
  split
  · exact .error rfl
  · split
    · exact .ok _
    · dsimp only
      split
      · split
        · exact (character_outward _).bind fun _ => .ok _
        · exact .error rfl
      · exact .error rfl
    · split
      · exact lineEnds_outward _ _
      · exact .error rfl

theorem contentFrom_outward (quote : Char) (fuel : Nat) (c : Cursor) :
    Outward (contentFrom quote fuel c) := by
  induction fuel generalizing c with
  | zero => exact .error rfl
  | succ fuel ih =>
    -- Whatever is read next, content goes on behind it with less fuel.
    have continued {step : Except Fault (List Char × Cursor)} (first : Outward step) :
        Outward (step >>= fun read => contentFrom quote fuel read.2 >>= fun more =>
          .ok (read.1 ++ more.1,more.2)) := first.bind fun _ => (ih _).bind fun _ => .ok _
    unfold contentFrom
    split
    · exact .error rfl
    · dsimp only
      split
      · split
        · exact continued (.ok _)
        · exact .ok _
      · split
        · exact continued (blanks_outward c)
        · split
          · exact continued (escape_outward _)
          · exact continued (.ok _)

theorem content_outward (c : Cursor) : Outward (content c) := by
  unfold content
  split
  · exact contentFrom_outward _ _ _
  · exact .error rfl

end Quoted

theorem Cursor.finishLine_outward (c : Cursor) : Outward c.finishLine := by
  unfold finishLine
  dsimp only
  split
  · exact .ok _
  · exact .ok _
  · exact .error rfl

namespace Lines

theorem increment?_outward (c : Cursor) : Outward (increment? c) := by
  unfold increment?
  split
  · split
    · split
      · exact .error rfl
      · exact .ok _
    · exact .ok _
  · exact .ok _

theorem header_outward (c : Cursor) : Outward (header c) := by
  unfold header
  -- The indicators stand in any order, and the same may stand behind them.
  extract_lets ended
  have behind (found : Chomping × Option Nat × Cursor) : Outward (ended found) := by
    dsimp only [ended]
    split
    · exact .ok _
    · split
      · exact .ok _
      · exact .error rfl
  split
  · exact (increment?_outward _).bind fun _ => (FailsOnly.ok _).bind behind
  · refine (increment?_outward _).bind fun _ => ?_
    split
    split
    · exact (FailsOnly.ok _).bind behind
    · exact (FailsOnly.ok _).bind behind

theorem content_outward (folds : Bool) (outer : Int) (c : Cursor) :
    Outward (content folds outer c) :=
  (header_outward _).bind fun _ => (Cursor.finishLine_outward _).bind fun _ => .ok _

end Lines

namespace Made

theorem bad_outward {α : Type} (message : String) : Outward (bad message : Except Fault α) :=
  .error rfl

theorem signed_outward (cs : List Char) : Outward (signed cs) := by
  unfold signed
  split
  · exact .error rfl
  · exact .ok _
  · exact .ok _
  · exact .ok _

theorem integer_outward (base : Nat) (cs : List Char) : Outward (integer base cs) := by
  unfold integer
  split
  dsimp only
  split
  · exact bad_outward _
  · split
    · exact bad_outward _
    · split
      · exact .ok _
      · exact bad_outward _

theorem int_outward (cs : List Char) : Outward (int cs) := by
  refine (signed_outward _).bind fun _ => ?_
  dsimp only
  split
  · exact .ok _
  · exact (integer_outward _ _).bind fun _ => .ok _
  · exact (integer_outward _ _).bind fun _ => .ok _
  · exact (integer_outward _ _).bind fun _ => .ok _
  · exact .error rfl
  · split
    · exact (FailsOnly.mapM (integer_outward 10) _).bind fun _ => .ok _
    · exact (integer_outward _ _).bind fun _ => .ok _

theorem double_outward (cs : List Char) : Outward (double cs) := by
  unfold double
  dsimp only
  split
  · exact .ok _
  · exact bad_outward _

theorem sixties_outward (base : Nat) (sum : Number.Binary64) (digits : List Number.Binary64) :
    Outward (sixties base sum digits) := by
  induction digits generalizing base sum with
  | nil => exact .ok _
  | cons digit rest ih =>
    unfold sixties
    dsimp only
    split
    · exact ih _ _
    · exact .error rfl

theorem float_outward (cs : List Char) : Outward (float cs) := by
  refine (signed_outward _).bind fun _ => ?_
  dsimp only
  split
  · exact .ok _
  · split
    · exact .ok _
    · split
      · exact (FailsOnly.mapM double_outward _).bind fun _ =>
          (sixties_outward _ _ _).bind fun _ => .ok _
      · exact (double_outward _).bind fun _ => .ok _

theorem bool_outward (cs : List Char) : Outward (bool cs) := by
  unfold bool
  dsimp only
  split
  · exact .ok _
  · exact .error rfl

theorem offset_outward (w : Written) : Outward (offset w) := by
  unfold offset
  split
  · exact .ok _
  · dsimp only
    split
    · exact .ok _
    · exact bad_outward _

theorem date_outward (w : Written) : Outward (date w) := by
  unfold date
  split
  · exact .ok _
  · exact .error rfl

theorem timestamp_outward (cs : List Char) : Outward (timestamp cs) := by
  unfold timestamp
  split
  · exact .error rfl
  · split
    · exact (date_outward _).bind fun _ => .ok _
    · refine (offset_outward _).bind fun _ => (date_outward _).bind fun _ => ?_
      split
      · exact bad_outward _
      · split
        · exact bad_outward _
        · split
          · exact bad_outward _
          · dsimp only
            split
            · exact .ok _
            · exact .error rfl

theorem bytes_outward (cs : List Char) : Outward (bytes cs) := by
  unfold bytes
  split
  · split
    · exact .ok _
    · exact .error rfl
  · exact .error rfl

theorem ofText_outward (tag : Tag) (cs : List Char) : Outward (ofText tag cs) := by
  unfold ofText
  split
  · exact .ok _
  · exact .ok _
  · exact bool_outward cs
  · exact int_outward cs
  · exact float_outward cs
  · exact timestamp_outward cs
  · exact bytes_outward cs
  · exact .error rfl

end Made

/-- What lies in the way of the text of a file is that its bytes are no text, or that no document may
hold it. -/
theorem Source.ofBytes_outward (bytes : List UInt8) :
    ∀ fault ∈ (ofBytes bytes).obstacle, fault.isOutward = true := by
  have allowed (cs : List Char) : ∀ fault ∈ (ofChars cs).obstacle, fault.isOutward = true := by
    unfold ofChars
    split
    · rintro _ ⟨⟩
      rfl
    · nofun
  unfold ofBytes
  dsimp only
  split
  · exact allowed _
  · intro fault found
    rcases Option.or_eq_some_iff.mp found with known | ⟨_,broken⟩
    · exact allowed _ fault known
    · cases broken
      rfl

namespace Scan

/-- Nothing else lies in the way of the text. -/
def Clear (s : Scan) : Prop := ∀ fault ∈ s.obstacle, fault.isOutward = true

/-- A result that is no other fault, and leaves nothing else in the way. -/
abbrev Clears (result : Except Fault Scan) : Prop := Decided (·.isOutward = true) Clear result

theorem name_outward (c : Cursor) : Outward (name c) := by
  unfold name
  dsimp only
  split
  · exact .error rfl
  · split
    · exact .ok _
    · exact .error rfl

theorem handle_outward (c : Cursor) : Outward (handle c) := by
  unfold handle
  split
  · split
    · exact .ok _
    · dsimp only
      split
      · exact .ok _
      · exact .error rfl
  · exact .error rfl

theorem addressBytes_outward (fuel : Nat) (c : Cursor) : Outward (addressBytes fuel c) := by
  induction fuel generalizing c with
  | zero => exact .ok _
  | succ fuel ih =>
    unfold addressBytes
    split
    · split
      · exact (ih _).bind fun _ => .ok _
      · exact .error rfl
    · exact .ok _

theorem addressFrom_outward (fuel : Nat) (c : Cursor) : Outward (addressFrom fuel c) := by
  induction fuel generalizing c with
  | zero => exact .ok _
  | succ fuel ih =>
    unfold addressFrom
    split
    · refine (addressBytes_outward _ _).bind fun _ => ?_
      dsimp only
      split
      · exact (ih _).bind fun _ => .ok _
      · exact .error rfl
    · split
      · exact (ih _).bind fun _ => .ok _
      · exact .ok _
    · exact .ok _

theorem address_outward (c : Cursor) : Outward (address c) := by
  refine (addressFrom_outward _ _).bind fun _ => ?_
  dsimp only
  split
  · exact .error rfl
  · exact .ok _

theorem number_outward (c : Cursor) : Outward (number c) := by
  unfold number
  split
  · exact .error rfl
  · split
    · exact .error rfl
    · exact .ok _

theorem tag_outward (c : Cursor) : Outward (tag c) := by
  have ended (found : Token × Cursor) :
      Outward (if found.2.peek.all fun x => x = ' ' || isBreak x then .ok found
        else .error .malformed) := by
    split
    · exact .ok _
    · exact .error rfl
  unfold tag
  dsimp only
  split
  · refine (address_outward _).bind fun _ => ?_
    split
    · exact (FailsOnly.ok _).bind ended
    · exact .error rfl
  · split
    · exact (FailsOnly.ok _).bind ended
    · split
      · exact (handle_outward _).bind fun _ => (address_outward _).bind fun _ =>
          (FailsOnly.ok _).bind ended
      · exact (address_outward _).bind fun _ => (FailsOnly.ok _).bind ended

theorem versionDirective_outward (c : Cursor) : Outward (versionDirective c) := by
  refine (number_outward _).bind fun _ => ?_
  dsimp only
  split
  · refine (number_outward _).bind fun _ => ?_
    split
    · exact .ok _
    · exact .error rfl
  · exact .error rfl

theorem tagDirective_outward (c : Cursor) : Outward (tagDirective c) := by
  refine (handle_outward _).bind fun _ => ?_
  dsimp only
  split
  · refine (address_outward _).bind fun _ => ?_
    split
    · exact .ok _
    · exact .error rfl
  · exact .error rfl

theorem directive_outward (c : Cursor) : Outward (directive c) := by
  have ended (found : Directive × Cursor) :
      Outward (do .ok (Token.directive found.1,← found.2.finishLine)) :=
    found.2.finishLine_outward.bind fun _ => .ok _
  unfold directive
  dsimp only
  split
  · exact .error rfl
  · split
    · exact (versionDirective_outward _).bind ended
    · split
      · exact (tagDirective_outward _).bind ended
      · exact (FailsOnly.ok _).bind ended

theorem quoted_outward (c : Cursor) : Outward (quoted c) :=
  (Quoted.content_outward c).bind fun _ => .ok _

theorem reference_outward (c : Cursor) : Outward (reference c) :=
  (name_outward c).bind fun _ => .ok _

theorem anchor_outward (c : Cursor) : Outward (anchor c) :=
  (name_outward c).bind fun _ => .ok _

theorem stale_outward (c : Cursor) (key : Option PossibleKey) : Outward (stale c key) := by
  unfold stale
  split
  · exact .ok _
  · split
    · split
      · exact .error rfl
      · exact .ok _
    · exact .ok _

section Moves

variable {s : Scan}

theorem Clear.skipBlanks (clear : s.Clear) (fuel : Nat) : (skipBlanks fuel s).Clear := by
  induction fuel generalizing s with
  | zero => exact clear
  | succ fuel ih =>
    unfold Scan.skipBlanks
    dsimp only
    split
    · exact ih (s := { s with cursor := _, keyAllowed := _ }) clear
    · exact clear

theorem Clear.unwind (clear : s.Clear) (column : Int) : (s.unwind column).Clear := by
  have closed (levels : List Int) : ∀ s : Scan, s.Clear → (unwindFrom column levels s).Clear := by
    induction levels with
    | nil => exact fun s clear => clear
    | cons outer rest ih =>
      intro s clear
      unfold unwindFrom
      split
      · exact ih _ clear
      · exact clear
  unfold Scan.unwind
  split
  · exact clear
  · exact closed _ s clear

theorem Clear.openBlock (clear : s.Clear) (column number : Nat) (t : Token) :
    (s.openBlock column number t).Clear := by
  unfold Scan.openBlock
  split
  · exact clear
  · exact clear

theorem Clear.dropStale (clear : s.Clear) : Clears s.dropStale :=
  .after (stale_outward _ _) fun _ => .after (FailsOnly.mapM (stale_outward _) _) fun _ => .ok clear

theorem Clear.dropKey (clear : s.Clear) : Clears s.dropKey := by
  unfold Scan.dropKey
  split
  · exact .error rfl
  · exact .ok clear

theorem Clear.noteKey (clear : s.Clear) : Clears s.noteKey := by
  unfold Scan.noteKey
  split
  · exact clear.dropKey.bind fun s clear => .ok clear
  · exact .ok clear

theorem Clear.openHere (clear : s.Clear) (t : Token) : Clears (s.openHere t) := by
  unfold Scan.openHere
  split
  · exact .ok clear
  · split
    · exact .ok (clear.openBlock _ _ _)
    · exact .error rfl

theorem Clear.finish (clear : s.Clear) : Clears s.finish :=
  (clear.unwind _).dropKey.bind fun _ clear => .ok clear

theorem Clear.outermost (clear : s.Clear) (n : Nat) (t : Token) : Clears (s.outermost n t) :=
  (clear.unwind _).dropKey.bind fun _ clear => .ok clear

theorem Clear.openFlow (clear : s.Clear) (t : Token) : Clears (s.openFlow t) :=
  clear.noteKey.bind fun _ clear => .ok clear

theorem Clear.closeFlow (clear : s.Clear) (t : Token) : Clears (s.closeFlow t) := by
  refine clear.dropKey.bind fun s clear => ?_
  split
  · exact .error rfl
  · exact .ok clear

theorem Clear.flowEntry (clear : s.Clear) : Clears s.flowEntry :=
  clear.dropKey.bind fun _ clear => .ok clear

theorem Clear.blockEntry (clear : s.Clear) : Clears s.blockEntry :=
  (clear.openHere _).bind fun _ clear => clear.dropKey.bind fun _ clear => .ok clear

theorem Clear.explicitKey (clear : s.Clear) : Clears s.explicitKey :=
  (clear.openHere _).bind fun _ clear => clear.dropKey.bind fun _ clear => .ok clear

theorem Clear.value (clear : s.Clear) : Clears s.value := by
  unfold Scan.value
  split
  · dsimp only
    split
    · exact .ok clear
    · exact .ok (Clear.openBlock (s := { s.putBefore _ .key with key := none, keyAllowed := false })
        clear _ _ _)
  · exact (clear.openHere _).bind fun _ clear => clear.dropKey.bind fun _ clear => .ok clear

theorem Clear.keyLike (clear : s.Clear) {read : Cursor → Except Fault (Token × Cursor)}
    (outward : ∀ c, Outward (read c)) : Clears (s.keyLike read) :=
  clear.noteKey.bind fun _ clear => .after (outward _) fun _ => .ok clear

theorem Clear.directiveLine (clear : s.Clear) : Clears s.directiveLine :=
  (clear.unwind _).dropKey.bind fun _ clear => .after (directive_outward _) fun _ => .ok clear

theorem Clear.block (clear : s.Clear) (folds : Bool) : Clears (s.block folds) :=
  clear.dropKey.bind fun _ clear => .after (Lines.content_outward _ _ _) fun _ => .ok clear

theorem Clear.plain (clear : s.Clear) : Clears s.plain :=
  clear.noteKey.bind fun _ clear => .ok clear

/-- One token more, in the order in which its start is looked at. -/
theorem Clear.step (clear : s.Clear) (x : Char) : Clears (s.step x) :=
  .ite clear.directiveLine <|
  .ite (clear.outermost _ _) <|
  .ite (clear.outermost _ _) <|
  .ite (clear.openFlow _) <|
  .ite (clear.openFlow _) <|
  .ite (clear.closeFlow _) <|
  .ite (clear.closeFlow _) <|
  .ite clear.flowEntry <|
  .ite clear.blockEntry <|
  .ite clear.explicitKey <|
  .ite clear.value <|
  .ite (clear.keyLike reference_outward) <|
  .ite (clear.keyLike anchor_outward) <|
  .ite (clear.keyLike tag_outward) <|
  .ite (clear.block _) <|
  .ite (clear.block _) <|
  .ite (clear.keyLike quoted_outward) <|
  .ite clear.plain (.error rfl)

theorem Clear.unhindered (clear : s.Clear) {result : Except Fault Scan} (clears : Clears result) :
    Clears (unhindered s.obstacle result) := by
  unfold Scan.unhindered
  split
  · split
    next fault found =>
      split
      · exact .error (clear fault found)
      · exact clears
    · exact clears
  · cases found : s.obstacle with
    | none => exact .error rfl
    | some fault => exact .error (clear fault found)
  · exact clears

theorem Clear.advance (clear : s.Clear) : Clears s.advance := by
  -- An obstacle is looked at before a token and behind it.
  refine (clear.unhindered (.ok (clear.skipBlanks _))).bind fun s clear =>
    clear.dropStale.bind fun s clear => ?_
  dsimp only
  have unwound := clear.unwind s.cursor.column
  split
  · exact unwound.finish
  · exact unwound.unhindered (unwound.step _)

theorem Clear.settle (clear : s.Clear) (fuel : Nat) : Clears (settle fuel s) := by
  induction fuel generalizing s with
  | zero => exact .error rfl
  | succ fuel ih =>
    unfold Scan.settle
    split
    · exact .ok clear
    · split
      · exact clear.advance.bind fun _ clear => ih clear
      · refine clear.dropStale.bind fun s clear => ?_
        split
        · exact clear.advance.bind fun _ clear => ih clear
        · exact .ok clear

theorem Clear.peek (clear : s.Clear) :
    Decided (·.isOutward = true) (fun found => found.2.Clear) s.peek :=
  (clear.settle _).bind fun _ clear => .ok clear

end Moves

end Scan

end RoomTransfer.Yaml
