import RoomTransfer.Proofs.DecimalText
import RoomTransfer.Proofs.Verdict

/-! The streams of rooms. A stream is refused exactly for a part of it that is malformed, and every
other one becomes an adjustment with one range for each fragment. Rounding keeps the order of
two numbers, of whatever kinds they are, so that no pair is turned round by it. -/
namespace RoomTransfer

open Number (halfAway)

/-- What a number is worth: an integer is itself, and a finite fraction what its text says. -/
def Value.worth? : Value → Option ℚ
  | .int i => some i
  | .float x => if x.isFinite then Number.written? (x.text Number.Binary64.plain) else none
  | _ => none

/-- The worths of the two numbers that a fragment consists of. -/
def Value.Pairs (fragment : Value) (a b : ℚ) : Prop :=
  ∃ v w, fragment = .list [v,w] ∧ v.worth? = some a ∧ w.worth? = some b

theorem Value.Pairs.unique {fragment : Value} {a b a' b' : ℚ} (pair : fragment.Pairs a b)
    (again : fragment.Pairs a' b') : a = a' ∧ b = b' := by
  obtain ⟨v,w,rfl,lower,upper⟩ := pair
  obtain ⟨_,_,same,lower',upper'⟩ := again
  cases same
  exact ⟨Option.some.inj (lower.symm.trans lower'),Option.some.inj (upper.symm.trans upper')⟩

theorem Value.toInteger?_eq (v : Value) : v.toInteger? = v.worth?.map halfAway := by
  cases v with
  | int i => simp [toInteger?,worth?,Number.halfAway_intCast]
  | float x =>
    by_cases finite : x.isFinite = true
    · simp [toInteger?,worth?,finite,Number.Binary64.written_text,Number.Binary64.roundAway_eq]
    · simp [toInteger?,worth?,finite]
  | _ => rfl

theorem Value.worth?_isSome (v : Value) :
    v.worth?.isSome ↔ (∃ i, v = .int i) ∨ ∃ x, v = .float x ∧ x.isFinite = true := by
  cases v with
  | int i => simp [worth?]
  | float x =>
    by_cases finite : x.isFinite = true
    · simp [worth?,finite,Number.Binary64.written_text]
    · simp [worth?,finite]
  | _ => simp [worth?]

namespace Adjustment

/-- What keeps a fragment from having a range. -/
inductive Faulty (fragment : Value) : Prop where
  | pair (other : ∀ a b, ¬ fragment.Pairs a b)
  | reversed {a b : ℚ} (pair : fragment.Pairs a b) (reversed : halfAway b < halfAway a)

/-- The range of a fragment. -/
structure Ranges (fragment : Value) (range : Interval Int) : Prop where
  bounds : ∃ a b, fragment.Pairs a b ∧ range = ⟨halfAway a,halfAway b⟩
  ordered : range.lower ≤ range.upper

theorem ranges_unique : Relator.RightUnique Ranges := by
  intro fragment range other first second
  obtain ⟨a,b,pair,rfl⟩ := first.bounds
  obtain ⟨a',b',again,rfl⟩ := second.bounds
  obtain ⟨rfl,rfl⟩ := pair.unique again
  rfl

theorem Ranges.not_faulty {fragment : Value} {range : Interval Int}
    (ranges : Ranges fragment range) : ¬ Faulty fragment := by
  obtain ⟨a,b,pair,rfl⟩ := ranges.bounds
  rintro (other | ⟨again,reversed⟩)
  · exact other a b pair
  · obtain ⟨rfl,rfl⟩ := pair.unique again
    exact absurd reversed (not_lt.mpr ranges.ordered)

/-- What keeps a value from being a stream. -/
inductive Malformed (stream : Value) : Prop where
  | stream (other : ∀ fields, stream ≠ .object fields)
  | preroll (given : stream.member "preroll" ≠ .null)
      (other : (stream.member "preroll").worth? = none)
  | fragments (given : stream.member "fragments" ≠ .null)
      (other : ∀ items, stream.member "fragments" ≠ .list items)
  | fragment {items : List Value} {fragment : Value}
      (listed : stream.member "fragments" = .list items) (member : fragment ∈ items)
      (faulty : Faulty fragment)

def fragmentsOf (stream : Value) : List Value :=
  match stream.member "fragments" with
  | .list items => items
  | _ => []

/-- The adjustment of a row with a stream. -/
structure Made (row : Row) (a : Adjustment) : Prop where
  room : a.roomId = row.get "id"
  started : a.startedAt = row.get "opened_at"
  created : a.createdAt = row.get "closed_at"
  offset : a.offset = ((row.get "stream").member "preroll").worth?.map halfAway
  segments : List.Forall₂ Ranges (fragmentsOf (row.get "stream")) a.segments

/-- A refusal in the name of the row, for a reason that holds. -/
inductive Refused (id : Value) (cause : Prop) : Failure → Prop where
  | record (holds : cause) (reason : String) : Refused id cause (.record "adjustment" id reason)

theorem fail_decided {α : Type} {id : Value} {cause : Prop} {good : α → Prop} (holds : cause)
    (reason : String) : Decided (Refused id cause) good (fail id reason) :=
  .error (.record holds reason)

theorem Refused.because {α : Type} {id : Value} {cause larger : Prop} {good : α → Prop}
    {x : Except Failure α} (decided : Decided (Refused id cause) good x) (implied : cause → larger) :
    Decided (Refused id larger) good x :=
  decided.mono (fun _ refused => by
    obtain ⟨holds,reason⟩ := refused
    exact .record (implied holds) reason) fun _ made => made

section Fragments

variable {id fragment : Value} {a b : ℚ}

/-- A pair is turned into its range, unless rounding shows that it is reversed. -/
theorem segment_of_pairs (pair : fragment.Pairs a b) :
    segment id fragment = if halfAway b < halfAway a
      then fail id ("fragment " ++ fragment.shown ++ " ends before it starts")
      else .ok ⟨halfAway a,halfAway b⟩ := by
  obtain ⟨v,w,rfl,lower,upper⟩ := pair
  simp only [segment,Value.toInteger?_eq,lower,upper,Option.map_some]
  split
  · rfl
  next ordered => exact Interval.ofInts_ordered ordered

theorem segment_of_other (other : ∀ a b, ¬ fragment.Pairs a b) :
    segment id fragment = fail id ("fragment " ++ fragment.shown ++ " is not a numeric pair") := by
  unfold segment
  split
  next v w =>
    rw [Value.toInteger?_eq,Value.toInteger?_eq]
    split
    next lower upper =>
      obtain ⟨a,first,_⟩ := Option.map_eq_some_iff.mp lower
      obtain ⟨b,second,_⟩ := Option.map_eq_some_iff.mp upper
      exact absurd ⟨v,w,rfl,first,second⟩ (other a b)
    next => rfl
  next => rfl

theorem segment_decided (id fragment : Value) :
    Decided (Refused id (Faulty fragment)) (Ranges fragment) (segment id fragment) := by
  by_cases pairs : ∃ a b, fragment.Pairs a b
  · obtain ⟨a,b,pair⟩ := pairs
    rw [segment_of_pairs pair]
    split
    next reversed => exact fail_decided (.reversed pair reversed) _
    next ordered => exact .ok ⟨⟨a,b,pair,rfl⟩,not_lt.mp ordered⟩
  · have other : ∀ a b, ¬ fragment.Pairs a b := fun a b pair => pairs ⟨a,b,pair⟩
    rw [segment_of_other other]
    exact fail_decided (.pair other) _

/-- Rounding turns no pair round. -/
theorem segment_of_ordered (pair : fragment.Pairs a b) (ordered : a ≤ b) :
    segment id fragment = .ok ⟨halfAway a,halfAway b⟩ := by
  rw [segment_of_pairs pair,if_neg (not_lt.mpr (Number.halfAway_mono ordered))]

end Fragments

section Streams

variable {row : Row} {stream : Value}

theorem segmentsOf_decided (id stream : Value) :
    Decided (Refused id (Malformed stream))
      (fun segments => (stream.member "fragments" ≠ .null →
        ∃ items, stream.member "fragments" = .list items) ∧
        List.Forall₂ Ranges (fragmentsOf stream) segments)
      (segmentsOf id (stream.member "fragments")) := by
  unfold fragmentsOf
  cases listed : stream.member "fragments" with
  | null => exact .ok ⟨fun given => absurd rfl given,.nil⟩
  | list items =>
    have each : ∀ fragment ∈ items,
        Decided (Refused id (Malformed stream)) (Ranges fragment) (segment id fragment) :=
      fun fragment member =>
        Refused.because (segment_decided id fragment) fun faulty => .fragment listed member faulty
    exact (Decided.mapM each).mono (fun _ refused => refused) fun _ ranges => ⟨fun _ => ⟨items,rfl⟩,ranges⟩
  | _ => exact fail_decided (.fragments (by simp [listed]) (by simp [listed])) _

theorem prerollOf_decided (id preroll : Value) :
    Decided (Refused id (preroll ≠ .null ∧ preroll.worth? = none))
      (fun offset => offset = preroll.worth?.map halfAway ∧
        (preroll ≠ .null → preroll.worth? ≠ none)) (prerollOf id preroll) := by
  unfold prerollOf
  split
  next => exact .ok ⟨rfl,fun given => absurd rfl given⟩
  next given =>
    rw [Value.toInteger?_eq]
    cases worth : preroll.worth? with
    | none => exact fail_decided ⟨given,rfl⟩ _
    | some q => exact .ok ⟨rfl,fun _ => Option.some_ne_none q⟩

/-- A value that an adjustment can be made of is a stream. -/
theorem not_malformed {fields : List (Value × Value)} (object : stream = .object fields)
    (preroll : stream.member "preroll" ≠ .null → (stream.member "preroll").worth? ≠ none)
    (listed : stream.member "fragments" ≠ .null →
      ∃ items, stream.member "fragments" = .list items) {segments : List (Interval Int)}
    (ranges : List.Forall₂ Ranges (fragmentsOf stream) segments) : ¬ Malformed stream := by
  intro malformed
  cases malformed with
  | stream other => exact other fields object
  | preroll given other => exact preroll given other
  | fragments given other =>
    obtain ⟨items,same⟩ := listed given
    exact other items same
  | fragment items member faulty =>
    -- A fragment with a range is not faulty, and each one has a range.
    have sound : ∀ fragment ∈ fragmentsOf stream, ¬ Faulty fragment :=
      ((List.forall₂_and_left _ _).mp (ranges.imp fun _ _ range => ⟨range.not_faulty,range⟩)).1
    rw [fragmentsOf,items] at sound
    exact sound _ member faulty

theorem ofRow_decided (id : (row.find? "id").isSome) (opened : (row.find? "opened_at").isSome) :
    Decided (Refused (row.get "id") (Malformed (row.get "stream")))
      (fun a => ¬ Malformed (row.get "stream") ∧ Made row a) (ofRow row) := by
  unfold ofRow
  dsimp only
  cases given : row.get "stream" with
  | object fields =>
    have member (name : String) :
        (Value.field? fields name).getD .null = (Value.object fields).member name := rfl
    simp only [member,Row.require_present id,Row.require_present opened]
    refine (Refused.because (prerollOf_decided _ _) fun other => .preroll other.1 other.2).bind ?_
    rintro _ ⟨rfl,preroll⟩
    refine (segmentsOf_decided _ _).bind ?_
    rintro segments ⟨listed,ranges⟩
    exact .ok ⟨not_malformed rfl preroll listed ranges,⟨rfl,rfl,rfl,by rw [given],by rw [given]; exact ranges⟩⟩
  | _ => exact fail_decided (.stream nofun) _

end Streams

/-- A row is refused in its own name exactly if its stream is malformed, and otherwise becomes an
adjustment with the ranges of the fragments in their order. A pair that is in order before it is
rounded is not what a stream is refused for. -/
theorem exactly_made :
    (∀ v : Value, v.worth?.isSome ↔ (∃ i, v = .int i) ∨ ∃ x, v = .float x ∧ x.isFinite = true) ∧
    (∀ row : Row, (row.find? "id").isSome → (row.find? "opened_at").isSome →
      ((∃ reason, ofRow row = .error (.record "adjustment" (row.get "id") reason)) ↔
        Malformed (row.get "stream")) ∧
      (¬ Malformed (row.get "stream") → ∃ a, ofRow row = .ok a ∧ Made row a ∧
        a.parameters.lookup "segments" = some (.intRanges a.segments))) ∧
    (∀ (row : Row) (message : String), ofRow row ≠ .error (.badValue message)) ∧
    ∀ (fragment : Value) (a b : ℚ), fragment.Pairs a b → a ≤ b → ¬ Faulty fragment ∧
      ∀ id, segment id fragment = .ok ⟨halfAway a,halfAway b⟩ := by
  refine ⟨Value.worth?_isSome,fun row id opened => ?_,fun row message => ?_,
    fun fragment a b pair ordered => ?_⟩
  · have decided := ofRow_decided id opened
    cases result : ofRow row with
    | error failure =>
      obtain ⟨malformed,reason⟩ := decided.failed result
      exact ⟨iff_of_true ⟨reason,rfl⟩ malformed,fun sound => absurd malformed sound⟩
    | ok a =>
      obtain ⟨sound,made⟩ := decided.made result
      exact ⟨iff_of_false nofun sound,fun _ => ⟨a,rfl,made,rfl⟩⟩
  · have other : FailsOnly (fun failure => failure ≠ .badValue message) (ofRow row) :=
      ofRow_fails (by rintro _ own rfl; cases own) (row.require_fails nofun) (row.require_fails nofun)
    exact fun failed => other _ failed rfl
  · have rounded := Number.halfAway_mono ordered
    exact ⟨Ranges.not_faulty ⟨⟨a,b,pair,rfl⟩,rounded⟩,fun _ => segment_of_ordered pair ordered⟩

def half (negative : Bool) : Number.Binary64 := .ofFields negative 0x3FE0000000000000

theorem worth_half (negative : Bool) :
    (Value.float (half negative)).worth? = some (if negative then -(1 / 2) else 1 / 2) := by
  have finite : ∀ negative, (half negative).isFinite = true := by decide
  have sign : ∀ negative, (half negative).negative = negative := by decide
  have digits : ∀ negative, (half negative).shortest = ⟨5,-1⟩ := by decide +kernel
  have tenths : Number.Decimal.value ⟨5,-1⟩ = 1 / 2 := by norm_num [Number.Decimal.value]
  rw [Value.worth?,if_pos (finite negative),Number.Binary64.written_text _ (finite negative),
    Number.Binary64.worth,sign,digits,tenths]

def streamRow (lower : Value) : Row :=
  [("id",.uuid ⟨1⟩),("opened_at",.stamp .first),
    ("stream",.object [(.text "preroll",.float (half true)),
      (.text "fragments",.list [.list [lower,.int 2]])])]

/-- Halves are rounded away from zero, and a truth value is no number. -/
theorem half_stream_made :
    (∃ a, ofRow (streamRow (.float (half false))) = .ok a ∧
      a.segments = [⟨1,2⟩] ∧ a.offset = some (-1)) ∧
    (∃ reason, ofRow (streamRow (.bool true)) =
      .error (.record "adjustment" (.uuid ⟨1⟩) reason)) ∧
    segment .null (.list [.float (half true),.float (half false)]) = .ok ⟨-1,1⟩ := by
  have up : halfAway (1 / 2) = 1 := by decide +kernel
  have down : halfAway (-(1 / 2)) = -1 := by decide +kernel
  have two : halfAway 2 = 2 := Number.halfAway_intCast 2
  have pair : Value.Pairs (.list [.float (half false),.int 2]) (1 / 2) 2 :=
    ⟨_,_,rfl,worth_half false,rfl⟩
  have ranges : List.Forall₂ Ranges [.list [.float (half false),.int 2]] [⟨1,2⟩] :=
    .cons ⟨⟨_,_,pair,by rw [up,two]⟩,by decide⟩ .nil
  obtain ⟨_,made,_,ordered⟩ := exactly_made
  refine ⟨?_,?_,?_⟩
  · have sound : ¬ Malformed ((streamRow (.float (half false))).get "stream") :=
      not_malformed rfl (fun _ none => nomatch (worth_half true).symm.trans none)
        (fun _ => ⟨_,rfl⟩) ranges
    obtain ⟨a,result,adjustment,_⟩ := (made (streamRow (.float (half false))) rfl rfl).2 sound
    refine ⟨a,result,?_,?_⟩
    · exact List.right_unique_forall₂' ranges_unique adjustment.segments ranges
    · rw [adjustment.offset]
      exact (congrArg (Option.map halfAway) (worth_half true)).trans (congrArg some down)
  · have faulty : Faulty (.list [.bool true,.int 2]) := by
      refine .pair ?_
      rintro _ _ ⟨_,_,⟨⟩,none,_⟩
      cases none
    exact (made (streamRow (.bool true)) rfl rfl).1.mpr (.fragment rfl (by simp) faulty)
  · have halves : Value.Pairs (.list [.float (half true),.float (half false)]) (-(1 / 2)) (1 / 2) :=
      ⟨_,_,rfl,worth_half true,worth_half false⟩
    obtain ⟨_,range⟩ := ordered _ _ _ halves (by norm_num)
    rw [range,up,down]

end Adjustment

end RoomTransfer
