import Mathlib.Data.List.Infix
import RoomTransfer.Text.Ranges

/-! Readers of text. A reader takes something off the front of a text and leaves what follows; it reads
what a writer has written if it takes all of that and nothing of what follows. -/
namespace RoomTransfer.Text

/-- Takes something off the front of a text, if it is there. -/
abbrev Reader (α : Type) := StateT (List Char) Option α

namespace Reader

variable {α β : Type}

def mark (s : String) : Reader Unit := fun cs => (s.toList.isPrefixOf? cs).map fun rest => ((),rest)

def ended : Reader Unit := fun cs => if cs = [] then some ((),[]) else none

/-- As many characters of a kind as there are, at least one. -/
def span (kind : Char → Bool) : Reader (List Char) := fun cs =>
  if cs.takeWhile kind = [] then none else some (cs.takeWhile kind,cs.dropWhile kind)

/-- Items up to what closes them. -/
def upTo (closing : Reader Unit) (item : Reader α) : (most : Nat) → Reader (List α)
  | 0 => failure
  | most + 1 => (do closing; return []) <|> (do
      let x ← item
      return x :: (← upTo closing item most))

/-- Items with something between them, up to what closes them. -/
def separated (closing between : Reader Unit) (item : Reader α) : Reader (List α) :=
  (do closing; return []) <|> (do
    let x ← item
    let rest ← get
    return x :: (← upTo closing (do between; item) (rest.length + 1)))

/-- What a reader finds that takes a whole text. -/
def whole? (r : Reader α) (s : String) : Option α :=
  match r.run s.toList with
  | some (a,[]) => some a
  | _ => none

/-- A reader takes all of a text and nothing of what follows it. -/
def Reads (r : Reader α) (front rest : List Char) (a : α) : Prop := r.run (front ++ rest) = some (a,rest)

def Fails (r : Reader α) (cs : List Char) : Prop := r.run cs = none

section Rules

variable {r r' : Reader α} {f : α → Reader β} {front back rest cs : List Char} {a : α} {b : β}

theorem Reads.bind (first : r.Reads front (back ++ rest) a) (next : (f a).Reads back rest b) :
    (r >>= f).Reads (front ++ back) rest b := by
  unfold Reads at *
  rw [StateT.run_bind,List.append_assoc,first]
  exact next

/-- What is done with what was read may take nothing more. -/
theorem Reads.then (read : r.Reads front rest a) (next : (f a).Reads [] rest b) :
    (r >>= f).Reads front rest b := by
  unfold Reads at *
  rw [StateT.run_bind,read]
  exact next

theorem pure_reads (a : α) (rest : List Char) : (pure a : Reader α).Reads [] rest a := rfl

theorem Reads.returns (read : r.Reads front rest a) (g : α → β) :
    (do let a ← r; return g a).Reads front rest (g a) := read.then (pure_reads _ _)

theorem Reads.orElse (read : r.Reads front rest a) : (r <|> r').Reads front rest a := by
  unfold Reads at *
  rw [StateT.run_orElse,read]
  rfl

theorem Fails.orElse (fails : r.Fails (front ++ rest)) (read : r'.Reads front rest a) :
    (r <|> r').Reads front rest a := by
  unfold Reads Fails at *
  rw [StateT.run_orElse,fails,read]
  rfl

theorem Fails.bind (fails : r.Fails cs) (f : α → Reader β) : (r >>= f).Fails cs := by
  unfold Fails at *
  rw [StateT.run_bind,fails]
  rfl

theorem mark_reads (s : String) (rest : List Char) : (mark s).Reads s.toList rest () := by
  have found : s.toList.isPrefixOf? (s.toList ++ rest) = some rest :=
    List.isPrefixOf?_eq_some_iff_append_eq.mpr rfl
  exact congrArg (Option.map _) found

theorem mark_fails {s : String} {c d : Char} (first : s.toList.head? = some c) (differ : c ≠ d) :
    (mark s).Fails (d :: cs) := by
  obtain ⟨more,chars⟩ := List.head?_eq_some_iff.mp first
  unfold Fails StateT.run mark
  rw [chars]
  simp [List.isPrefixOf?,differ]

theorem ended_reads : ended.Reads [] [] () := rfl

theorem span_reads {kind : Char → Bool} (all : ∀ c ∈ front, kind c = true) (first : front ≠ [])
    (stop : rest.takeWhile kind = []) : (span kind).Reads front rest front := by
  have parts := List.takeWhile_append_dropWhile (p := kind) (l := rest)
  rw [stop,List.nil_append] at parts
  unfold Reads StateT.run span
  rw [List.takeWhile_append_of_pos all,List.dropWhile_append_of_pos all,stop,parts,List.append_nil,
    if_neg first]

theorem whole?_of_reads {s : String} (read : r.Reads s.toList [] a) : r.whole? s = some a := by
  unfold Reads at read
  rw [List.append_nil] at read
  simp only [whole?,read]

end Rules

section Lists

variable {closing between : Reader Unit} {item : Reader β} {write : α → List Char} {found : α → β}
  {xs : List α} {close rest sep : List Char} {Stop : List Char → Prop}

/-- Items are read one by one, if each may stop before what closes them all and before every other
item. -/
theorem upTo_reads {most : Nat} (enough : xs.length < most) (closes : closing.Reads close rest ())
    (opens : ∀ x ∈ xs, ∀ more, closing.Fails (write x ++ more))
    (each : ∀ x ∈ xs, ∀ more, Stop more → item.Reads (write x) more (found x))
    (last : Stop (close ++ rest)) (others : ∀ x ∈ xs, ∀ more, Stop (write x ++ more)) :
    (upTo closing item most).Reads (xs.flatMap write ++ close) rest (xs.map found) := by
  induction xs generalizing most with
  | nil =>
    cases most with
    | zero => cases enough
    | succ most => exact (closes.returns fun _ => []).orElse
  | cons x xs ih =>
    cases most with
    | zero => cases enough
    | succ most =>
      have tail := ih (Nat.lt_of_succ_lt_succ enough)
        (fun y member => opens y (List.mem_cons_of_mem x member))
        (fun y member => each y (List.mem_cons_of_mem x member))
        (fun y member => others y (List.mem_cons_of_mem x member))
      have stops : Stop (xs.flatMap write ++ close ++ rest) := by
        cases xs with
        | nil => exact last
        | cons y ys =>
          rw [List.flatMap_cons,List.append_assoc,List.append_assoc]
          exact others y (by simp) _
      have here := each x List.mem_cons_self _ stops
      rw [List.flatMap_cons,List.append_assoc]
      refine Fails.orElse ?_ (here.bind (tail.returns fun ys => found x :: ys))
      rw [List.append_assoc]
      exact (opens x List.mem_cons_self _).bind _

theorem intercalate_cons (x : List Char) (xs : List (List Char)) :
    sep.intercalate (x :: xs) = x ++ xs.flatMap fun y => sep ++ y := by
  induction xs generalizing x with
  | nil => simp
  | cons y ys ih => simp [List.intercalate_cons_cons,ih]

theorem length_le_flatMap {f : α → List Char} (given : ∀ x ∈ xs, f x ≠ []) :
    xs.length ≤ (xs.flatMap f).length := by
  induction xs with
  | nil => simp
  | cons x xs ih =>
    have rest := ih fun y member => given y (List.mem_cons_of_mem x member)
    have here := List.length_pos_iff.mpr (given x List.mem_cons_self)
    simp only [List.flatMap_cons,List.length_append,List.length_cons]
    omega

/-- A list is read whatever the number of its items. -/
theorem separated_reads (something : sep ≠ []) (closes : closing.Reads close rest ())
    (opens : ∀ x ∈ xs, ∀ more, closing.Fails (write x ++ more))
    (goes : ∀ more, closing.Fails (sep ++ more))
    (parts : ∀ x ∈ xs, ∀ more, between.Reads sep (write x ++ more) ())
    (each : ∀ x ∈ xs, ∀ more, Stop more → item.Reads (write x) more (found x))
    (last : Stop (close ++ rest)) (others : ∀ more, Stop (sep ++ more)) :
    (separated closing between item).Reads (sep.intercalate (xs.map write) ++ close) rest
      (xs.map found) := by
  cases xs with
  | nil => exact (closes.returns fun _ => []).orElse
  | cons x xs =>
    have tail (more : List Char) (long : xs.length ≤ more.length) :
        (upTo closing (do between; item) (more.length + 1)).Reads
          (xs.flatMap (fun y => sep ++ write y) ++ close) rest (xs.map found) := by
      refine upTo_reads (by omega) closes ?_ ?_ last ?_
      · intro y member more
        rw [List.append_assoc]
        exact goes _
      · intro y member more stops
        have inside := List.mem_cons_of_mem x member
        exact (parts y inside more).bind (each y inside more stops)
      · intro y member more
        rw [List.append_assoc]
        exact others _
    have counted : xs.length ≤ (xs.flatMap fun y => sep ++ write y).length :=
      length_le_flatMap fun y member => by simp [something]
    have stops : Stop (xs.flatMap (fun y => sep ++ write y) ++ close ++ rest) := by
      cases xs with
      | nil => exact last
      | cons y ys =>
        rw [List.flatMap_cons,List.append_assoc,List.append_assoc,List.append_assoc]
        exact others _
    rw [List.map_cons,intercalate_cons,List.flatMap_map,List.append_assoc]
    refine Fails.orElse ?_ ((each x List.mem_cons_self _ stops).bind ?_)
    · rw [List.append_assoc]
      exact (opens x List.mem_cons_self _).bind _
    · have long : xs.length ≤ (xs.flatMap (fun y => sep ++ write y) ++ close ++ rest).length := by
        simp only [List.length_append]
        omega
      exact (tail _ long).returns fun ys => found x :: ys

end Lists

end Reader

end RoomTransfer.Text
