import Mathlib.Data.List.Forall2
import RoomTransfer.Proofs.Blameless

/-! What a conversion comes to: how it fails and what it makes, stated together and carried from
part to part. Beside it, what the fields of an object are after one of them was set. -/
namespace RoomTransfer

/-- A result that fails only in `bad` ways and is `good` where it is made. -/
inductive Decided {ε α : Type} (bad : ε → Prop) (good : α → Prop) : Except ε α → Prop where
  | error {failure : ε} (holds : bad failure) : Decided bad good (.error failure)
  | ok {a : α} (holds : good a) : Decided bad good (.ok a)

namespace Decided

variable {ε α β : Type} {bad bad' : ε → Prop} {good : α → Prop} {good' : β → Prop}

theorem ofFailsOnly {x : Except ε α} (only : FailsOnly bad x) : Decided bad (fun _ => True) x := by
  cases x with
  | error failure => exact .error (only failure rfl)
  | ok a => exact .ok trivial

/-- What comes next starts from something good. -/
theorem bind {x : Except ε α} {f : α → Except ε β} (first : Decided bad good x)
    (rest : ∀ a, good a → Decided bad good' (f a)) : Decided bad good' (x >>= f) := by
  cases first with
  | error holds => exact .error holds
  | ok holds => exact rest _ holds

/-- Something that fails like it may come first, whatever it makes. -/
theorem after {x : Except ε β} {f : β → Except ε α} (first : FailsOnly bad x)
    (rest : ∀ b, Decided bad good (f b)) : Decided bad good (x >>= f) :=
  (ofFailsOnly first).bind fun b _ => rest b

theorem ite {x y : Except ε α} {p : Prop} [Decidable p] (yes : Decided bad good x)
    (no : Decided bad good y) : Decided bad good (if p then x else y) := by
  split
  · exact yes
  · exact no

theorem mono {x : Except ε α} {better : α → Prop} (decided : Decided bad good x)
    (worse : ∀ failure, bad failure → bad' failure) (improved : ∀ a, good a → better a) :
    Decided bad' better x := by
  cases decided with
  | error holds => exact .error (worse _ holds)
  | ok holds => exact .ok (improved _ holds)

theorem made {x : Except ε α} {a : α} (decided : Decided bad good x) (result : x = .ok a) :
    good a := by
  subst result
  cases decided
  assumption

theorem failed {x : Except ε α} {failure : ε} (decided : Decided bad good x)
    (result : x = .error failure) : bad failure := by
  subst result
  cases decided
  assumption

/-- One after another, each is made into something that is good for it. -/
theorem mapM {γ : Type} {good : γ → α → Prop} {f : γ → Except ε α} {cs : List γ}
    (each : ∀ c ∈ cs, Decided bad (good c) (f c)) :
    Decided bad (List.Forall₂ good cs) (cs.mapM f) := by
  induction cs with
  | nil => exact .ok .nil
  | cons c rest ih =>
    rw [List.mapM_cons]
    refine (each c (by simp)).bind fun a first => ?_
    exact (ih fun d member => each d (by simp [member])).bind fun others later =>
      .ok (.cons first later)

end Decided

namespace Value

/-- A member of an object, null where it is lacking or where there is no object. -/
def member (v : Value) (name : String) : Value :=
  match v with
  | .object fields => (field? fields name).getD .null
  | _ => .null

variable {name : String} {value : Value} {fields : List (Value × Value)}

@[simp] theorem field?_nil : field? [] name = none := rfl

theorem field?_cons (key v : Value) : field? ((key,v) :: fields) name =
    if key.isText name then some v else field? fields name := by
  cases named : key.isText name <;> simp [field?,named]

theorem field?_setField_same : field? (setField name value fields) name = some value := by
  induction fields with
  | nil => simp [setField,field?_cons,isText]
  | cons field rest ih =>
    obtain ⟨key,old⟩ := field
    by_cases named : key.isText name = true <;> simp [setField,field?_cons,named,ih]

/-- Nothing but the field itself is touched, whatever the keys of the others are. -/
theorem setField_others : ((setField name value fields).filter fun field => !field.1.isText name) =
    fields.filter fun field => !field.1.isText name := by
  induction fields with
  | nil => simp [setField,isText]
  | cons field rest ih =>
    obtain ⟨key,old⟩ := field
    by_cases named : key.isText name = true <;> simp [setField,named,ih]

/-- A field that was there keeps its place, and a new one comes last. -/
theorem setField_keys : (setField name value fields).map Prod.fst =
    if (field? fields name).isSome then fields.map Prod.fst
    else fields.map Prod.fst ++ [.text name] := by
  induction fields with
  | nil => simp [setField]
  | cons field rest ih =>
    obtain ⟨key,old⟩ := field
    by_cases named : key.isText name = true
    · simp [setField,field?_cons,named]
    · simp only [setField,field?_cons,named,List.map_cons,ih,Bool.false_eq_true,if_false]
      split <;> simp

end Value

end RoomTransfer
