import RoomTransfer.CommandLine.Session
import RoomTransfer.Text.Blank
import RoomTransfer.Text.Lowered

/-! Questions that are answered with yes or no. -/
namespace RoomTransfer.CommandLine.Question

/-- What a line says; an empty one is a no. -/
def reply? (line : String) : Option Bool :=
  let said := (Text.lowered line.toList).dropWhile Text.isBlank
  let said := (said.reverse.dropWhile Text.isBlank).reverse
  match String.ofList said with
  | "y" | "yes" => some true
  | "n" | "no" | "" => some false
  | _ => none

structure Exchange where
  printed : String
  reply : Option Bool
  rest : List String

def exchange (question : String) : List String → Exchange
  | [] => ⟨question,none,[]⟩
  | line :: rest =>
    match reply? line with
    | some reply => ⟨question,some reply,rest⟩
    | none =>
      let e := exchange question rest
      { e with printed := question ++ "Error: invalid input\n" ++ e.printed }

def ask {σ : Type} (question : String) : Work σ Bool := do
  let e := exchange (question ++ " [y/N]: ") (← get).answers
  modify fun s => { s with printed := s.printed ++ e.printed, answers := e.rest }
  match e.reply with
  | some reply => pure reply
  | none => throw .unanswered

end RoomTransfer.CommandLine.Question
