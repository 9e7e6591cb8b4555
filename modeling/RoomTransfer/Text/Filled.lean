/-! Text filled into lines of a given width. Lines break at blanks, and a word stays whole. -/
namespace RoomTransfer.Text

/-- The words of a text, each with the number of blanks before it; `word` is one that has begun. -/
def spacedFrom (blanks : Nat) (word : List Char) : List Char → List (Nat × List Char)
  | [] => if word.isEmpty then [] else [(blanks,word)]
  | ' ' :: rest =>
    if word.isEmpty then spacedFrom (blanks + 1) [] rest else (blanks,word) :: spacedFrom 1 [] rest
  | c :: rest => spacedFrom blanks (word ++ [c]) rest

def spaced (cs : List Char) : List (Nat × List Char) := spacedFrom 0 [] cs

def fillFrom (width : Nat) (line : List Char) : List (Nat × List Char) → List (List Char)
  | [] => [line]
  | (blanks,word) :: rest =>
    if line.length + blanks + word.length ≤ width then
      fillFrom width (line ++ List.replicate blanks ' ' ++ word) rest
    else line :: fillFrom width word rest

def filled (width : Nat) (s : String) : List String :=
  match spaced s.toList with
  | [] => []
  | (blanks,word) :: rest =>
    (fillFrom width (List.replicate blanks ' ' ++ word) rest).map String.ofList

/-- The first words of a text up to the end of a sentence, if these fit; otherwise as many words
as fit before three dots. -/
def shortened (width : Nat) (s : String) : String :=
  let words := (spaced s.toList).map Prod.snd
  let sentence := words.take (words.findIdx (·.getLast? = some '.') + 1)
  let joined (ws : List (List Char)) := List.intercalate [' '] ws
  if (joined sentence).length ≤ width then String.ofList (joined sentence)
  else
    let fits (n : Nat) : Bool := (joined (words.take n)).length + 3 ≤ width
    let n := ((List.range words.length).filter fits).getLast?.getD 0
    String.ofList (joined (words.take n)) ++ "..."

end RoomTransfer.Text
