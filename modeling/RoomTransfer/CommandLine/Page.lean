import RoomTransfer.CommandLine.Command
import RoomTransfer.Text.Filled

/-! Help pages: the usage, what the command does, its options and, for the program itself, its
commands. -/
namespace RoomTransfer.CommandLine.Page

def width : Nat := 78

/-- The most that the first column of a table takes. -/
def maxTerm : Nat := 30

def indented (line : String) : String := "  " ++ line

def term (o : OptionName) : String :=
  (match o.letter? with
    | some c => String.ofList ['-',c] ++ ", "
    | none => "") ++ o.word ++ (if o.takesText then " TEXT" else "")

def meaning (o : OptionName) : String :=
  match o.default? with
  | some text => o.about ++ "  [default: " ++ text ++ "]"
  | none => o.about

/-- A term with its meaning filled into a second column, which starts at `column`. -/
def entry (column : Nat) (term meaning : String) : List String :=
  let fill (n : Nat) : String := String.ofList (List.replicate n ' ')
  match Text.filled (width - column - 2) meaning with
  | [] => [indented term]
  | first :: more =>
    let opening := if term.length + 2 ≤ column then [term ++ fill (column - term.length) ++ first]
      else [term,fill column ++ first]
    (opening ++ more.map (fill column ++ ·)).map indented

def table (rows : List (String × String)) : List String :=
  let widest := (rows.map fun (term,_) => term.length).foldl max 0
  rows.flatMap fun (term,meaning) => entry (min widest maxTerm + 2) term meaning

def paragraph (s : String) : List String := "" :: (Text.filled (width - 2) s).map indented

def optionRows (s : Scope) : List (String × String) := s.options.map fun o => (term o,meaning o)

def commandRows : List (String × String) :=
  let widest := (Command.all.map fun c => c.name.length).foldl max 0
  Command.all.map fun c => (c.name,Text.shortened (width - 6 - widest) ((c.about.head?).getD ""))

def lines (s : Scope) : List String :=
  [s.usage] ++ s.about.flatMap paragraph ++ ["","Options:"] ++ table (optionRows s) ++
    match s with
    | .program => ["","Commands:"] ++ table commandRows
    | .command _ => []

end RoomTransfer.CommandLine.Page
