import RoomTransfer.CommandLine.Command
import RoomTransfer.Text.Quoted
import RoomTransfer.Text.Similar

/-! Arguments and what they ask for. Options may stand anywhere behind a command; two dashes end
them, and the last of several texts counts. -/
namespace RoomTransfer.CommandLine

inductive Fault where
  | unknownOption (given : String) (near : List String)
  | unknownCommand (given : String) (near : List String)
  | textMissing (option : String)
  | textUnwanted (option : String)
  | unexpected (words : List String)
  deriving DecidableEq, Repr

namespace Fault

def hint (near : List String) : String :=
  match near with
  | [] => ""
  | [one] => " Did you mean " ++ Text.quoted one ++ "?"
  | several => " (Did you mean one of: " ++ ", ".intercalate (several.map Text.quoted) ++ "?)"

def message : Fault → String
  | .unknownOption given near => "No such option " ++ Text.quoted given ++ "." ++ hint near
  | .unknownCommand given near => "No such command " ++ Text.quoted given ++ "." ++ hint near
  | .textMissing option => "Option " ++ Text.quoted option ++ " requires an argument."
  | .textUnwanted option => "Option " ++ Text.quoted option ++ " does not take a value."
  | .unexpected words =>
    "Got unexpected extra argument" ++ (if words.length = 1 then "" else "s") ++ " (" ++
      " ".intercalate words ++ ")"

/-- Whether the usage is shown with a fault; how an option is filled is told without it. -/
def showsUsage : Fault → Bool
  | .textMissing _ | .textUnwanted _ => false
  | _ => true

end Fault

/-- The options given, in their order, each with its text or an empty one, and the other words. -/
structure Given where
  options : List (OptionName × String) := []
  words : List String := []
  deriving DecidableEq, Repr

namespace Given

def has (g : Given) (o : OptionName) : Bool := g.options.any fun (p,_) => p = o

/-- The last text given for an option, or its default. -/
def text (g : Given) (o : OptionName) : String :=
  match (g.options.filter fun (p,_) => p = o).getLast? with
  | some (_,s) => s
  | none => o.default?.getD ""

def withOptions (more : List (OptionName × String)) (g : Given) : Given :=
  { g with options := more ++ g.options }

def withWord (word : String) (g : Given) : Given := { g with words := word :: g.words }

end Given

namespace Arguments

def splitText (arg : List Char) : String × Option String :=
  match arg.dropWhile (· ≠ '=') with
  | [] => (String.ofList arg,none)
  | _ :: text => (String.ofList (arg.takeWhile (· ≠ '=')),some (String.ofList text))

def readLetters (known : List OptionName) : List Char → Except Fault (List (OptionName × String))
  | [] => .ok []
  | c :: rest =>
    match known.find? (·.letter? = some c) with
    | none => .error (.unknownOption (String.ofList ['-',c]) [])
    | some o => do return (o,"") :: (← readLetters known rest)

/-- What an argument that starts with a dash is: options that are complete, or one that takes the
next argument as its text. -/
inductive Reading where
  | complete (options : List (OptionName × String))
  | open_ (option : OptionName)

def readOption (known : List OptionName) (arg : List Char) : Except Fault Reading :=
  let (word,text) := splitText arg
  match known.find? (·.word = word),text with
  | some o,none => .ok (if o.takesText then .open_ o else .complete [(o,"")])
  | some o,some text =>
    if o.takesText then .ok (.complete [(o,text)]) else .error (.textUnwanted word)
  | none,_ => match arg with
    | '-' :: '-' :: _ =>
      .error (.unknownOption word (Text.suggestions word (known.map OptionName.word)))
    | _ => do return .complete (← readLetters known arg.tail)

def isOption : List Char → Bool
  | '-' :: _ :: _ => true
  | _ => false

/-- Reads arguments; `pending` is an option that waits for its text. Where `scattered` is false,
the first plain word ends the options. -/
def read (known : List OptionName) (scattered : Bool) :
    (pending : Option OptionName) → List String → Except Fault Given
  | none,[] => .ok {}
  | some o,[] => .error (.textMissing o.word)
  | some o,text :: rest => do return (← read known scattered none rest).withOptions [(o,text)]
  | none,arg :: rest =>
    if arg = "--" then .ok { words := rest }
    else if isOption arg.toList then do
      match ← readOption known arg.toList with
      | .complete options => return (← read known scattered none rest).withOptions options
      | .open_ o => read known scattered (some o) rest
    else if scattered then do return (← read known scattered none rest).withWord arg
    else .ok { words := arg :: rest }

end Arguments

inductive Order where
  | migrate (config : String) (verbose dryRun jsonLogs : Bool)
  | status (config : String) (verbose : Bool)
  | ensureIndex (config : String) (verbose yes : Bool)
  | initConfig (output : String)
  deriving DecidableEq, Repr

inductive Request where
  | version
  | page (scope : Scope)
  | order (order : Order)
  | refused (scope : Scope) (fault : Fault)
  deriving DecidableEq, Repr

namespace Request

def orderOf (g : Given) : Command → Order
  | .migrate => .migrate (g.text .config) (g.has .verbose) (g.has .dryRun) (g.has .jsonLogs)
  | .status => .status (g.text .config) (g.has .verbose)
  | .ensureIndex => .ensureIndex (g.text .config) (g.has .verbose) (g.has .yes)
  | .initConfig => .initConfig (g.text .output)

/-- Options that cannot be read are refused before anything else, then help comes before words
that are too many. -/
def ofCommand (c : Command) (arguments : List String) : Request :=
  match Arguments.read c.options true none arguments with
  | .error fault => .refused (.command c) fault
  | .ok g =>
    if g.has .help then .page (.command c)
    else if g.words.isEmpty then .order (orderOf g c)
    else .refused (.command c) (.unexpected g.words)

def ofName (name : String) (arguments : List String) : Request :=
  match Command.ofName? name with
  | some c => ofCommand c arguments
  | none => .refused .program
      (.unknownCommand name (Text.suggestions name (Command.all.map Command.name)))

/-- Options of the program itself: the first of them counts. -/
def ofProgramOptions (arguments : List String) : Request :=
  match Arguments.read Scope.program.options false none arguments with
  | .error fault => .refused .program fault
  | .ok g => match g.options with
    | (.version,_) :: _ => .version
    | _ => .page .program

/-- What arguments ask for. Without a command they are those of `migrate`. -/
def ofArguments (arguments : List String) : Request :=
  match arguments with
  | [] => ofCommand .migrate []
  | first :: rest =>
    if first ∈ ["-h","--help","--version"] then ofProgramOptions arguments
    else if first.startsWith "-" then ofCommand .migrate arguments
    else ofName first rest

end Request

end RoomTransfer.CommandLine
