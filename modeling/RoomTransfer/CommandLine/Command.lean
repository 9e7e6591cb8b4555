/-! The commands of the program and the options that each takes. -/
namespace RoomTransfer.CommandLine

inductive OptionName where
  | verbose
  | config
  | dryRun
  | jsonLogs
  | yes
  | output
  | version
  | help
  deriving DecidableEq, Repr

namespace OptionName

/-- The letter of an option that has one. -/
def letter? : OptionName → Option Char
  | .verbose => some 'v'
  | .yes => some 'y'
  | .help => some 'h'
  | _ => none

def word : OptionName → String
  | .verbose => "--verbose"
  | .config => "--config"
  | .dryRun => "--dry_run"
  | .jsonLogs => "--json_logs"
  | .yes => "--yes"
  | .output => "--output"
  | .version => "--version"
  | .help => "--help"

/-- What an option holds where it is not given, if it holds a text. None of these has a letter. -/
def default? : OptionName → Option String
  | .config | .output => some "config.yaml"
  | _ => none

def takesText (o : OptionName) : Bool := o.default?.isSome

def about : OptionName → String
  | .verbose => "Show DEBUG messages on the console"
  | .config => "Tuning options YAML; store credentials always come from the environment"
  | .dryRun => "Run every step, then roll the target transaction back"
  | .jsonLogs => "Emit console logs as one JSON object per line"
  | .yes => "Skip the confirmation prompt"
  | .output => "Where to write the config file"
  | .version => "Show the version and exit."
  | .help => "Show this message and exit."

end OptionName

inductive Command where
  | ensureIndex
  | initConfig
  | migrate
  | status
  deriving DecidableEq, Repr

namespace Command

def all : List Command := [.ensureIndex,.initConfig,.migrate,.status]

def name : Command → String
  | .ensureIndex => "ensure-index"
  | .initConfig => "init-config"
  | .migrate => "migrate"
  | .status => "status"

def ofName? (s : String) : Option Command := all.find? (·.name = s)

def options : Command → List OptionName
  | .ensureIndex => [.verbose,.config,.yes,.help]
  | .initConfig => [.output,.help]
  | .migrate => [.verbose,.config,.dryRun,.jsonLogs,.help]
  | .status => [.verbose,.config,.help]

/-- What a command does, in paragraphs. -/
def about : Command → List String
  | .ensureIndex => ["Create the created_at index on the legacy events table.",
      "This is the only command that writes to the legacy store.",
      "Args:     config: Path to config YAML.     verbose: Enable verbose console logging.     " ++
        "yes: Do not ask for confirmation."]
  | .initConfig => ["Write a config.yaml with the default tuning options."]
  | .migrate => ["Copy legacy rooms, adjustments and new events into the target store.",
      "Args:     config: Path to config YAML.     verbose: Enable verbose console logging.     " ++
        "dry_run: Roll back instead of committing.     json_logs: Emit JSON lines on the console."]
  | .status => ["Show what the target store holds and how many events await backfill.",
      "Args:     config: Path to config YAML.     verbose: Enable verbose console logging."]

end Command

/-- Where arguments are read: before a command is named, or behind it. -/
inductive Scope where
  | program
  | command (command : Command)
  deriving DecidableEq, Repr

namespace Scope

def programName : String := "room-migrator"

def path : Scope → String
  | .program => programName
  | .command c => programName ++ " " ++ c.name

def options : Scope → List OptionName
  | .program => [.version,.help]
  | .command c => c.options

def about : Scope → List String
  | .program => ["Migrate legacy rooms, adjustments and events into the events service."]
  | .command c => c.about

/-- The line that tells what may follow. -/
def usage (s : Scope) : String :=
  "Usage: " ++ s.path ++ match s with
    | .program => " [OPTIONS] COMMAND [ARGS]..."
    | .command _ => " [OPTIONS]"

end Scope

end RoomTransfer.CommandLine
