import RoomTransfer.Settings.Options
import RoomTransfer.Value.Json
import RoomTransfer.Value.Order

/-! Failures: what can go wrong, each cause with the values that its message shows. The kind of
a failure decides who handles it; the message is computed in one place. -/
namespace RoomTransfer

/-- Who a failure belongs to: the transfer itself, a database, the user, or anybody else. -/
inductive FailureKind where
  | migrator
  | config
  | legacyConnection
  | legacyRead
  | transform
  | targetConnection
  | write
  /-- Reported by a database, with the name of its class of errors. -/
  | database (name : String)
  | interrupt
  | foreign (name : String)
  deriving DecidableEq, Repr

namespace FailureKind

def name : FailureKind → String
  | .migrator => "MigratorError"
  | .config => "ConfigError"
  | .legacyConnection => "LegacyConnectionError"
  | .legacyRead => "LegacyReadError"
  | .transform => "TransformError"
  | .targetConnection => "TargetConnectionError"
  | .write => "WriteError"
  | .database name | .foreign name => name
  | .interrupt => "KeyboardInterrupt"

/-- The kinds of the transfer's own failures. -/
def isOwn : FailureKind → Bool
  | .migrator | .config | .legacyConnection | .legacyRead | .transform | .targetConnection
  | .write => true
  | _ => false

def isDatabase : FailureKind → Bool
  | .database _ => true
  | _ => false

/-- Kinds that are no errors: they end the program, and no command handles them. -/
def endsProgram : FailureKind → Bool
  | .foreign name => name ∈ ["SystemExit","GeneratorExit","BaseException","BaseExceptionGroup"]
  | _ => false

/-- The signal that an iteration is over. -/
def endsIteration : FailureKind → Bool
  | .foreign name => name = "StopIteration"
  | _ => false

/-- The demand to roll a transaction back, which leaves its block and goes no further. -/
def isRollback : FailureKind → Bool
  | .foreign name => name = "Rollback"
  | _ => false

/-- The classes of errors that a database interface has of its own, and those of single conditions
that are met most. -/
def databaseNames : List String :=
  ["Error","InterfaceError","DatabaseError","DataError","OperationalError","IntegrityError",
    "InternalError","ProgrammingError","NotSupportedError","UniqueViolation",
    "NotNullViolation","ForeignKeyViolation","CheckViolation","UndefinedTable",
    "UndefinedColumn","InsufficientPrivilege","QueryCanceled","AdminShutdown",
    "DeadlockDetected","SerializationFailure","LockNotAvailable","DiskFull"]

/-- The kind with the given name; any other name is foreign. -/
def ofName (s : String) : FailureKind :=
  let named := [FailureKind.migrator,.config,.legacyConnection,.legacyRead,.transform,
    .targetConnection,.write,.interrupt] ++ databaseNames.map .database
  (named.find? (·.name = s)).getD (.foreign s)

end FailureKind

/-- Why the file system refuses. -/
inductive FileError where
  | missing
  | taken
  | notFolder
  | isFolder
  | nameTooLong
  /-- A path with a null character, which the file system is not even asked about. -/
  | nullCharacter
  deriving DecidableEq, Repr

namespace FileError

def name : FileError → String
  | .missing => "FileNotFoundError"
  | .taken => "FileExistsError"
  | .notFolder => "NotADirectoryError"
  | .isFolder => "IsADirectoryError"
  | .nameTooLong => "OSError"
  | .nullCharacter => "ValueError"

def number : FileError → Nat
  | .missing => 2
  | .taken => 17
  | .notFolder => 20
  | .isFolder => 21
  | .nameTooLong => 36
  | .nullCharacter => 22

def reason : FileError → String
  | .missing => "No such file or directory"
  | .taken => "File exists"
  | .notFolder => "Not a directory"
  | .isFolder => "Is a directory"
  | .nameTooLong => "File name too long"
  | .nullCharacter => "embedded null byte"

/-- What is said of a path that is refused. -/
def message (cause : FileError) (path : String) : String :=
  if cause = .nullCharacter then cause.reason
  else "[Errno " ++ String.ofList (Number.digits cause.number) ++ "] " ++ cause.reason ++ ": " ++
    Text.quoted path

end FileError

inductive Failure where
  /-- Raised by a database or a caller. -/
  | raised (kind : FailureKind) (text : String)
  | credentialsMissing (names : List String)
  | targetMissing (name : String)
  | portNotInteger (name given : String)
  | settingsNotMapping (path : String)
  | settingsInvalid (path : String) (cause : SettingError)
  | settingInvalid (cause : SettingError)
  | legacyRefused (location cause : String)
  | indexRefused (index location cause : String)
  | legacyQuery (cause : String)
  /-- An iteration over rows that was told to end. -/
  | iterationEnded
  /-- A record that cannot be transferred. -/
  | record (entity : String) (id : Value) (reason : String)
  | targetRefused (cause : String)
  | statusRefused (cause : String)
  | batchRefused (rows : Nat) (table cause : String)
  | transactionFailed (cause : String)
  | linkClosed
  | missingKey (name : String)
  | missingItem (key : Value)
  | badValue (message : String)
  | unknownCounter (name : String)
  | negativeCount (count : Int)
  | calendar (cause : DateError)
  | yearTooFar (years : Int)
  | order (symbol : String) (cause : OrderError)
  | timeDifference
  | missingAttribute (typeName name : String)
  | notIndexable (typeName : String)
  | wrongIndex (typeName : String)
  | indexOutOfRange (typeName : String)
  | unhashable (typeName : String)
  | notSerializable (cause : Json.Refusal)
  | undecodable (cause : Text.Utf8.DecodeError)
  | ambiguousArgument (name : String)
  | unknownArgument (name : String)
  | reservedName (name : String)
  | wrongFormat (conversion : Char) (typeName : String)
  | wrongType (message : String)
  | numberTooLarge (message : String)
  /-- A moment in a year that no calendar of the system reaches. -/
  | timeTooFar
  /-- A text that no memory holds. -/
  | textTooLong
  /-- A field of a template that has no name. -/
  | noArgument (index : Nat)
  /-- A question whose answer never came. -/
  | unanswered
  | file (cause : FileError) (path : String)

namespace Failure

def kind : Failure → FailureKind
  | .raised kind _ => kind
  | .credentialsMissing _ | .targetMissing _ | .portNotInteger _ _ | .settingsNotMapping _
  | .settingsInvalid _ _ => .config
  | .legacyRefused _ _ | .indexRefused _ _ _ => .legacyConnection
  | .legacyQuery _ => .legacyRead
  | .record _ _ _ => .transform
  | .targetRefused _ | .statusRefused _ => .targetConnection
  | .batchRefused _ _ _ | .transactionFailed _ => .write
  | .linkClosed | .iterationEnded => .foreign "RuntimeError"
  | .missingKey _ | .missingItem _ | .unknownCounter _ | .reservedName _ => .foreign "KeyError"
  | .settingInvalid _ | .badValue _ | .negativeCount _ | .calendar _ => .foreign "ValueError"
  | .yearTooFar _ | .numberTooLarge _ => .foreign "OverflowError"
  | .order _ _ | .timeDifference | .notIndexable _ | .wrongIndex _ | .unhashable _
  | .notSerializable _ | .ambiguousArgument _ | .unknownArgument _ | .wrongFormat _ _
  | .wrongType _ => .foreign "TypeError"
  | .timeTooFar => .foreign "OSError"
  | .textTooLong => .foreign "MemoryError"
  | .missingAttribute _ _ => .foreign "AttributeError"
  | .indexOutOfRange _ | .noArgument _ => .foreign "IndexError"
  | .undecodable _ => .foreign "UnicodeDecodeError"
  | .unanswered => .foreign "Abort"
  | .file cause _ => .foreign cause.name

/-- Years beyond what a machine word or half of it can count. -/
def yearMessage (years : Int) : String :=
  if years < -0x8000000000000000 ∨ 0x8000000000000000 ≤ years then
    "Python int too large to convert to C long"
  else if years < 0 then "signed integer is less than minimum"
  else "signed integer is greater than maximum"

/-- Rows are addressed by name; sequences take only numbers. -/
def indexMessage (typeName : String) : String :=
  if typeName = "str" then "string indices must be integers, not 'str'"
  else typeName ++ " indices must be integers or slices, not str"

def indexRangeMessage (typeName : String) : String :=
  (if typeName = "str" then "string" else typeName) ++ " index out of range"

def message : Failure → String
  | .raised (.foreign "KeyError") text => if text.isEmpty then text else Text.quoted text
  | .raised _ text => text
  | .credentialsMissing names =>
    "Legacy store credentials are incomplete; set " ++ ", ".intercalate names
  | .targetMissing name => "Target store DSN is missing; set " ++ name
  | .portNotInteger name given => name ++ " must be an integer, got " ++ Text.quoted given
  | .settingsNotMapping path => "Config file " ++ path ++ " must contain a mapping"
  | .settingsInvalid path cause => "Invalid configuration in " ++ path ++ ": " ++ cause.message
  | .settingInvalid cause => cause.message
  | .legacyRefused location cause =>
    "Cannot connect to legacy store " ++ location ++ ": " ++ cause
  | .indexRefused index location cause =>
    "Failed to create " ++ index ++ " on " ++ location ++ ": " ++ cause
  | .legacyQuery cause => "Legacy query failed: " ++ cause
  | .iterationEnded => "generator raised StopIteration"
  | .record entity id reason => "Cannot migrate " ++ entity ++ " " ++ id.plain ++ ": " ++ reason
  | .targetRefused cause => "Cannot connect to target store: " ++ cause
  | .statusRefused cause => "Cannot read target store status: " ++ cause
  | .batchRefused rows table cause =>
    "Failed to write " ++ String.ofList (Number.digits rows) ++ " row(s) to " ++ table ++ ": " ++ cause
  | .transactionFailed cause => "Target transaction failed: " ++ cause
  | .linkClosed => "Legacy link is not open; call acquire() first"
  | .missingKey name => Text.quoted name
  | .missingItem key => key.shown
  | .badValue message => message
  | .unknownCounter name => Text.quoted ("Unknown summary counter: " ++ name)
  | .negativeCount count =>
    "Counter increments must be non-negative, got " ++ (Value.int count).shown
  | .calendar cause => cause.message
  | .yearTooFar years => yearMessage years
  | .order symbol cause => cause.message symbol
  | .timeDifference => "can't subtract offset-naive and offset-aware datetimes"
  | .missingAttribute typeName name => "'" ++ typeName ++ "' object has no attribute '" ++ name ++ "'"
  | .notIndexable typeName => "'" ++ typeName ++ "' object is not subscriptable"
  | .wrongIndex typeName => indexMessage typeName
  | .indexOutOfRange typeName => indexRangeMessage typeName
  | .unhashable typeName => "unhashable type: '" ++ typeName ++ "'"
  | .notSerializable (.part typeName) => "Object of type " ++ typeName ++ " is not JSON serializable"
  | .notSerializable (.key typeName) =>
    "keys must be str, int, float, bool or None, not " ++ typeName
  | .undecodable cause => cause.message
  | .ambiguousArgument name => "multiple values for argument '" ++ name ++ "'"
  | .unknownArgument name => "unexpected keyword argument '" ++ name ++ "'"
  | .reservedName name =>
    Text.quoted ("Attempt to overwrite " ++ Text.quoted name ++ " in LogRecord")
  | .wrongFormat conversion typeName =>
    "%" ++ conversion.toString ++ " format: a real number is required, not " ++ typeName
  | .wrongType message => message
  | .numberTooLarge message => message
  | .timeTooFar => "[Errno 75] Value too large for defined data type"
  | .textTooLong => ""
  | .noArgument index => "Replacement index " ++ String.ofList (Number.digits index) ++
      " out of range for positional args tuple"
  | .unanswered => ""
  | .file cause path => cause.message path

/-- One of the transfer's own failures. -/
def isOwn (f : Failure) : Bool := f.kind.isOwn

def isDatabase (f : Failure) : Bool := f.kind.isDatabase

def isInterrupt (f : Failure) : Bool := f.kind = .interrupt

def endsProgram (f : Failure) : Bool := f.kind.endsProgram

def endsIteration (f : Failure) : Bool := f.kind.endsIteration

def isRollback (f : Failure) : Bool := f.kind.isRollback

/-- Refused by the file system. -/
def isFile : Failure → Bool
  | .file cause _ => cause ≠ .nullCharacter
  | _ => false

end Failure

end RoomTransfer
