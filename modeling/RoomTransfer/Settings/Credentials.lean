import RoomTransfer.Failure
import RoomTransfer.Text.DecimalDigit

/-! Credentials of both stores. They come from the environment and from nowhere else. -/
namespace RoomTransfer

abbrev Environment := List (String × String)

/-- The value of a variable, empty where it is not set. -/
def Environment.get (env : Environment) (name : String) : String := (List.lookup name env).getD ""

structure Credentials where
  host : String := ""
  port : Int := 5432
  database : String := ""
  user : String := ""
  password : String := ""
  deriving DecidableEq

namespace Credentials

/-- The port of a variable's text; an empty one stands for the default. -/
def readPort (text : String) : Except Failure Int :=
  if text.isEmpty then .ok 5432
  else match Text.integer? text with
    | some port => .ok port
    | none => .error (.portNotInteger "SOURCE_PORT" text)

def ofEnvironment (env : Environment) : Except Failure Credentials := do
  let port ← readPort (env.get "SOURCE_PORT")
  return {
    host := env.get "SOURCE_HOST"
    port
    database := env.get "SOURCE_DB"
    user := env.get "SOURCE_USER"
    password := env.get "SOURCE_PASSWORD" }

def missing (c : Credentials) : List String :=
  (if c.host.isEmpty then ["SOURCE_HOST"] else []) ++
  (if c.database.isEmpty then ["SOURCE_DB"] else []) ++
  (if c.user.isEmpty then ["SOURCE_USER"] else [])

def keywords (c : Credentials) : Row :=
  [("host",.text c.host),("port",.int c.port),("dbname",.text c.database),
    ("user",.text c.user),("password",.text c.password)]

/-- The location for messages; the password is left out. -/
def location (c : Credentials) : String :=
  c.user ++ "@" ++ c.host ++ ":" ++ (Value.int c.port).shown ++ "/" ++ c.database

end Credentials

end RoomTransfer
