import RoomTransfer.Settings.Credentials

/-! The settings of a run: tuning options and the credentials of both stores. -/
namespace RoomTransfer

structure Settings where
  options : Options
  legacy : Credentials := {}
  targetAddress : String := ""

namespace Settings

/-- Puts the credentials of an environment in place of those that were there. -/
def withEnvironment (s : Settings) (env : Environment) : Except Failure Settings := do
  let legacy ← Credentials.ofEnvironment env
  return { s with legacy, targetAddress := env.get "DATABASE_URL" }

def requireLegacy (s : Settings) : Except Failure Unit :=
  match s.legacy.missing with
  | [] => .ok ()
  | names => .error (.credentialsMissing names)

def requireTarget (s : Settings) : Except Failure Unit :=
  if s.targetAddress.isEmpty then .error (.targetMissing "DATABASE_URL") else .ok ()

end Settings

end RoomTransfer
