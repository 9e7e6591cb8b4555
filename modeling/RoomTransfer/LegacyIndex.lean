import RoomTransfer.Link

/-! The index on the legacy events that the watermark query uses. Creating it is the only write
to the legacy store, on a session of its own. -/
namespace RoomTransfer.LegacyIndex

def name : String := "events_created_at_idx"

def statement : String :=
  "create index if not exists " ++ name ++ " on events (created_at) where deleted_at is null"

def ensure {σ : Type} [Store.Database σ] (credentials : Credentials) : Run σ Unit := do
  Run.classify (.indexRefused name credentials.location) do
    let _ ← Run.ask (.connect .legacy none (credentials.keywords ++ [("autocommit",.bool true)]))
    let _ ← Run.leaving .legacy (Run.ask (.execute .legacy "" statement .null))
  Run.log (.about Log.info Link.entity ("Index " ++ name ++ " is present on legacy events"))

end RoomTransfer.LegacyIndex
