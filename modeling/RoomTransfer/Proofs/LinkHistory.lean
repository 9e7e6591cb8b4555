import RoomTransfer.Link

/-! Histories of a legacy link: what its users do with it, one after another and inside each other.
An operation that fails breaks off the context that it stands in, and leaves the link to the
next one. -/
namespace RoomTransfer.Link

inductive Operation where
  | acquire
  | release
  | connection
  | cursor (name : String)
  | fetch (query : Query)
  /-- An exception of the one who uses the link. -/
  | raise (failure : Failure)
  /-- The link as a context around other operations. -/
  | within (body : List Operation)

variable {σ : Type} [Store.Database σ]

mutual

def perform (credentials : Credentials) : Operation → Run σ (List (List Row))
  | .acquire => do
    Link.acquire credentials
    pure []
  | .release => do
    Link.release
    pure []
  | .connection => do
    Link.connection
    pure []
  | .cursor name => do
    openCursor name
    pure []
  | .fetch query => fetchAll query
  | .raise failure => Run.fail failure
  | .within body => Link.within credentials (performAll credentials body)

def performAll (credentials : Credentials) : List Operation → Run σ (List (List Row))
  | [] => pure []
  | operation :: rest => do
    let got ← perform credentials operation
    let others ← performAll credentials rest
    pure (got ++ others)

end

/-- The outcomes of operations one after another, each in the world that the one before left,
whether it failed or not. -/
def history (credentials : Credentials) : List Operation → World σ →
    List (Outcome σ (List (List Row)))
  | [],_ => []
  | operation :: rest,w =>
    let o := perform credentials operation w
    o :: history credentials rest o.world

end RoomTransfer.Link
