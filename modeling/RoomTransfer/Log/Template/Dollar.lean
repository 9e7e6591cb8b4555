import RoomTransfer.Failure

/-! Templates with dollar signs. A field is a dollar sign and its name, which may stand in braces;
two dollar signs stand for one. -/
namespace RoomTransfer.Log.Dollar

inductive Piece where
  | text (c : Char)
  | field (name : String)
  /-- A dollar sign by itself. -/
  | bare

def isStart (c : Char) : Bool := c.isAlpha || c = '_'

def isPart (c : Char) : Bool := c.isAlphanum || c = '_'

/-- The name at the front of a text. -/
def leadingName (cs : List Char) : List Char :=
  if cs.head?.any isStart then cs.takeWhile isPart else []

/-- Reads a template; every step takes at least one character. -/
def readFrom : (fuel : Nat) → List Char → List Piece
  | 0,_ => []
  | _,[] => []
  | fuel + 1,'$' :: '$' :: rest => .text '$' :: readFrom fuel rest
  | fuel + 1,'$' :: '\x7b' :: rest =>
    let name := leadingName rest
    match rest.drop name.length with
    | '\x7d' :: rest =>
      (if name.isEmpty then .bare else .field (String.ofList name)) :: readFrom fuel rest
    | _ => [.bare]
  | fuel + 1,'$' :: rest =>
    let name := leadingName rest
    if name.isEmpty then [.bare]
    else .field (String.ofList name) :: readFrom fuel (rest.drop name.length)
  | fuel + 1,c :: rest => .text c :: readFrom fuel rest

def pieces (s : String) : List Piece := readFrom s.length s.toList

/-- No dollar sign may be bare, and there has to be a field. -/
def check (ps : List Piece) : Except Failure Unit :=
  if ps.any fun p => p matches .bare then .error (.badValue "invalid format: bare '$' not allowed")
  else if ps.any fun p => p matches .field _ then .ok ()
  else .error (.badValue "invalid format: no fields")

/-- Writes a template with the values of its fields. -/
def write (value? : String → Option Value) : List Piece → Except Failure (List Char)
  | [] => .ok []
  | .text c :: rest => do return c :: (← write value? rest)
  | .bare :: _ => .error (.badValue "invalid format: bare '$' not allowed")
  | .field name :: rest => match value? name with
    | none => .error (.missingKey name)
    | some v => do return v.plain.toList ++ (← write value? rest)

end RoomTransfer.Log.Dollar
