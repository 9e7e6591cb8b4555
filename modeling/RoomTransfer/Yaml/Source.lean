import RoomTransfer.Text.Utf8
import RoomTransfer.Yaml.Cursor

/-! The text of a document as far as it can be read. A file is read piece by piece while the
document is taken in: what is wrong within a piece only matters once the reader gets there, and
then the whole piece is lost. -/
namespace RoomTransfer.Yaml

structure Source where
  text : List Char
  /-- What keeps the reader from going on behind the text; nothing does where the file ends. -/
  obstacle : Option Fault := none

namespace Source

/-- The characters of a piece; the first two pieces are read as one. -/
def pieceLength : Nat := 4096

def pieceStart (n : Nat) : Nat := if n < 2 * pieceLength then 0 else n - n % pieceLength

/-- A text up to the piece with its first character that no document may hold. -/
def ofChars (cs : List Char) : Source :=
  match cs.findIdx? fun c => !isAllowed c with
  | some n => { text := cs.take (pieceStart n), obstacle := some .malformed }
  | none => { text := cs }

def blockLength : Nat := 8192

def blocks : (fuel : Nat) → List UInt8 → List (List UInt8)
  | 0,_ | _,[] => []
  | fuel + 1,b :: bs =>
    (b :: bs).take blockLength :: blocks fuel ((b :: bs).drop blockLength)

/-- The characters of blocks of bytes, up to a block that is ill-formed. A character that a block
breaks off is `held` back for the next one. -/
def decode (held : List UInt8) : List (List UInt8) → List Char × Option Text.Utf8.DecodeError
  | [] => ([],if held.isEmpty then none else some (Text.Utf8.brokenOff held))
  | block :: more =>
    match Text.Utf8.split 0 (held ++ block) with
    | (_,.illFormed cause) => ([],some cause)
    | (cs,.complete) =>
      let (rest,cause) := decode [] more
      (cs ++ rest,cause)
    | (cs,.begun run) =>
      let (rest,cause) := decode run more
      (cs ++ rest,cause)

def plainLineEnds : List Char → List Char
  | '\r' :: '\n' :: rest => '\n' :: plainLineEnds rest
  | '\r' :: rest => '\n' :: plainLineEnds rest
  | c :: rest => c :: plainLineEnds rest
  | [] => []

def ofBytes (bs : List UInt8) : Source :=
  let (cs,cause) := decode [] (blocks bs.length bs)
  let cs := plainLineEnds cs
  match cause with
  | none => ofChars cs
  | some cause =>
    let known := ofChars (cs.take (pieceStart cs.length))
    { known with obstacle := known.obstacle.or (some (.refused (.undecodable cause))) }

end Source

end RoomTransfer.Yaml
