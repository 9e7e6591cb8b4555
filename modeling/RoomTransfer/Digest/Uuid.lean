import RoomTransfer.Digest.Sha1
import RoomTransfer.Text.Quoted
import RoomTransfer.Text.Utf8

/-! Universally unique identifiers: 128 bits, written as five groups of hexadecimal digits, and
the identifiers derived from names. -/
namespace RoomTransfer

structure Uuid where
  bits : BitVec 128
  deriving DecidableEq

namespace Uuid

instance : Inhabited Uuid := ⟨⟨0⟩⟩

/-- Groups of eight, four, four, four and twelve digits. -/
def chars (u : Uuid) : List Char :=
  let ds := Text.hexDigits 32 u.bits.toNat
  ds.take 8 ++ '-' :: (ds.drop 8).take 4 ++ '-' :: (ds.drop 12).take 4 ++
    '-' :: (ds.drop 16).take 4 ++ '-' :: ds.drop 20

def text (u : Uuid) : String := String.ofList u.chars

def ofText? (s : String) : Option Uuid := do
  let ds ← (s.toList.filter (· ≠ '-')).mapM Text.hexValue?
  if ds.length = 32 then some ⟨BitVec.ofNat 128 (ds.foldl (fun n d => n * 16 + d) 0)⟩ else none

def bytes (u : Uuid) : List UInt8 :=
  (List.range 16).map fun i => UInt8.ofNat (u.bits.toNat / Nat.pow 256 (15 - i))

def ofBytes (bs : List UInt8) : Uuid :=
  ⟨BitVec.ofNat 128 (bs.foldl (fun n b => n * 256 + b.toNat) 0)⟩

def webNamespace : Uuid := ⟨0x6ba7b8119dad11d180b400c04fd430c8⟩

/-- Marks sixteen hash bytes as a version five identifier of the standard variant. -/
def marked (hash : List UInt8) : List UInt8 :=
  (hash.take 16).zipIdx.map fun (b,i) =>
    if i = 6 then (b &&& 0x0F) ||| 0x50
    else if i = 8 then (b &&& 0x3F) ||| 0x80
    else b

/-- The identifier of a name: equal names have equal identifiers. -/
def ofName (space : Uuid) (name : String) : Uuid :=
  ofBytes (marked (Digest.Sha1.hash (space.bytes ++ Text.Utf8.encode name)))

end Uuid

def addressHash (url : String) : String := (Uuid.ofName Uuid.webNamespace url).text

end RoomTransfer
