/-! The 160-bit secure hash: padded message blocks folded into five words. -/
namespace RoomTransfer.Digest

structure Sha1 where
  a : UInt32
  b : UInt32
  c : UInt32
  d : UInt32
  e : UInt32
  deriving DecidableEq

namespace Sha1

def initial : Sha1 := ⟨0x67452301,0xEFCDAB89,0x98BADCFE,0x10325476,0xC3D2E1F0⟩

def rotateLeft (x : UInt32) (n : UInt32) : UInt32 := (x <<< n) ||| (x >>> (32 - n))

def wordBytes (w : UInt32) : List UInt8 :=
  [(w >>> 24).toUInt8,(w >>> 16).toUInt8,(w >>> 8).toUInt8,w.toUInt8]

def wordOfBytes (b₀ b₁ b₂ b₃ : UInt8) : UInt32 :=
  (b₀.toUInt32 <<< 24) ||| (b₁.toUInt32 <<< 16) ||| (b₂.toUInt32 <<< 8) ||| b₃.toUInt32

/-- The message, a single one bit, zeros up to eight bytes before a block's end, and the length
in bits. -/
def padded (message : List UInt8) : List UInt8 :=
  let bits := message.length * 8
  let zeros := (119 - message.length % 64) % 64
  message ++ 0x80 :: List.replicate zeros 0 ++
    (List.range 8).map fun i => UInt8.ofNat (bits / Nat.pow 256 (7 - i))

def words : List UInt8 → List UInt32
  | b₀ :: b₁ :: b₂ :: b₃ :: rest => wordOfBytes b₀ b₁ b₂ b₃ :: words rest
  | _ => []

def nextWord (newest : List UInt32) : UInt32 :=
  rotateLeft (newest.getD 2 0 ^^^ newest.getD 7 0 ^^^ newest.getD 13 0 ^^^ newest.getD 15 0) 1

/-- The schedule of a block, newest word first. -/
def schedule : Nat → List UInt32 → List UInt32
  | 0,newest => newest
  | n + 1,newest => schedule n (nextWord newest :: newest)

/-- The mixing function and constant of round `t`. -/
def mixing (t : Nat) (b c d : UInt32) : UInt32 × UInt32 :=
  if t < 20 then ((b &&& c) ||| (~~~b &&& d),0x5A827999)
  else if t < 40 then (b ^^^ c ^^^ d,0x6ED9EBA1)
  else if t < 60 then ((b &&& c) ||| (b &&& d) ||| (c &&& d),0x8F1BBCDC)
  else (b ^^^ c ^^^ d,0xCA62C1D6)

def round (s : Sha1) (t : Nat) (w : UInt32) : Sha1 :=
  let (f,k) := mixing t s.b s.c s.d
  ⟨rotateLeft s.a 5 + f + s.e + k + w,s.a,rotateLeft s.b 30,s.c,s.d⟩

def addBlock (s : Sha1) (block : List UInt32) : Sha1 :=
  let mixed := ((schedule 64 block.reverse).reverse.zipIdx).foldl (fun s (w,t) => round s t w) s
  ⟨s.a + mixed.a,s.b + mixed.b,s.c + mixed.c,s.d + mixed.d,s.e + mixed.e⟩

/-- Folds all words in, sixteen at a time. -/
def addWords (s : Sha1) : Nat → List UInt32 → Sha1
  | 0,_ => s
  | blocks + 1,ws => addWords (addBlock s (ws.take 16)) blocks (ws.drop 16)

/-- The twenty bytes of the hash of a message. -/
def hash (message : List UInt8) : List UInt8 :=
  let ws := words (padded message)
  let s := addWords initial (ws.length / 16) ws
  [s.a,s.b,s.c,s.d,s.e].flatMap wordBytes

end Sha1

end RoomTransfer.Digest
