/-! Blank characters of all scripts, and text with its blanks squeezed. -/
namespace RoomTransfer.Text

def isBlank (c : Char) : Bool :=
  let n := c.toNat
  (0x09 ≤ n && n ≤ 0x0D) || (0x1C ≤ n && n ≤ 0x20) || n = 0x85 || n = 0xA0 || n = 0x1680 ||
    (0x2000 ≤ n && n ≤ 0x200A) || n = 0x2028 || n = 0x2029 || n = 0x202F || n = 0x205F || n = 0x3000

/-- Squeezes blanks: `pending` tells whether one is owed before the next character. -/
def squeezeFrom (pending : Bool) : List Char → List Char
  | [] => []
  | c :: rest =>
    if isBlank c then squeezeFrom true rest
    else if pending then ' ' :: c :: squeezeFrom false rest
    else c :: squeezeFrom false rest

def squeeze (s : String) : String :=
  String.ofList (squeezeFrom false (s.toList.dropWhile isBlank))

def occursIn (part : List Char) : List Char → Bool
  | [] => part.isEmpty
  | c :: rest => part.isPrefixOf (c :: rest) || occursIn part rest

end RoomTransfer.Text
