import RoomTransfer.Log.Shape
import RoomTransfer.Text.DecimalDigit
import RoomTransfer.Text.Ranges
import RoomTransfer.Value.Item

/-! Templates with percent signs. A field may have a name in parentheses, then flags, a width, a
precision and the letter that tells how to show its value. A field without a name takes the next of
the values given, and so does a width or a precision that is asked for by a star. -/
namespace RoomTransfer.Log.Percent

inductive Count where
  | told (n : Nat)
  | asked

structure Field where
  name : Option String
  flags : List Char := []
  width : Option Count := none
  precision : Option Count := none
  /-- The letter and its position, or why there is none. -/
  ending : Except Failure (Char × Nat)

inductive Piece where
  | text (c : Char)
  | field (f : Field)
  /-- A name that nothing closes. -/
  | unclosed

def isFlag (c : Char) : Bool := "#0+- ".toList.contains c

def letters : List Char := "diouxXeEfFgGcrsa".toList

def leadingNumber (cs : List Char) : Option Nat × List Char :=
  match cs.takeWhile Char.isDigit with
  | [] => (none,cs)
  | ds => (some (ds.foldl (fun n c => 10 * n + (c.toNat - 48)) 0),cs.dropWhile Char.isDigit)

/-- Whether a character is one of some small letters or stands for one in a text where case does
not count: the long s and the two forms of i that only some scripts have do. -/
def isLetterOf (letters : String) (c : Char) : Bool :=
  let c := if c.toNat = 0x17F then 's' else if c.toNat = 0x130 ∨ c.toNat = 0x131 then 'i' else c.toLower
  letters.toList.contains c

def isDigit (c : Char) : Bool := (Text.digitValue? c).isSome

def skipCount : List Char → List Char
  | '*' :: rest => rest
  | cs => cs.dropWhile isDigit

def startsField : List Char → Bool
  | '%' :: '(' :: rest =>
    match rest.takeWhile Text.isWord,rest.dropWhile Text.isWord with
    | _ :: _,')' :: rest =>
      let rest := skipCount (rest.dropWhile isFlag)
      let rest := match rest with
        | '.' :: behind => if (skipCount behind).length < behind.length then skipCount behind else rest
        | _ => rest
      rest.head?.any (isLetterOf "diouxefgcrsa%")
    | _,_ => false
  | _ => false

def hasField : List Char → Bool
  | [] => false
  | c :: rest => startsField (c :: rest) || hasField rest

def readCount (limit : Nat) (cs : List Char) : Option (Option Count × List Char) :=
  match cs with
  | '*' :: rest => some (some .asked,rest)
  | _ => match leadingNumber cs with
    | (none,_) => some (none,cs)
    | (some n,rest) => if n ≤ limit then some (some (.told n),rest) else none

/-- The precision behind a point; none after it counts as zero. -/
def readPrecision : List Char → Option (Option Count × List Char)
  | '.' :: rest => (readCount 0x7FFFFFFF rest).map fun (n,rest) => (n.orElse fun _ => some (.told 0),rest)
  | cs => some (none,cs)

/-- A length in front of a letter has no meaning. -/
def skipLength : List Char → List Char
  | c :: rest => if c = 'h' || c = 'l' || c = 'L' then rest else c :: rest
  | [] => []

def readField (total : Nat) (name : Option String) (cs : List Char) : Field × List Char :=
  let flags := cs.takeWhile isFlag
  match readCount 0x7FFFFFFFFFFFFFFF (cs.dropWhile isFlag) with
  | none => ({ name, ending := .error (.badValue "width too big") },[])
  | some (width,rest) => match readPrecision rest with
    | none => ({ name, width, ending := .error (.badValue "precision too big") },[])
    | some (precision,rest) => match skipLength rest with
      | [] => ({ name, width, precision, ending := .error (.badValue "incomplete format") },[])
      | c :: rest =>
        ({ name, flags, width, precision, ending := .ok (c,total - (rest.length + 1)) },rest)

/-- The name of a field, in which parentheses are balanced, and what follows it. -/
def readName : (depth : Nat) → List Char → Option (List Char × List Char)
  | _,[] => none
  | 0,')' :: rest => some ([],rest)
  | depth + 1,')' :: rest => (readName depth rest).map fun (name,rest) => (')' :: name,rest)
  | depth,'(' :: rest => (readName (depth + 1) rest).map fun (name,rest) => ('(' :: name,rest)
  | depth,c :: rest => (readName depth rest).map fun (name,rest) => (c :: name,rest)

def readFrom (total : Nat) : (fuel : Nat) → List Char → List Piece
  | 0,_ => []
  | _,[] => []
  | fuel + 1,'%' :: '%' :: rest => .text '%' :: readFrom total fuel rest
  | fuel + 1,'%' :: '(' :: rest =>
    match readName 0 rest with
    | none => [.unclosed]
    | some (name,rest) =>
      let (field,rest) := readField total (some (String.ofList name)) rest
      .field field :: readFrom total fuel rest
  | fuel + 1,'%' :: rest =>
    let (field,rest) := readField total none rest
    .field field :: readFrom total fuel rest
  | fuel + 1,c :: rest => .text c :: readFrom total fuel rest

def pieces (s : String) : List Piece :=
  let cs := s.toList
  readFrom cs.length cs.length cs

structure Arguments where
  /-- What fields without a name take, in order. -/
  rest : List Value
  /-- The value of a name, where there are any. -/
  named? : Option (String → Except Failure Value) := none

namespace Arguments

/-- A tuple gives its items one by one, any other value gives itself; objects have names, and lists
and bytes look as if they had. -/
def ofValue : Value → Arguments
  | .tuple xs => { rest := xs }
  | v@(.object _) | v@(.list _) | v@(.bytes _) => { rest := [v], named? := some v.itemNamed }
  | v => { rest := [v] }

def next (a : Arguments) : Except Failure (Value × Arguments) :=
  match a.rest with
  | v :: rest => .ok (v,{ a with rest })
  | [] => .error (.wrongType "not enough arguments for format string")

def choose (a : Arguments) : Option String → Except Failure Arguments
  | none => .ok a
  | some name => match a.named? with
    | some look => do return { a with rest := [← look name] }
    | none => .error (.wrongType "format requires a mapping")

def count (a : Arguments) : Option Count → Except Failure (Option Int × Arguments)
  | none => .ok (none,a)
  | some (.told n) => .ok (some n,a)
  | some .asked => do
    let (v,a) ← a.next
    match v.numeric? with
    | some (.int i) => return (some i,a)
    | _ => throw (.wrongType "* wants int")

end Arguments

/-- The shape that flags, a width and a precision ask for. A width below zero asks for the left. -/
def shapeOf (flags : List Char) (width : Int) (precision : Option Nat) (letter : Char) : Shape :=
  let left := flags.contains '-' || width < 0
  let zeros := flags.contains '0' && !left && !"crsa".toList.contains letter
  { fill := if zeros then '0' else ' '
    align := some (if left then '<' else if zeros then '=' else '>')
    sign := if flags.contains '+' then some '+' else if flags.contains ' ' then some ' ' else none
    full := flags.contains '#'
    width := width.natAbs
    precision
    letter := some letter }

def unsupported (c : Char) (position : Nat) : Failure :=
  let shown := if 31 ≤ c.toNat ∧ c.toNat ≤ 126 then c else '?'
  .badValue (String.ofList ("unsupported format character '".toList ++ shown :: "' (0x".toList ++
    Nat.toDigits 16 c.toNat ++ ") at index ".toList ++ Number.digits position))

def whole (x : Number.Binary64) : Except Failure Int :=
  if x.isNaN then .error (.badValue "cannot convert float NaN to integer")
  else if x.isInfinite then .error (.numberTooLarge "cannot convert float infinity to integer")
  else
    let n := x.units / Number.Binary64.scale
    .ok (if x.negative then -(n : Int) else n)

def doubleOf (i : Int) : Except Failure Number.Binary64 :=
  let x := Number.Binary64.ofInt i
  if x.isFinite then .ok x else .error (.numberTooLarge "int too large to convert to float")

def asciiOnly (cs : List Char) : List Char :=
  cs.flatMap fun c => if c.toNat < 0x80 then [c] else Text.escapeCode c.toNat

/-- An integer in a base. Its precision must leave room for a sign and a mark. -/
def layInteger (shape : Shape) (base : Nat) (mark : List Char) (i : Int) :
    Except Failure (List Char) :=
  if 0x7FFFFFFC < shape.precision.getD 0 then .error (.numberTooLarge "precision too large")
  else .ok (shape.layInteger base 3 mark i)

/-- A whole number: doubles lose their fraction, and identifiers count as the number of their
bits. -/
def layDecimal (shape : Shape) (v : Value) : Except Failure (List Char) := do
  match v,v.numeric? with
  | _,some (.int i) => layInteger shape 10 [] i
  | _,some (.float x) => layInteger shape 10 [] (← whole x)
  | .uuid u,_ => layInteger shape 10 [] u.bits.toNat
  | _,none => throw (.wrongFormat 'd' v.typeName)

def layBased (shape : Shape) (base : Nat) (mark : Char) (v : Value) : Except Failure (List Char) :=
  match v.numeric? with
  | some (.int i) => layInteger shape base ['0',mark] i
  | _ => .error (.wrongFormat mark v.typeName)

def layCharacter (shape : Shape) (v : Value) : Except Failure (List Char) :=
  match v,v.numeric? with
  | .text s,_ => match s.toList with
    | [c] => .ok ({ shape with precision := none }.layText [c])
    | _ => .error (.wrongFormat 'c' v.typeName)
  | _,some (.int i) =>
    if 0 ≤ i ∧ i < 0x110000 then .ok ({ shape with precision := none }.layText [Char.ofNat i.toNat])
    else .error (.numberTooLarge "%c arg not in range(0x110000)")
  | _,_ => .error (.wrongFormat 'c' v.typeName)

def layPoint (shape : Shape) (letter : Char) (v : Value) : Except Failure (List Char) := do
  let write := shape.numeral letter.toLower
  match v.numeric? with
  | some (.int i) => return shape.layDouble write [] (← doubleOf i)
  | some (.float x) => return shape.layDouble write [] x
  | none => throw (.wrongFormat letter v.typeName)

def layLetter (shape : Shape) (letter : Char) (v : Value) : Except Failure (List Char) :=
  match letter with
  | 's' => .ok (shape.layText v.plain.toList)
  | 'r' => .ok (shape.layText v.shown.toList)
  | 'a' => .ok (shape.layText (asciiOnly v.shown.toList))
  | 'c' => layCharacter shape v
  | 'd' | 'i' | 'u' => layDecimal shape v
  | 'o' => layBased shape 8 'o' v
  | 'x' => layBased shape 16 'x' v
  | 'X' => layBased shape 16 'X' v
  | _ => layPoint shape letter v

/-- Lays a value out where a memory holds it. -/
def lay (shape : Shape) (letter : Char) (v : Value) : Except Failure (List Char) :=
  if shape.width ≤ Shape.widest then layLetter shape letter v
  else do
    let _ ← layLetter { shape with width := 0 } letter v
    throw .textTooLong

/-- A width is a machine word. -/
def checkWidth (i : Int) : Except Failure Unit :=
  if i.natAbs ≤ 0x7FFFFFFFFFFFFFFF then .ok ()
  else .error (.numberTooLarge "width too large")

/-- A precision is half a machine word; below zero it counts as zero. -/
def precisionOf (i : Int) : Except Failure Nat :=
  if -0x80000000 ≤ i ∧ i ≤ 0x7FFFFFFF then .ok i.toNat
  else .error (.numberTooLarge "precision too large")

def writeField (a : Arguments) (f : Field) : Except Failure (List Char × Arguments) := do
  let a ← a.choose f.name
  let (width,a) ← a.count f.width
  checkWidth (width.getD 0)
  let (precision,a) ← a.count f.precision
  let precision ← precision.mapM precisionOf
  let (letter,position) ← f.ending
  let (v,a) ← a.next
  if letters.contains letter then
    return (← lay (shapeOf f.flags (width.getD 0) precision letter) letter v,a)
  else throw (unsupported letter position)

/-- Writes a template. Values that are left over are refused, unless they have names. -/
def write (a : Arguments) : List Piece → Except Failure (List Char)
  | [] =>
    if a.rest.isEmpty || a.named?.isSome then .ok []
    else .error (.wrongType "not all arguments converted during string formatting")
  | .text c :: rest => do return c :: (← write a rest)
  | .unclosed :: _ =>
    if a.named?.isSome then .error (.badValue "incomplete format key")
    else .error (.wrongType "format requires a mapping")
  | .field f :: rest => do
    let (cs,a) ← writeField a f
    return cs ++ (← write a rest)

/-- A template filled in with the items of a tuple, the fields of an object, or one value. -/
def fill (template : String) (v : Value) : Except Failure String := do
  return String.ofList (← write (Arguments.ofValue v) (pieces template))

end RoomTransfer.Log.Percent
