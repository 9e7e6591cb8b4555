import RoomTransfer.Log.Template.Part
import RoomTransfer.Log.Template.Percent

/-! Templates with braces. A field holds a name with the way into its value, a conversion behind an
exclamation mark, and the shape behind a colon. Doubled braces stand for themselves. -/
namespace RoomTransfer.Log.Braces

inductive Piece where
  | text (c : Char)
  | field (name : String) (conversion : Option Char) (shape : String)
  | broken (message : String)

/-- The end of a field's name; what stands in brackets belongs to it. -/
def readName : (inside : Bool) → List Char → List Char × List Char
  | _,[] => ([],[])
  | true,c :: rest =>
    let (name,rest) := readName (c ≠ ']') rest
    (c :: name,rest)
  | false,c :: rest =>
    if c = '\x7b' || c = '\x7d' || c = ':' || c = '!' then ([],c :: rest)
    else
      let (name,rest) := readName (c = '[') rest
      (c :: name,rest)

/-- The shape of a field up to the brace that closes it; none where there is no such brace. -/
def readShape : (depth : Nat) → List Char → Option (List Char × List Char)
  | _,[] => none
  | 0,'\x7d' :: rest => some ([],rest)
  | depth + 1,'\x7d' :: rest => (readShape depth rest).map fun (s,rest) => ('\x7d' :: s,rest)
  | depth,'\x7b' :: rest => (readShape (depth + 1) rest).map fun (s,rest) => ('\x7b' :: s,rest)
  | depth,c :: rest => (readShape depth rest).map fun (s,rest) => (c :: s,rest)

def closeField (name : List Char) (conversion : Option Char) (cs : List Char) :
    Piece × List Char :=
  match readShape 0 cs with
  | some (shape,rest) => (.field (String.ofList name) conversion (String.ofList shape),rest)
  | none => (.broken "unmatched '\x7b' in format spec",[])

def readField (cs : List Char) : Piece × List Char :=
  let (name,rest) := readName false cs
  match rest with
  | '\x7d' :: rest => (.field (String.ofList name) none "",rest)
  | ':' :: rest => closeField name none rest
  | '!' :: c :: '\x7d' :: rest => (.field (String.ofList name) (some c) "",rest)
  | '!' :: c :: ':' :: rest => closeField name (some c) rest
  | ['!',_] => (.broken "unmatched '\x7b' in format spec",[])
  | '!' :: _ :: _ => (.broken "expected ':' after conversion specifier",[])
  | ['!'] => (.broken "end of string while looking for conversion specifier",[])
  | '\x7b' :: _ => (.broken "unexpected '\x7b' in field name",[])
  | _ => (.broken "expected '\x7d' before end of string",[])

def readFrom : (fuel : Nat) → List Char → List Piece
  | 0,_ => []
  | _,[] => []
  | fuel + 1,'\x7b' :: '\x7b' :: rest => .text '\x7b' :: readFrom fuel rest
  | fuel + 1,'\x7d' :: '\x7d' :: rest => .text '\x7d' :: readFrom fuel rest
  | _ + 1,['\x7b'] => [.broken "Single '\x7b' encountered in format string"]
  | _ + 1,'\x7d' :: _ => [.broken "Single '\x7d' encountered in format string"]
  | fuel + 1,'\x7b' :: rest =>
    let (piece,rest) := readField rest
    piece :: readFrom fuel rest
  | fuel + 1,c :: rest => .text c :: readFrom fuel rest

def pieces (s : String) : List Piece := readFrom s.length s.toList

/-- What may follow a name: words behind points and anything in brackets. A line break may end
it. -/
def isPath : (fuel : Nat) → List Char → Bool
  | _,[] | _,['\n'] => true
  | 0,_ => false
  | fuel + 1,'.' :: rest => rest.head?.any Text.isWord && isPath fuel (rest.dropWhile Text.isWord)
  | fuel + 1,'[' :: rest => match rest.takeWhile (· ≠ ']'),rest.dropWhile (· ≠ ']') with
    | _ :: _,_ :: rest => isPath fuel rest
    | _,_ => false
  | _,_ => false

def isName (cs : List Char) : Bool :=
  cs.head?.any Text.isWord && isPath cs.length (cs.dropWhile Text.isWord)

def isAlign (c : Char) : Bool := "<>=^".toList.contains c

def skipNumber (cs : List Char) : Option (List Char) :=
  match cs with
  | '\x7b' :: rest => match rest.takeWhile Text.isWord,rest.dropWhile Text.isWord with
    | _ :: _,'\x7d' :: rest => some rest
    | _,_ => none
  | c :: rest => if Percent.isDigit c then some (rest.dropWhile Percent.isDigit) else none
  | [] => none

def skipOne (cs allowed : List Char) : List Char :=
  match cs with
  | c :: rest => if allowed.contains c then rest else cs
  | [] => []

/-- Whether a shape is in order: alignment, sign, mark, width, group mark, precision and letter, all
of which may be left out. A line break may end it. -/
def isShape (cs : List Char) : Bool :=
  let cs := match cs with
    | fill :: c :: rest => if isAlign c && fill ≠ '\n' then rest else if isAlign fill then c :: rest else cs
    | [c] => if isAlign c then [] else cs
    | [] => []
  let cs := skipOne (skipOne cs "+ -".toList) ['#']
  let cs := skipOne cs ['0']
  let cs := skipOne ((skipNumber cs).getD cs) [',','_']
  let precise := match cs with
    | '.' :: rest => skipNumber rest
    | _ => some cs
  match precise with
  | some [] | some ['\n'] => true
  | some [c] | some [c,'\n'] => Percent.isLetterOf "bcdefgnosx%" c
  | _ => false

/-- Whether a template is in order up to a field that is not. -/
def check : (fields : Bool) → List Piece → Except Failure Unit
  | true,[] => .ok ()
  | false,[] => .error (.badValue "invalid format: no fields")
  | fields,.text _ :: rest => check fields rest
  | _,.broken message :: _ => .error (.badValue ("invalid format: " ++ message))
  | fields,.field name conversion shape :: rest =>
    if !name.isEmpty && !isName name.toList then
      .error (.badValue ("invalid format: invalid field name/expression: " ++ Text.quoted name))
    else match conversion.filter fun c => !"rsa".toList.contains c with
      | some c => .error (.badValue ("invalid format: invalid conversion: " ++ Text.quoted c.toString))
      | none =>
        if isShape shape.toList then check (fields || !name.isEmpty) rest
        else .error (.badValue ("invalid format: bad specifier: " ++ Text.quoted shape))

def leadingNumber (cs : List Char) : Except Failure (Option Nat × List Char) :=
  match (cs.takeWhile Percent.isDigit).filterMap Text.digitValue? with
  | [] => .ok (none,cs)
  | ds =>
    let n := ds.foldl (fun n d => 10 * n + d) 0
    if n < 0x8000000000000000 then .ok (some n,cs.dropWhile Percent.isDigit)
    else .error (.badValue "Too many decimal digits in format string")

def letterText (c : Char) : List Char :=
  if 32 < c.toNat ∧ c.toNat < 128 then [c] else '\\' :: 'x' :: Nat.toDigits 16 c.toNat

/-- Reads a shape for a value of a type; `numbers` tells that it stands on the right by default,
and `letter` is the one that is meant where none is given. -/
def readShapeOf (typeName : String) (numbers : Bool) (letter : Option Char) (cs : List Char) :
    Except Failure Shape := do
  let (fill,align,rest) := match cs with
    | fill :: c :: rest => if isAlign c then (some fill,some c,rest)
      else if isAlign fill then (none,some fill,c :: rest) else (none,none,cs)
    | [c] => if isAlign c then (none,some c,[]) else (none,none,cs)
    | [] => (none,none,[])
  let (sign,rest) := match rest with
    | c :: more => if c = '+' || c = '-' || c = ' ' then (some c,more) else (none,rest)
    | [] => (none,[])
  let (dropSign,rest) := match rest with
    | 'z' :: more => (true,more)
    | _ => (false,rest)
  let (full,rest) := match rest with
    | '#' :: more => (true,more)
    | _ => (false,rest)
  let (zeros,rest) := match fill,rest with
    | none,'0' :: more => (true,more)
    | _,_ => (false,rest)
  let (width,rest) ← leadingNumber rest
  let (group,rest) := match rest with
    | c :: more => if c = ',' || c = '_' then (some c,more) else (none,rest)
    | [] => (none,[])
  let (precision,rest) ← match rest with
    | '.' :: more => do
      match ← leadingNumber more with
      | (none,_) => throw (.badValue "Format specifier missing precision")
      | found => pure found
    | _ => pure (none,rest)
  let letter ← match rest with
    | [] => pure letter
    | [c] => pure (some c)
    | _ => throw (.badValue ("Invalid format specifier '" ++ String.ofList cs ++
        "' for object of type '" ++ typeName ++ "'"))
  if let some mark := group then
    let c := letter.getD 'd'
    let fits := "defgEG%F".toList.contains c || (mark = '_' && "boxX".toList.contains c)
    if !fits then
      throw (.badValue (String.ofList ("Cannot specify '".toList ++ mark :: "' with '".toList ++
        letterText c ++ "'.".toList)))
  return {
    dropSign
    fill := if zeros then '0' else fill.getD ' '
    align := if zeros && numbers && align.isNone then some '=' else align
    sign, full, width := width.getD 0, group, precision, letter }

def unknownLetter (c : Char) (typeName : String) : Failure :=
  .badValue (String.ofList ("Unknown format code '".toList ++ letterText c ++
    "' for object of type '".toList ++ typeName.toList ++ ['\'']))

def layText (shape : Shape) (cs : List Char) : Except Failure (List Char) :=
  let refuse (what : String) : Except Failure (List Char) :=
    .error (.badValue (what ++ " not allowed in string format specifier"))
  match shape.letter with
  | some 's' =>
    match shape.sign with
    | some ' ' => refuse "Space"
    | some _ => refuse "Sign"
    | none =>
      if shape.dropSign then refuse "Negative zero coercion (z)"
      else if shape.full then refuse "Alternate form (#)"
      else if shape.align = some '=' then refuse "'=' alignment"
      else .ok (shape.layText cs)
  | letter => .error (unknownLetter (letter.getD 's') "str")

/-- Lays a double out. Without a letter it is written as short as it can be. -/
def layDouble (shape : Shape) (typeName : String) (x : Number.Binary64) :
    Except Failure (List Char) :=
  if shape.letter.any fun c => !"eEfFgGn%".toList.contains c then
    .error (unknownLetter (shape.letter.getD ' ') typeName)
  else if 0x7FFFFFFF < shape.precision.getD 0 then .error (.badValue "precision too big")
  else match shape.letter with
  | none => match shape.precision with
    | none => .ok (shape.layDouble (Number.Numeral.shortest shape.full) [] x)
    | some n => .ok (shape.layDouble (Number.Numeral.general n shape.full true) [] x)
  | some '%' =>
    .ok (shape.layDouble (Number.Numeral.fixed (shape.precision.getD 6) shape.full) ['%'] (x.mulNat 100))
  | some 'n' => .ok (shape.layDouble (shape.numeral 'g') [] x)
  | some c => .ok (shape.layDouble (shape.numeral c.toLower) [] x)

def layInteger (shape : Shape) (typeName : String) (i : Int) : Except Failure (List Char) :=
  let letter := shape.letter.getD 'd'
  if "eEfFgG%".toList.contains letter then do
    layDouble shape typeName (← Percent.doubleOf i)
  else if !"bcdoxXn".toList.contains letter then .error (unknownLetter letter typeName)
  else if shape.precision.isSome then
    .error (.badValue "Precision not allowed in integer format specifier")
  else if shape.dropSign then
    .error (.badValue "Negative zero coercion (z) not allowed in integer format specifier")
  else match letter with
    | 'c' =>
      if shape.sign.isSome then
        .error (.badValue "Sign not allowed with integer format specifier 'c'")
      else if shape.full then
        .error (.badValue "Alternate form (#) not allowed with integer format specifier 'c'")
      else if 0 ≤ i ∧ i < 0x110000 then .ok (shape.layNumber [] [] 3 [] [Char.ofNat i.toNat])
      else .error (.numberTooLarge "%c arg not in range(0x110000)")
    | 'b' => .ok (shape.layInteger 2 4 ['0','b'] i)
    | 'o' => .ok (shape.layInteger 8 4 ['0','o'] i)
    | 'x' => .ok (shape.layInteger 16 4 ['0','x'] i)
    | 'X' => .ok (shape.layInteger 16 4 ['0','X'] i)
    | _ => .ok (shape.layInteger 10 3 [] i)

/-- Lays a value out in a shape. Only texts, numbers and times take one. -/
def layValue (v : Value) (shape : Shape) (cs : List Char) : Except Failure (List Char) :=
  match v with
  | .text s => layText shape s.toList
  | .float x => layDouble shape "float" x
  | .int i => layInteger shape "int" i
  | .bool b => layInteger shape "bool" (if b then 1 else 0)
  | .stamp t => .ok (t.byPattern cs)
  | v => .error (.wrongFormat 's' v.typeName)

/-- The shape that a value reads from a text, as far as it reads one. -/
def shapeFor (v : Value) (cs : List Char) : Except Failure Shape :=
  match v with
  | .text _ => readShapeOf "str" false (some 's') cs
  | .float _ => readShapeOf "float" true none cs
  | .int _ => readShapeOf "int" true (some 'd') cs
  | .bool _ => readShapeOf "bool" true (some 'd') cs
  | _ => .ok {}

def lay (part : Part) (cs : List Char) : Except Failure (List Char) :=
  if cs.isEmpty then .ok part.plain.toList
  else match part with
  | .value v => do
    let shape ← shapeFor v cs
    if shape.width ≤ Shape.widest then layValue v shape cs
    else
      let _ ← layValue v { shape with width := 0 } cs
      throw .textTooLong
  | part => .error (.wrongFormat 's' part.typeName)

def convert (conversion : Option Char) (part : Part) : Part :=
  match conversion with
  | some 'r' => .value (.text part.shown)
  | some 'a' => .value (.text (String.ofList (Percent.asciiOnly part.shown.toList)))
  | some _ => .value (.text part.plain)
  | none => part

/-- Walks into a part: to items by brackets, to attributes by points. -/
def walk : (fuel : Nat) → Part → List Char → Except Failure Part
  | _,part,[] => .ok part
  | 0,part,_ => .ok part
  | fuel + 1,part,'[' :: rest => do
    let key := rest.takeWhile (· ≠ ']')
    let next ← match ← leadingNumber key with
      | (some n,[]) => part.item n
      | _ => part.itemNamed (String.ofList key)
    walk fuel (.value next) ((rest.dropWhile (· ≠ ']')).drop 1)
  | fuel + 1,part,'.' :: rest => do
    let inName (c : Char) : Bool := c ≠ '.' && c ≠ '['
    walk fuel (← part.member (String.ofList (rest.takeWhile inName))) (rest.dropWhile inName)
  | _,_,_ :: _ =>
    .error (.badValue "Only '.' or '[' may follow ']' in format field specifier")

/-- The value of a field. Fields without a name, or with a number for it, have none. -/
def partOf (value? : String → Option Value) (name : String) : Except Failure Part := do
  let cs := name.toList
  let first := cs.takeWhile fun c => c ≠ '.' && c ≠ '['
  match ← leadingNumber first with
  | (some n,[]) => throw (.noArgument n)
  | _ =>
    if first.isEmpty then throw (.noArgument 0)
    match value? (String.ofList first) with
    | none => throw (.missingKey (String.ofList first))
    | some v => walk cs.length (.value v) (cs.drop first.length)

def expand (value? : String → Option Value) : List Piece → Except Failure (List Char)
  | [] => .ok []
  | .text c :: rest => do return c :: (← expand value? rest)
  | .broken message :: _ => .error (.badValue message)
  | .field name _ _ :: rest => do
    let part ← partOf value? name
    return part.plain.toList ++ (← expand value? rest)

def shapeOf (value? : String → Option Value) (shape : String) : Except Failure (List Char) :=
  if shape.contains '\x7b' then expand value? (pieces shape) else .ok shape.toList

def write (value? : String → Option Value) : List Piece → Except Failure (List Char)
  | [] => .ok []
  | .text c :: rest => do return c :: (← write value? rest)
  | .broken message :: _ => .error (.badValue message)
  | .field name conversion shape :: rest => do
    let part ← partOf value? name
    let shape ← shapeOf value? shape
    let cs ← lay (convert conversion part) shape
    return cs ++ (← write value? rest)

end RoomTransfer.Log.Braces
