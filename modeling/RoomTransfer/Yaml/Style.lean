import RoomTransfer.Text.Quoted
import RoomTransfer.Yaml.Scalar

/-! How a text is written as a scalar: plainly where it reads back as that text, between single
quotes where line ends or looks stand against it, and between double quotes with escapes where
it holds a character outside printable ASCII or blanks next to a line end. -/
namespace RoomTransfer.Yaml

inductive Style where
  | plain
  | single
  | double
  deriving DecidableEq, Repr

/-- Blanks and line ends, which an indicator has to stand next to in order to be one. -/
def isBlankOrEnd (c : Char) : Bool := c = ' ' || c = '\n'

def atBlank : List Char → Bool
  | [] => true
  | c :: _ => isBlankOrEnd c

def startsSpecial : List Char → Bool
  | [] => false
  | c :: rest =>
    ("#,[]\x7b\x7d&*!|>'\"%@\x60".toList.contains c) || ((c = '?' || c = ':' || c = '-') && atBlank rest) ||
      "---".toList.isPrefixOf (c :: rest) || "...".toList.isPrefixOf (c :: rest)

def holdsIndicator : List Char → Bool
  | [] => false
  | ':' :: rest => atBlank rest || holdsIndicator rest
  | c :: '#' :: rest => isBlankOrEnd c || holdsIndicator ('#' :: rest)
  | _ :: rest => holdsIndicator rest

def needsEscape (c : Char) : Bool := c ≠ '\n' && !(' ' ≤ c && c ≤ '~')

def blankBeforeEnd : List Char → Bool
  | ' ' :: '\n' :: _ => true
  | _ :: rest => blankBeforeEnd rest
  | [] => false

def blankAfterEnd : List Char → Bool
  | '\n' :: ' ' :: _ => true
  | _ :: rest => blankAfterEnd rest
  | [] => false

def onEdges (p : Char → Bool) (cs : List Char) : Bool :=
  cs.head?.any p || cs.getLast?.any p

/-- Whether a text may stand plainly, apart from what it would be read as. -/
def allowsPlain (cs : List Char) : Bool :=
  !(cs.any needsEscape || cs.contains '\n' || onEdges isBlankOrEnd cs || startsSpecial cs ||
    holdsIndicator cs)

def Style.of (cs : List Char) : Style :=
  if ScalarKind.ofPlain cs = .text ∧ allowsPlain cs then .plain
  else if cs.any needsEscape || blankBeforeEnd cs || blankAfterEnd cs then .double
  else .single

/-- Lines are broken at blanks beyond this column. -/
def lineWidth : Nat := 80

def lineBreak (indent : Nat) : List Char := '\n' :: List.replicate indent ' '

/-- Whether the blank between `last` and `rest` stands alone inside the text. -/
def standsAlone (last : Option Char) (rest : List Char) : Bool :=
  last.any (· ≠ ' ') && rest.head?.any (· ≠ ' ')

/-- Writes text that keeps its line ends and is broken at single blanks; a line end is doubled.
`last` is the character before. -/
def folded (each : Char → List Char) (indent : Nat) : (column : Nat) → (last : Option Char) →
    List Char → List Char
  | _,_,[] => []
  | column,last,' ' :: rest =>
    if standsAlone last rest && lineWidth < column then
      lineBreak indent ++ folded each indent indent (some ' ') rest
    else ' ' :: folded each indent (column + 1) (some ' ') rest
  | column,last,'\n' :: rest =>
    (if last = some '\n' then ['\n'] else ['\n','\n']) ++
      (if rest.head? = some '\n' then folded each indent column (some '\n') rest
      else List.replicate indent ' ' ++ folded each indent indent (some '\n') rest)
  | column,_,c :: rest =>
    each c ++ folded each indent (column + (each c).length) (some c) rest

def doubled (c : Char) : List Char := if c = '\'' then ['\'','\''] else [c]

def hexUpper (width n : Nat) : List Char := (Text.hexDigits width n).map Char.toUpper

def shortEscapes : List (Char × Char) :=
  [('\x00','0'),('\x07','a'),('\x08','b'),('\t','t'),('\n','n'),('\x0b','v'),
    ('\x0c','f'),('\r','r'),('\x1b','e'),('"','"'),('\\','\\'),('\u0085','N'),
    ('\u00a0','_'),('\u2028','L'),('\u2029','P')]

/-- The escape of a character between double quotes, where it needs one. -/
def escape? (c : Char) : Option (List Char) :=
  match List.lookup c shortEscapes with
  | some letter => some ['\\',letter]
  | none =>
    if ' ' ≤ c ∧ c ≤ '~' then none
    else if c.toNat < 0x100 then some ('\\' :: 'x' :: hexUpper 2 c.toNat)
    else if c.toNat < 0x10000 then some ('\\' :: 'u' :: hexUpper 4 c.toNat)
    else some ('\\' :: 'U' :: hexUpper 8 c.toNat)

/-- Writes the inside of double quotes. A line is broken before a blank, or next to an escape,
behind a backslash; a blank that would start a line takes one too. `first` tells that nothing
has been written yet, `fresh` that an escape was written last. -/
def escaped (indent : Nat) : (column : Nat) → (first fresh : Bool) → List Char → List Char
  | _,_,_,[] => []
  | column,first,fresh,c :: rest =>
    let inside := !first && !rest.isEmpty
    match escape? c with
    | some e =>
      if inside && lineWidth < column + e.length - 1 then
        if rest.head? = some ' ' then
          e ++ '\\' :: lineBreak indent ++ '\\' :: escaped indent (indent + 1) false true rest
        else e ++ '\\' :: lineBreak indent ++ escaped indent indent false true rest
      else e ++ escaped indent (column + e.length) false true rest
    | none =>
      if inside && (c = ' ' || fresh) && lineWidth < column then
        if c = ' ' then
          '\\' :: lineBreak indent ++ '\\' :: c :: escaped indent (indent + 2) false false rest
        else '\\' :: lineBreak indent ++ c :: escaped indent (indent + 1) false false rest
      else c :: escaped indent (column + 1) false false rest

/-- Writes a text as a scalar whose first character comes to stand in `column`. -/
def writeText (indent column : Nat) (cs : List Char) : List Char :=
  match Style.of cs with
  | .plain => folded (fun c => [c]) indent column none cs
  | .single => '\'' :: folded doubled indent (column + 1) none cs ++ ['\'']
  | .double => '"' :: escaped indent (column + 1) true false cs ++ ['"']

end RoomTransfer.Yaml
