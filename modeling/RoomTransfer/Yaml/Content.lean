import RoomTransfer.Yaml.Cursor
import RoomTransfer.Yaml.Style

/-! The content of scalars: between quotes, in blocks of whole lines, and plain. A single line end
within quoted or plain content stands for a blank, further ones for themselves. -/
namespace RoomTransfer.Yaml

/-- What a line end and the line ends after it stand for. -/
def joined (lineEnd : Char) (more : List Char) : List Char :=
  if lineEnd ≠ '\n' then lineEnd :: more
  else if more.isEmpty then [' ']
  else more

namespace Quoted

/-- Line ends and the blanks around them, up to content; a document marker must not follow. -/
def lineEnds : (fuel : Nat) → Cursor → Except Fault (List Char × Cursor)
  | 0,_ => .error .malformed
  | fuel + 1,c =>
    if c.markerAhead then .error .malformed
    else
      let c := c.skipWhile isGap
      match c.lineEnd with
      | some (x,c) => do
        let (xs,c) ← lineEnds fuel c
        .ok (x :: xs,c)
      | none => .ok ([],c)

def blanks (c : Cursor) : Except Fault (List Char × Cursor) := do
  let (gap,c) := c.span isGap
  match c.lineEnd with
  | some (x,c) => do
    let (more,c) ← lineEnds (c.rest.length + 1) c
    .ok (joined x more,c)
  | none => if c.peek.isNone then .error .unfinished else .ok (gap,c)

def escaped? (letter : Char) : Option Char :=
  if letter = ' ' || letter = '/' then some letter
  else if letter = '\t' then some '\t'
  else (shortEscapes.find? fun (_,l) => l = letter).map (·.1)

def escapeDigits? (letter : Char) : Option Nat :=
  match letter with
  | 'x' => some 2
  | 'u' => some 4
  | 'U' => some 8
  | _ => none

def hexNumber? (cs : List Char) : Option Nat :=
  cs.foldlM (fun n c => (Text.hexValue? c).map (16 * n + ·)) 0

/-- The character with a code; there are none beyond the last one. -/
def character (code : Nat) : Except Fault Char :=
  if code < 0x110000 then .ok (if code.isValidChar then Char.ofNat code else '\uFFFD')
  else if code < 0x80000000 then .error (.refused (.badValue "chr() arg not in range(0x110000)"))
  else .error (.refused (.raised (.foreign "OverflowError")
    "Python int too large to convert to C int"))

def escape (c : Cursor) : Except Fault (List Char × Cursor) :=
  match c.peek with
  | none => .error .unfinished
  | some letter => match escaped? letter,escapeDigits? letter with
    | some x,_ => .ok ([x],c.next)
    | none,some count =>
      let digits := c.next.rest.take count
      match hexNumber? digits with
      | some code => do
        if digits.length = count then .ok ([← character code],c.next.skip count)
        else .error .malformed
      | none => .error .malformed
    | none,none => match c.lineEnd with
      | some (_,c) => lineEnds (c.rest.length + 1) c
      | none => .error .malformed

def contentFrom (quote : Char) : (fuel : Nat) → Cursor → Except Fault (List Char × Cursor)
  | 0,_ => .error .malformed
  | fuel + 1,c => match c.peek with
    | none => .error .unfinished
    | some x =>
      let continued (step : Except Fault (List Char × Cursor)) : Except Fault (List Char × Cursor) := do
        let (xs,c) ← step
        let (more,c) ← contentFrom quote fuel c
        .ok (xs ++ more,c)
      if x = quote then
        if quote = '\'' && c.ahead 1 = some '\'' then continued (.ok (['\''],c.skip 2))
        else .ok ([],c.next)
      else if isBlank x then continued (blanks c)
      else if x = '\\' && quote = '"' then continued (escape c.next)
      else continued (.ok ([x],c.next))

def content (c : Cursor) : Except Fault (List Char × Cursor) :=
  match c.peek with
  | some quote => contentFrom quote (c.rest.length + 1) c.next
  | none => .error .malformed

end Quoted

namespace Lines

inductive Chomping where
  | clip
  | strip
  | keep
  deriving DecidableEq

def chomping? (x : Char) : Option Chomping :=
  if x = '+' then some .keep else if x = '-' then some .strip else none

/-- A digit for the indentation; zero is none. -/
def increment? (c : Cursor) : Except Fault (Option Nat × Cursor) :=
  match c.peek with
  | some x =>
    if x.isDigit then
      if x = '0' then .error .malformed else .ok (some (x.toNat - 48),c.next)
    else .ok (none,c)
  | none => .ok (none,c)

/-- What stands behind the indicator of a block: chomping and indentation, in any order. -/
def header (c : Cursor) : Except Fault (Chomping × Option Nat × Cursor) := do
  let (chomping,increment,c) ← match c.peek.bind chomping? with
    | some chomping => do
      let (increment,c) ← increment? c.next
      pure (chomping,increment,c)
    | none => do
      let (increment,c) ← increment? c
      match increment.isSome,c.peek.bind chomping? with
      | true,some chomping => pure (chomping,increment,c.next)
      | _,_ => pure (.clip,increment,c)
  match c.peek with
  | none => .ok (chomping,increment,c)
  | some x => if x = ' ' || isBreak x then .ok (chomping,increment,c) else .error .malformed

def indentTo (column : Nat) (c : Cursor) : Cursor :=
  c.skip ((c.rest.take (column - c.column)).takeWhile (· = ' ')).length

/-- Empty lines, and the place behind the indentation of the line after them. -/
def emptyLines (indent : Nat) : (fuel : Nat) → Cursor → List Char × Cursor
  | 0,c => ([],c)
  | fuel + 1,c =>
    let c := indentTo indent c
    match c.lineEnd with
    | some (x,c) =>
      let (xs,c) := emptyLines indent fuel c
      (x :: xs,c)
    | none => ([],c)

/-- Empty lines before the first line, and the widest indentation among them and it. -/
def opening : (fuel : Nat) → (widest : Nat) → Cursor → List Char × Nat × Cursor
  | 0,widest,c => ([],widest,c)
  | fuel + 1,widest,c => match c.lineEnd with
    | some (x,c) =>
      let (xs,widest,c) := opening fuel widest c
      (x :: xs,widest,c)
    | none =>
      if c.peek = some ' ' then opening fuel (max widest c.next.column) c.next
      else ([],widest,c)

/-- The lines of a block: content, the end of its last line, and the empty lines behind. -/
def linesFrom (folds : Bool) (indent : Nat) :
    (fuel : Nat) → (before : List Char) → Cursor → List Char × List Char × List Char × Cursor
  | 0,before,c => ([],[],before,c)
  | fuel + 1,before,c =>
    if c.column = indent && c.peek.isSome then
      let starts := !c.peek.any isGap
      let (line,c) := c.span fun x => !isBreak x
      let (lineEnd,c) := match c.lineEnd with
        | some (x,c) => ([x],c)
        | none => ([],c)
      let (empty,c) := emptyLines indent (c.rest.length + 1) c
      if c.column = indent && c.peek.isSome then
        let between :=
          if folds && lineEnd = ['\n'] && starts && !c.peek.any isGap then
            if empty.isEmpty then [' '] else []
          else lineEnd
        let (more,tail) := linesFrom folds indent fuel empty c
        (before ++ line ++ between ++ more,tail)
      else (before ++ line,lineEnd,empty,c)
    else ([],[],before,c)

def content (folds : Bool) (outer : Int) (c : Cursor) : Except Fault (List Char × Cursor) := do
  let (chomping,increment,c) ← header c.next
  let c ← c.finishLine
  let least := (max (outer + 1) 1).toNat
  let (before,indent,c) := match increment with
    | some n =>
      let (before,c) := emptyLines (least + n - 1) (c.rest.length + 1) c
      (before,least + n - 1,c)
    | none =>
      let (before,widest,c) := opening (c.rest.length + 1) 0 c
      (before,max least widest,c)
  let (text,lineEnd,empty,c) := linesFrom folds indent (c.rest.length + 1) before c
  let tail := match chomping with
    | .strip => []
    | .clip => lineEnd
    | .keep => lineEnd ++ empty
  .ok (text ++ tail,c)

end Lines

namespace Plain

def ends (inFlow : Bool) (c : Cursor) (x : Char) : Bool :=
  isBlank x ||
    (x = ':' && (c.blankAt 1 || (inFlow && (c.ahead 1).any fun y => ",[]\x7b\x7d".toList.contains y))) ||
    (inFlow && ",?[]\x7b\x7d".toList.contains x)

def pieceFrom (inFlow : Bool) : (fuel : Nat) → Cursor → List Char × Cursor
  | 0,c => ([],c)
  | fuel + 1,c => match c.peek with
    | none => ([],c)
    | some x =>
      if ends inFlow c x then ([],c)
      else
        let (xs,c) := pieceFrom inFlow fuel c.next
        (x :: xs,c)

def lineEnds : (fuel : Nat) → Cursor → Option (List Char) × Cursor
  | 0,c => (some [],c)
  | fuel + 1,c => match c.lineEnd with
    | some (x,c) =>
      if c.markerAhead then (none,c)
      else
        let (xs,c) := lineEnds fuel c
        (xs.map (x :: ·),c)
    | none => if c.peek = some ' ' then lineEnds fuel c.next else (some [],c)

/-- The blanks behind a piece: what they stand for, if content may go on behind them, and whether
a line has ended. -/
def blanks (c : Cursor) : List Char × Bool × Cursor :=
  let (gap,c) := c.span (· = ' ')
  match c.lineEnd with
  | some (x,c) =>
    if c.markerAhead then ([],true,c)
    else match lineEnds (c.rest.length + 1) c with
      | (some more,c) => (joined x more,true,c)
      | (none,c) => ([],true,c)
  | none => (gap,false,c)

/-- Plain content piece by piece; `before` stands between the last piece and the next. The flag
tells whether a line has ended behind it. -/
def contentFrom (inFlow : Bool) (indent : Int) :
    (fuel : Nat) → (before : List Char) → (lineEnded : Bool) → Cursor → List Char × Bool × Cursor
  | 0,_,lineEnded,c => ([],lineEnded,c)
  | fuel + 1,before,lineEnded,c =>
    if c.peek = some '#' then ([],lineEnded,c)
    else match pieceFrom inFlow (c.rest.length + 1) c with
      | ([],_) => ([],lineEnded,c)
      | (piece,c) =>
        let (gap,lineEnded,c) := blanks c
        if gap.isEmpty || c.peek = some '#' || (!inFlow && (c.column : Int) < indent) then
          (before ++ piece,lineEnded,c)
        else
          let (more,lineEnded,c) := contentFrom inFlow indent fuel gap lineEnded c
          (before ++ piece ++ more,lineEnded,c)

def content (inFlow : Bool) (outer : Int) (c : Cursor) : List Char × Bool × Cursor :=
  contentFrom inFlow (outer + 1) (c.rest.length + 1) [] false c

end Plain

end RoomTransfer.Yaml
