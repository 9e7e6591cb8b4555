import RoomTransfer.Number.Rounding
import RoomTransfer.Yaml.Content
import RoomTransfer.Yaml.Source

/-! The tokens of a document, taken one at a time. Indentation becomes tokens of its own, and a key
that turns out to be one only at its colon gets its token afterwards, at the place where it
started: so a token is handed out only when that cannot happen to it any more. -/
namespace RoomTransfer.Yaml

inductive Directive where
  | version (major : Nat)
  | tag (handle spelled : String)
  | other

inductive Token where
  | directive (directive : Directive)
  | documentStart
  | documentEnd
  | streamEnd
  | blockSequence
  | blockMapping
  | blockEnd
  | flowSequence
  | flowSequenceEnd
  | flowMapping
  | flowMappingEnd
  | blockEntry
  | flowEntry
  | key
  | value
  | reference (name : String)
  | anchor (name : String)
  /-- The handle is missing where the tag is spelled out in full. -/
  | tag (handle : Option String) (suffix : String)
  | scalar (text : List Char) (plain : Bool)

/-- A place where a key may have started: the number of its first token, and whether it has to be
a key because nothing else may stand there. -/
structure PossibleKey where
  token : Nat
  required : Bool
  start : Cursor

/-- The state of tokenizing. `keys` holds a possible key for each level of brackets, the innermost
first. -/
structure Scan where
  cursor : Cursor
  /-- How many characters the text has; no loop takes many more steps. -/
  length : Nat
  obstacle : Option Fault
  /-- Tokens that have been read but not handed out. -/
  waiting : List Token := []
  /-- How many tokens have been handed out. -/
  taken : Nat := 0
  /-- Whether the end has been read. -/
  finished : Bool := false
  indent : Int := -1
  indents : List Int := []
  /-- Whether a key may start here. -/
  keyAllowed : Bool := true
  key : Option PossibleKey := none
  keys : List (Option PossibleKey) := []

namespace Scan

def start (source : Source) : Scan :=
  let first : Cursor := ⟨source.text,0,0,0⟩
  { cursor := if first.peek = some byteOrderMark then first.next else first
    length := source.text.length
    obstacle := source.obstacle }

def inFlow (s : Scan) : Bool := !s.keys.isEmpty

def count (s : Scan) : Nat := s.taken + s.waiting.length

def push (s : Scan) (t : Token) : Scan := { s with waiting := s.waiting ++ [t] }

/-- Puts a token in front of the one with a number, which must still be waiting. -/
def putBefore (s : Scan) (number : Nat) (t : Token) : Scan :=
  { s with waiting := s.waiting.insertIdx (number - s.taken) t }

def goTo (s : Scan) (cursor : Cursor) : Scan := { s with cursor }

def take (s : Scan) (n : Nat) (t : Token) : Scan := (s.push t).goTo (s.cursor.skip n)

/-- Skips blanks, comments and line ends; outside of brackets a key may start on a new line. -/
def skipBlanks : (fuel : Nat) → Scan → Scan
  | 0,s => s
  | fuel + 1,s =>
    let c := s.cursor.skipWhile (· = ' ')
    let c := if c.peek = some '#' then c.skipWhile fun x => !isBreak x else c
    match c.lineEnd with
    | some (_,c) =>
      skipBlanks fuel { s with cursor := c, keyAllowed := s.keyAllowed || !s.inFlow }
    | none => s.goTo c

def longestKey : Nat := 1024

/-- Drops a possible key that the place has moved away from. -/
def stale (c : Cursor) : Option PossibleKey → Except Fault (Option PossibleKey)
  | none => .ok none
  | some key =>
    if key.start.line ≠ c.line || longestKey < c.index - key.start.index then
      if key.required then .error .malformed else .ok none
    else .ok (some key)

def dropStale (s : Scan) : Except Fault Scan := do
  let key ← stale s.cursor s.key
  let keys ← s.keys.mapM (stale s.cursor)
  return { s with key, keys }

def dropKey (s : Scan) : Except Fault Scan :=
  if s.key.any (·.required) then .error .malformed else .ok { s with key := none }

def noteKey (s : Scan) : Except Fault Scan :=
  if s.keyAllowed then do
    let required := !s.inFlow && s.indent = (s.cursor.column : Int)
    let s ← s.dropKey
    return { s with key := some ⟨s.count,required,s.cursor⟩ }
  else .ok s

/-- Closes the blocks that are indented further than `column`. -/
def unwindFrom (column : Int) : (levels : List Int) → Scan → Scan
  | [],s => s
  | outer :: rest,s =>
    if column < s.indent then
      unwindFrom column rest { (s.push .blockEnd) with indent := outer, indents := rest }
    else s

def unwind (s : Scan) (column : Int) : Scan :=
  if s.inFlow then s else unwindFrom column s.indents s

/-- Opens a block at a column that is indented further; its token comes in before another. -/
def openBlock (s : Scan) (column : Nat) (number : Nat) (t : Token) : Scan :=
  if s.indent < (column : Int) then
    { s.putBefore number t with indent := column, indents := s.indent :: s.indents }
  else s

/-- Opens a block here, outside of brackets and only where a key may start. -/
def openHere (s : Scan) (t : Token) : Except Fault Scan :=
  if s.inFlow then .ok s
  else if s.keyAllowed then .ok (s.openBlock s.cursor.column s.count t)
  else .error .malformed

def finish (s : Scan) : Except Fault Scan := do
  let s ← (s.unwind (-1)).dropKey
  return { s.push .streamEnd with finished := true, key := none, keys := [] }

/-- A token at the start of a line that closes all blocks. -/
def outermost (s : Scan) (n : Nat) (t : Token) : Except Fault Scan := do
  let s ← (s.unwind (-1)).dropKey
  return { (s.take n t) with keyAllowed := false }

def openFlow (s : Scan) (t : Token) : Except Fault Scan := do
  let s ← s.noteKey
  return { (s.take 1 t) with keyAllowed := true, key := none, keys := s.key :: s.keys }

def closeFlow (s : Scan) (t : Token) : Except Fault Scan := do
  let s ← s.dropKey
  match s.keys with
  | [] => .error .malformed
  | key :: keys => return { (s.take 1 t) with keyAllowed := false, key, keys }

def flowEntry (s : Scan) : Except Fault Scan := do
  let s ← s.dropKey
  return { (s.take 1 .flowEntry) with keyAllowed := true }

def blockEntry (s : Scan) : Except Fault Scan := do
  let s ← (← s.openHere .blockSequence).dropKey
  return { (s.take 1 .blockEntry) with keyAllowed := true }

def explicitKey (s : Scan) : Except Fault Scan := do
  let s ← (← s.openHere .blockMapping).dropKey
  return { (s.take 1 .key) with keyAllowed := !s.inFlow }

/-- A colon makes a key of what started as one, or stands behind a key with an indicator. -/
def value (s : Scan) : Except Fault Scan :=
  match s.key with
  | some key =>
    let s := { s.putBefore key.token .key with key := none, keyAllowed := false }
    let s := if s.inFlow then s else s.openBlock key.start.column key.token .blockMapping
    .ok (s.take 1 .value)
  | none => do
    let s ← (← s.openHere .blockMapping).dropKey
    return { (s.take 1 .value) with keyAllowed := !s.inFlow }

/-- Notes a possible key and takes a token that leaves no room for another. -/
def keyLike (s : Scan) (read : Cursor → Except Fault (Token × Cursor)) : Except Fault Scan := do
  let s ← s.noteKey
  let (t,c) ← read s.cursor
  return { (s.push t) with keyAllowed := false, cursor := c }

def name (c : Cursor) : Except Fault (String × Cursor) :=
  let (cs,c) := c.next.span isNameChar
  if cs.isEmpty then .error .malformed
  else if c.peek.all fun x => isBlank x || "?:,]\x7d%@\x60".toList.contains x then
    .ok (String.ofList cs,c)
  else .error .malformed

def handle (c : Cursor) : Except Fault (String × Cursor) :=
  if c.peek = some '!' then
    if c.ahead 1 = some ' ' then .ok ("!",c.next)
    else
      let (cs,behind) := c.next.span isNameChar
      if behind.peek = some '!' then .ok ("!" ++ String.ofList cs ++ "!",behind.next)
      else .error .malformed
  else .error .malformed

def isAddressChar (c : Char) : Bool :=
  c.isAlphanum || "-;/?:@&=+$,_.!~*'()[]".toList.contains c

def addressBytes : (fuel : Nat) → Cursor → Except Fault (List UInt8 × Cursor)
  | 0,c => .ok ([],c)
  | fuel + 1,c =>
    if c.peek = some '%' then
      match (c.ahead 1).bind Text.hexValue?,(c.ahead 2).bind Text.hexValue? with
      | some a,some b => do
        let (bytes,c) ← addressBytes fuel (c.skip 3)
        .ok (UInt8.ofNat (16 * a + b) :: bytes,c)
      | _,_ => .error .malformed
    else .ok ([],c)

def addressFrom : (fuel : Nat) → Cursor → Except Fault (List Char × Cursor)
  | 0,c => .ok ([],c)
  | fuel + 1,c => match c.peek with
    | some '%' => do
      let (bytes,c) ← addressBytes (c.rest.length + 1) c
      match Text.Utf8.decode? bytes with
      | some text => do
        let (more,c) ← addressFrom fuel c
        .ok (text.toList ++ more,c)
      | none => .error .malformed
    | some x =>
      if isAddressChar x then do
        let (more,c) ← addressFrom fuel c.next
        .ok (x :: more,c)
      else .ok ([],c)
    | none => .ok ([],c)

/-- The address of a tag; it must not be empty. -/
def address (c : Cursor) : Except Fault (String × Cursor) := do
  let (cs,behind) ← addressFrom (c.rest.length + 1) c
  if behind.index = c.index then .error .malformed else .ok (String.ofList cs,behind)

/-- Whether a tag of several marks starts here: a second mark stands before the next blank. -/
def hasHandle (c : Cursor) : Bool :=
  ((c.next.span fun x => !(x = ' ' || isBreak x)).1).contains '!'

def tag (c : Cursor) : Except Fault (Token × Cursor) := do
  let (token,c) ←
    if c.ahead 1 = some '<' then do
      let (suffix,c) ← address (c.skip 2)
      if c.peek = some '>' then pure (.tag none suffix,c.next) else .error .malformed
    else if c.blankAt 1 then pure (.tag none "!",c.next)
    else do
      let (handle,c) ← if hasHandle c then handle c else pure ("!",c.next)
      let (suffix,c) ← address c
      pure (.tag (some handle) suffix,c)
  if c.peek.all fun x => x = ' ' || isBreak x then .ok (token,c) else .error .malformed

def number (c : Cursor) : Except Fault (Nat × Cursor) :=
  match c.span Char.isDigit with
  | ([],_) => .error .malformed
  | (ds,c) =>
    if Number.mostDigits < ds.length then
      .error (.refused (.badValue (Number.readTooLong ds.length)))
    else .ok (ds.foldl (fun n d => 10 * n + (d.toNat - 48)) 0,c)

/-- Whether a line end or a blank that is no tabulator lies ahead, or nothing. -/
def lineBlankAhead (c : Cursor) : Bool := c.peek.all fun x => x = ' ' || isBreak x

def versionDirective (c : Cursor) : Except Fault (Directive × Cursor) := do
  let (major,c) ← number (c.skipWhile (· = ' '))
  if c.peek = some '.' then do
    let (_,c) ← number c.next
    if lineBlankAhead c then .ok (.version major,c) else .error .malformed
  else .error .malformed

def tagDirective (c : Cursor) : Except Fault (Directive × Cursor) := do
  let (handle,c) ← handle (c.skipWhile (· = ' '))
  if c.peek = some ' ' then do
    let (spelled,c) ← address (c.skipWhile (· = ' '))
    if lineBlankAhead c then .ok (.tag handle spelled,c) else .error .malformed
  else .error .malformed

def directive (c : Cursor) : Except Fault (Token × Cursor) := do
  let (cs,c) := c.next.span isNameChar
  if cs.isEmpty || !lineBlankAhead c then .error .malformed
  else
    let (directive,c) ←
      if cs = "YAML".toList then versionDirective c
      else if cs = "TAG".toList then tagDirective c
      else pure (.other,c.skipWhile fun x => !isBreak x)
    .ok (.directive directive,← c.finishLine)

def directiveLine (s : Scan) : Except Fault Scan := do
  let s ← (s.unwind (-1)).dropKey
  let (t,c) ← directive s.cursor
  return { (s.push t) with keyAllowed := false, cursor := c }

def block (s : Scan) (folds : Bool) : Except Fault Scan := do
  let s ← s.dropKey
  let (text,c) ← Lines.content folds s.indent s.cursor
  return { (s.push (.scalar text false)) with keyAllowed := true, cursor := c }

def quoted (c : Cursor) : Except Fault (Token × Cursor) := do
  let (text,c) ← Quoted.content c
  .ok (.scalar text false,c)

def reference (c : Cursor) : Except Fault (Token × Cursor) := do
  let (name,c) ← name c
  .ok (.reference name,c)

def anchor (c : Cursor) : Except Fault (Token × Cursor) := do
  let (name,c) ← name c
  .ok (.anchor name,c)

def plain (s : Scan) : Except Fault Scan := do
  let s ← s.noteKey
  let (text,lineEnded,c) := Plain.content s.inFlow s.indent s.cursor
  return { (s.push (.scalar text true)) with keyAllowed := lineEnded, cursor := c }

def startsPlain (s : Scan) (x : Char) : Bool :=
  if isBlank x || ",[]\x7b\x7d#&*!|>'\"%@\x60".toList.contains x then false
  else if x = '-' then !s.cursor.blankAt 1
  else if x = '?' || x = ':' then !s.inFlow && !s.cursor.blankAt 1
  else true

def step (s : Scan) (x : Char) : Except Fault Scan :=
  let c := s.cursor
  let lineStart := c.column = 0
  if x = '%' && lineStart then s.directiveLine
  else if x = '-' && lineStart && c.markerAhead then s.outermost 3 .documentStart
  else if x = '.' && lineStart && c.markerAhead then s.outermost 3 .documentEnd
  else if x = '[' then s.openFlow .flowSequence
  else if x = '\x7b' then s.openFlow .flowMapping
  else if x = ']' then s.closeFlow .flowSequenceEnd
  else if x = '\x7d' then s.closeFlow .flowMappingEnd
  else if x = ',' then s.flowEntry
  else if x = '-' && c.blankAt 1 then s.blockEntry
  else if x = '?' && (s.inFlow || c.blankAt 1) then s.explicitKey
  else if x = ':' && (s.inFlow || c.blankAt 1) then s.value
  else if x = '*' then s.keyLike reference
  else if x = '&' then s.keyLike anchor
  else if x = '!' then s.keyLike tag
  else if x = '|' && !s.inFlow then s.block false
  else if x = '>' && !s.inFlow then s.block true
  else if x = '\'' || x = '"' then s.keyLike quoted
  else if s.startsPlain x then s.plain
  else .error .malformed

def unhindered (obstacle : Option Fault) : Except Fault Scan → Except Fault Scan
  | .ok s => match obstacle with
    | some fault => if s.cursor.rest.isEmpty then .error fault else .ok s
    | none => .ok s
  | .error .unfinished => .error (obstacle.getD .unfinished)
  | .error fault => .error fault

/-- Reads one more token, or closes everything where the text ends. A token takes at least one
character. -/
def advance (s : Scan) : Except Fault Scan := do
  let s ← (← unhindered s.obstacle (.ok (skipBlanks (s.length + 1) s))).dropStale
  let s := s.unwind s.cursor.column
  match s.cursor.peek with
  | none => s.finish
  | some x => unhindered s.obstacle (s.step x)

/-- The number of the token at which the earliest possible key starts. -/
def earliestKey (s : Scan) : Option Nat :=
  ((s.key :: s.keys).filterMap fun key => key.map (·.token)).min?

/-- Reads on until the next token is there and cannot be the start of a key any more. -/
def settle : (fuel : Nat) → Scan → Except Fault Scan
  | 0,_ => .error .malformed
  | fuel + 1,s =>
    if s.finished then .ok s
    else if s.waiting.isEmpty then do settle fuel (← s.advance)
    else do
      let s ← s.dropStale
      if s.earliestKey = some s.taken then settle fuel (← s.advance) else .ok s

def peek (s : Scan) : Except Fault (Option Token × Scan) := do
  let s ← settle (s.length + 3) s
  return (s.waiting.head?,s)

def drop (s : Scan) : Scan := { s with waiting := s.waiting.drop 1, taken := s.taken + 1 }

end Scan

end RoomTransfer.Yaml
