import RoomTransfer.Failure

/-! A place in a document: what is left to read, and the line and column that it starts at. -/
namespace RoomTransfer.Yaml

/-- Why a document cannot be read: it is not well formed, or a scalar in it cannot be made. -/
inductive Fault where
  | malformed
  /-- The text ends where something between quotes has to go on. -/
  | unfinished
  | refused (cause : Failure)

def isBreak (c : Char) : Bool :=
  c = '\n' || c = '\r' || c = '\u0085' || c = '\u2028' || c = '\u2029'

def isGap (c : Char) : Bool := c = ' ' || c = '\t'

def isBlank (c : Char) : Bool := isGap c || isBreak c

/-- A mark at the start of a file that is no content and takes no column. -/
def byteOrderMark : Char := '\uFEFF'

def isAllowed (c : Char) : Bool :=
  let n := c.toNat
  n = 0x09 || n = 0x0A || n = 0x0D || (0x20 ≤ n && n ≤ 0x7E) || n = 0x85 ||
    (0xA0 ≤ n && n ≤ 0xD7FF) || (0xE000 ≤ n && n ≤ 0xFFFD) || 0x10000 ≤ n

def isNameChar (c : Char) : Bool := c.isAlphanum || c = '-' || c = '_'

structure Cursor where
  rest : List Char
  index : Nat := 0
  line : Nat := 0
  column : Nat := 0

namespace Cursor

def peek (c : Cursor) : Option Char := c.rest.head?

def next (c : Cursor) : Cursor :=
  match c.rest with
  | [] => c
  | x :: rest =>
    if isBreak x then ⟨rest,c.index + 1,c.line + 1,0⟩
    else ⟨rest,c.index + 1,c.line,if x = byteOrderMark then c.column else c.column + 1⟩

def skip : Nat → Cursor → Cursor
  | 0,c => c
  | n + 1,c => skip n c.next

/-- The characters of `cs`, which lie ahead, as far as they satisfy `p`, and the place behind. -/
def spanFrom (p : Char → Bool) : (cs : List Char) → Cursor → List Char × Cursor
  | [],c => ([],c)
  | x :: xs,c =>
    if p x then
      let (taken,c) := spanFrom p xs c.next
      (x :: taken,c)
    else ([],c)

def span (p : Char → Bool) (c : Cursor) : List Char × Cursor := c.spanFrom p c.rest

def skipWhile (p : Char → Bool) (c : Cursor) : Cursor := (c.span p).2

def ahead (c : Cursor) (n : Nat) : Option Char := c.rest[n]?

def blankAt (c : Cursor) (n : Nat) : Bool := (c.ahead n).all isBlank

/-- Whether three dashes or three dots stand ahead by themselves. -/
def markerAhead (c : Cursor) : Bool :=
  match c.rest with
  | '-' :: '-' :: '-' :: _ | '.' :: '.' :: '.' :: _ => c.blankAt 3
  | _ => false

/-- The line end ahead; only two kinds of it are kept apart from a plain one. -/
def lineEnd (c : Cursor) : Option (Char × Cursor) :=
  match c.peek with
  | some x =>
    if isBreak x then some (if x = '\u2028' || x = '\u2029' then x else '\n',c.next) else none
  | none => none

/-- The place behind the blanks and the comment that end a line, and behind its end. Nothing else
may stand there. -/
def finishLine (c : Cursor) : Except Fault Cursor :=
  let c := c.skipWhile (· = ' ')
  let c := if c.peek = some '#' then c.skipWhile fun x => !isBreak x else c
  match c.lineEnd,c.peek with
  | some (_,c),_ => .ok c
  | none,none => .ok c
  | none,some _ => .error .malformed

end Cursor

end RoomTransfer.Yaml
