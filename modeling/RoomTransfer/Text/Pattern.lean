/-! Regular patterns over characters. A pattern is matched against a whole text, one character
after another: after each, the pattern for the remainder takes its place. -/
namespace RoomTransfer.Text

inductive Pattern where
  /-- Matches nothing at all. -/
  | never
  /-- Matches the empty text. -/
  | empty
  | one (p : Char → Bool)
  | both (a b : Pattern)
  | either (a b : Pattern)
  | many (a : Pattern)

namespace Pattern

def andThen : Pattern → Pattern → Pattern
  | .never,_ => .never
  | _,.never => .never
  | .empty,b => b
  | a,b => .both a b

def orElse : Pattern → Pattern → Pattern
  | .never,b => b
  | a,.never => a
  | a,b => .either a b

/-- Whether the empty text matches. -/
def nullable : Pattern → Bool
  | .never => false
  | .empty => true
  | .one _ => false
  | .both a b => a.nullable && b.nullable
  | .either a b => a.nullable || b.nullable
  | .many _ => true

/-- What has to match after the character `c`. -/
def after (c : Char) : Pattern → Pattern
  | .never => .never
  | .empty => .never
  | .one p => if p c then .empty else .never
  | .both a b =>
    if a.nullable then ((a.after c).andThen b).orElse (b.after c) else (a.after c).andThen b
  | .either a b => (a.after c).orElse (b.after c)
  | .many a => (a.after c).andThen (.many a)

/-- Whether a whole text matches. -/
def accepts (p : Pattern) : List Char → Bool
  | [] => p.nullable
  | c :: rest => (p.after c).accepts rest

def oneOf (s : String) : Pattern := .one fun c => s.toList.contains c

def exactly (s : String) : Pattern :=
  s.toList.foldr (fun c p => .both (.one (· == c)) p) .empty

def anyOf (ps : List Pattern) : Pattern := ps.foldr .either .never

def inOrder (ps : List Pattern) : Pattern := ps.foldr .both .empty

def optionally (p : Pattern) : Pattern := .either p .empty

def atLeastOnce (p : Pattern) : Pattern := .both p (.many p)

def digit : Pattern := oneOf "0123456789"

def words (ws : List String) : Pattern := anyOf (ws.map exactly)

end Pattern

end RoomTransfer.Text
