/-! Likeness of texts: how many of their characters lie in common runs, the longest run taken first
and the same on both sides of it. Texts are alike when these are at least three in five. -/
namespace RoomTransfer.Text

def commonStart : List Char → List Char → Nat
  | a :: as,b :: bs => if a = b then commonStart as bs + 1 else 0
  | _,_ => 0

/-- A run that two texts have in common: where it starts in each, and its length. -/
structure CommonRun where
  left : Nat := 0
  right : Nat := 0
  length : Nat := 0

/-- The longest of `best` and the runs that start at `left` in the first text, from `right` on in
the second; of equals the earlier. -/
def longestFrom (left : Nat) (as : List Char) : (right : Nat) → List Char → CommonRun → CommonRun
  | _,[],best => best
  | right,b :: bs,best =>
    let length := commonStart as (b :: bs)
    longestFrom left as (right + 1) bs (if best.length < length then ⟨left,right,length⟩ else best)

def longestRun (bs : List Char) : (left : Nat) → List Char → CommonRun → CommonRun
  | _,[],best => best
  | left,a :: as,best => longestRun bs (left + 1) as (longestFrom left (a :: as) 0 bs best)

/-- The characters in common runs, at most `fuel` runs deep. -/
def commonFrom : (fuel : Nat) → List Char → List Char → Nat
  | 0,_,_ => 0
  | fuel + 1,as,bs =>
    let run := longestRun bs 0 as {}
    if run.length = 0 then 0
    else run.length + commonFrom fuel (as.take run.left) (bs.take run.right) +
      commonFrom fuel (as.drop (run.left + run.length)) (bs.drop (run.right + run.length))

def common (as bs : List Char) : Nat := commonFrom as.length as bs

/-- A text with its likeness to another: `shared` of `total` characters. -/
structure Candidate where
  text : String
  shared : Nat
  total : Nat

namespace Candidate

def of (given text : String) : Candidate :=
  ⟨text,2 * common text.toList given.toList,text.length + given.length⟩

def isNear (c : Candidate) : Bool := 3 * c.total ≤ 5 * c.shared

/-- Whether the first is at least as like; of equals the later text comes first. -/
def closer (c d : Candidate) : Bool :=
  if c.shared * d.total = d.shared * c.total then d.text ≤ c.text
  else d.shared * c.total < c.shared * d.total

end Candidate

def maxSuggestions : Nat := 3

def suggestions (given : String) (known : List String) : List String :=
  let near := (known.map (Candidate.of given)).filter Candidate.isNear
  (((near.mergeSort Candidate.closer).take maxSuggestions).map Candidate.text).mergeSort (· ≤ ·)

end RoomTransfer.Text
