import RoomTransfer.Number.Binary64
import RoomTransfer.Text.DecimalDigit

/-! Reading double precision numbers from decimal text, rounded correctly. -/
namespace RoomTransfer.Number.Binary64

def leadingDigits (value count : Nat) : List Char → Nat × Nat × List Char
  | [] => (value,count,[])
  | c :: rest => match Text.digitValue? c with
    | some d => leadingDigits (value * 10 + d) (count + 1) rest
    | none => (value,count,c :: rest)

/-- The exponent to the end of the text; without one it is zero. -/
def exponent? : List Char → Option Int
  | [] => some 0
  | e :: rest =>
    if e = 'e' ∨ e = 'E' then
      let (negative,rest) := match rest with
        | '-' :: rest => (true,rest)
        | '+' :: rest => (false,rest)
        | rest => (false,rest)
      match leadingDigits 0 0 rest with
      | (_,0,_) => none
      | (n,_,[]) => some (if negative then -(n : Int) else n)
      | _ => none
    else none

/-- Exponents beyond these bounds change nothing any more. -/
def clampExponent (digitCount : Nat) (e : Int) : Int :=
  max (-(400 + digitCount : Int)) (min 400 e)

def magnitude? (negative : Bool) (cs : List Char) : Option Binary64 :=
  let word := cs.map Char.toLower
  if word = "inf".toList ∨ word = "infinity".toList then some (infinity negative)
  else if word = "nan".toList then some nan
  else
    let (whole,wholeCount,rest) := leadingDigits 0 0 cs
    let (value,count,rest) := match rest with
      | '.' :: rest => leadingDigits whole 0 rest
      | rest => (whole,0,rest)
    if wholeCount + count = 0 then none
    else (exponent? rest).map fun e =>
      ofDecimal negative value (clampExponent (wholeCount + count) (e - count))

def ofText? (s : String) : Option Binary64 :=
  match Text.trimBlanks s.toList with
  | '-' :: rest => magnitude? true rest
  | '+' :: rest => magnitude? false rest
  | cs => magnitude? false cs

end RoomTransfer.Number.Binary64
