import RoomTransfer.Number.Reading
import RoomTransfer.Text.Lowered
import RoomTransfer.Value.Shown
import RoomTransfer.Yaml.Node

/-! The values of scalars. A plain look promises a value, but not every text with that look has
one, and a tag may ask for a value that its text does not spell. -/
namespace RoomTransfer.Yaml

namespace Made

def refuse {α : Type} (cause : Failure) : Except Fault α := .error (.refused cause)

def bad {α : Type} (message : String) : Except Fault α := refuse (.badValue message)

def withoutUnderscores (cs : List Char) : List Char := cs.filter (· ≠ '_')

def signed (cs : List Char) : Except Fault (Bool × List Char) :=
  match cs with
  | [] => refuse (.indexOutOfRange "str")
  | '-' :: rest => .ok (true,rest)
  | '+' :: rest => .ok (false,rest)
  | cs => .ok (false,cs)

def digitValue? (base : Nat) (c : Char) : Option Nat :=
  let value := (Text.digitValue? c).or (Text.hexValue? c)
  value.bind fun n => if n < base then some n else none

def baseLetter? (base : Nat) : Option Char :=
  match base with
  | 2 => some 'b'
  | 8 => some 'o'
  | 16 => some 'x'
  | _ => none

def withoutMark (base : Nat) (cs : List Char) : List Char :=
  match cs with
  | '0' :: letter :: rest => if baseLetter? base = some letter.toLower then rest else cs
  | cs => cs

def shownLength : Nat := 200

def notInteger (base : Nat) (cs : List Char) : String :=
  "invalid literal for int() with base " ++ String.ofList (Number.digits base) ++ ": " ++
    String.ofList ((Text.quoted (String.ofList cs)).toList.take shownLength)

/-- The integer that a text spells in a base, blanks around it and a sign included. Of decimal
digits there must not be too many, whatever stands behind them. -/
def integer (base : Nat) (cs : List Char) : Except Fault Int :=
  let (negative,unsigned) := match Text.trimBlanks cs with
    | '-' :: rest => (true,rest)
    | '+' :: rest => (false,rest)
    | rest => (false,rest)
  let ds := withoutMark base unsigned
  let count := (ds.takeWhile fun c => (digitValue? base c).isSome).length
  if base = 10 ∧ Number.mostDigits < count then bad (Number.readTooLong count)
  else if ds.isEmpty then bad (notInteger base cs)
  else match ds.foldlM (fun n c => (digitValue? base c).map (base * n + ·)) 0 with
    | some n => .ok (if negative then -(n : Int) else n)
    | none => bad (notInteger base cs)

def colonParts (cs : List Char) : List (List Char) :=
  cs.foldr (fun c parts => match parts with
    | part :: rest => if c = ':' then [] :: part :: rest else (c :: part) :: rest
    | [] => [[c]]) [[]]

/-- An integer in base two, eight, ten, sixteen or sixty, told apart by how it starts. -/
def int (cs : List Char) : Except Fault Value := do
  let (negative,cs) ← signed (withoutUnderscores cs)
  let magnitude ← match cs with
    | ['0'] => pure 0
    | '0' :: 'b' :: rest => integer 2 rest
    | '0' :: 'x' :: rest => integer 16 rest
    | '0' :: _ => integer 8 cs
    | [] => refuse (.indexOutOfRange "str")
    | _ =>
      if cs.contains ':' then do
        let parts ← (colonParts cs).mapM (integer 10)
        pure (parts.foldl (fun n part => 60 * n + part) 0)
      else integer 10 cs
  return .int (if negative then -magnitude else magnitude)

def double (cs : List Char) : Except Fault Number.Binary64 :=
  let s := String.ofList cs
  match Number.Binary64.ofText? s with
  | some x => .ok x
  | none => bad ("could not convert string to float: " ++ Text.quoted s)

/-- The number with the given digits of base sixty, the last one first. Each is worth `base` times
more than the one before, as far as there is a number for that. -/
def sixties (base : Nat) (sum : Number.Binary64) : List Number.Binary64 →
    Except Fault Number.Binary64
  | [] => .ok sum
  | x :: rest =>
    let worth := Number.Binary64.ofInt base
    if worth.isFinite then
      sixties (60 * base) (sum.add (x.mulNat (worth.units / Number.Binary64.scale))) rest
    else refuse (.numberTooLarge "int too large to convert to float")

def bareFloat (cs : List Char) : List Char := Text.lowered (withoutUnderscores cs)

def nanText : List Char := ".nan".toList

def isNaNText (cs : List Char) : Bool :=
  match signed (bareFloat cs) with
  | .ok (_,cs) => cs = nanText
  | .error _ => false

def float (cs : List Char) : Except Fault Value := do
  let (negative,cs) ← signed (bareFloat cs)
  let withSign (x : Number.Binary64) := Value.float (if negative then x.neg else x)
  if cs = ".inf".toList then return withSign (.infinity false)
  else if cs = nanText then return .float .nan
  else if cs.contains ':' then do
    let parts ← (colonParts cs).mapM double
    return withSign (← sixties 1 .zero parts.reverse)
  else return withSign (← double cs)

def truths : List (String × Bool) :=
  [("yes",true),("no",false),("true",true),("false",false),("on",true),("off",false)]

def bool (cs : List Char) : Except Fault Value :=
  let word := String.ofList (Text.lowered cs)
  match List.lookup word truths with
  | some b => .ok (.bool b)
  | none => refuse (.missingKey word)

structure Written where
  year : List Char
  month : List Char
  day : List Char
  time : Option (List Char × List Char × List Char) := none
  fraction : List Char := []
  zone : Option (Bool × List Char × List Char) := none
  universal : Bool := false

def number (cs : List Char) : Nat := cs.foldl (fun n c => 10 * n + (c.toNat - 48)) 0

def digits (least most : Nat) (cs : List Char) : Option (List Char × List Char) :=
  let ds := (cs.takeWhile Char.isDigit).take most
  if ds.length < least then none else some (ds,cs.drop ds.length)

def expect (c : Char) : List Char → Option (List Char)
  | x :: rest => if x = c then some rest else none
  | [] => none

/-- The zone at the end of a moment: none, the mark of universal time, or hours and minutes. -/
def zone (w : Written) (cs : List Char) : Option Written :=
  match cs.dropWhile isGap with
  | ['Z'] => some { w with universal := true }
  | [] => if cs.isEmpty then some w else none
  | sign :: rest =>
    if sign = '+' || sign = '-' then do
      let (hour,rest) ← digits 1 2 rest
      let minute ← match rest with
        | [] => some []
        | ':' :: rest => match digits 2 2 rest with
          | some (minute,[]) => some minute
          | _ => none
        | _ => none
      return { w with zone := some (sign = '-',hour,minute) }
    else none

def timeOfDay (w : Written) (cs : List Char) : Option Written := do
  let rest ← match cs with
    | 'T' :: rest | 't' :: rest => some rest
    | c :: _ => if isGap c then some (cs.dropWhile isGap) else none
    | [] => none
  let (hour,rest) ← digits 1 2 rest
  let (minute,rest) ← digits 2 2 (← expect ':' rest)
  let (second,rest) ← digits 2 2 (← expect ':' rest)
  let (fraction,rest) := match rest with
    | '.' :: rest => (rest.takeWhile Char.isDigit,rest.dropWhile Char.isDigit)
    | rest => ([],rest)
  zone { w with time := some (hour,minute,second), fraction } rest

def written? (cs : List Char) : Option Written := do
  let (year,rest) ← digits 4 4 cs
  let (month,rest) ← digits 1 2 (← expect '-' rest)
  let (day,rest) ← digits 1 2 (← expect '-' rest)
  let w : Written := { year, month, day }
  if rest.isEmpty then return w else timeOfDay w rest

/-- The microseconds of a fraction; digits beyond the sixth are dropped. -/
def micros (fraction : List Char) : Nat :=
  let ds := fraction.take 6
  number ds * Nat.pow 10 (6 - ds.length)

def shownDuration (seconds : Int) : String :=
  let days := Int.fdiv seconds 86400
  let rest := Int.fmod seconds 86400
  let dayPart := if days = 0 then [] else ["days=" ++ String.ofList (Number.integerText days)]
  let restPart := if rest = 0 then [] else ["seconds=" ++ String.ofList (Number.integerText rest)]
  "datetime.timedelta(" ++ ", ".intercalate (dayPart ++ restPart) ++ ")"

/-- Clocks differ by less than a day. -/
def offset (w : Written) : Except Fault (Option Int) :=
  match w.zone with
  | none => .ok (if w.universal then some 0 else none)
  | some (negative,hour,minute) =>
    let magnitude : Int := number hour * 3600 + number minute * 60
    let seconds := if negative then -magnitude else magnitude
    if magnitude < 86400 then .ok (some seconds)
    else bad ("offset must be a timedelta strictly between -timedelta(hours=24) and " ++
      "timedelta(hours=24), not " ++ shownDuration seconds ++ ".")

def date (w : Written) : Except Fault Date :=
  match Date.of (number w.year) (number w.month) (number w.day) with
  | .ok date => .ok date
  | .error cause => refuse (.calendar cause)

def withoutLineEnd (cs : List Char) : List Char :=
  if cs.getLast? = some '\n' then cs.dropLast else cs

/-- A moment, or a date where no time of day is written. -/
def timestamp (cs : List Char) : Except Fault Value :=
  match written? (withoutLineEnd cs) with
  | none => refuse (.missingAttribute "NoneType" "groupdict")
  | some w => match w.time with
    | none => do return .date (← date w)
    | some (hour,minute,second) => do
      let offset ← offset w
      let date ← date w
      if 23 < number hour then bad "hour must be in 0..23"
      else if 59 < number minute then bad "minute must be in 0..59"
      else if 59 < number second then bad "second must be in 0..59"
      else
        let moment := Timestamp.ofParts date (number hour) (number minute) (number second)
          (micros w.fraction) offset
        match moment with
        | some t => .ok (.stamp t)
        | none => .error .malformed

def sixBits? (c : Char) : Option Nat :=
  if 'A' ≤ c ∧ c ≤ 'Z' then some (c.toNat - 65)
  else if 'a' ≤ c ∧ c ≤ 'z' then some (c.toNat - 71)
  else if c.isDigit then some (c.toNat + 4)
  else if c = '+' then some 62
  else if c = '/' then some 63
  else none

/-- The bytes of groups of four characters; other characters are skipped. `count` tells how many
of a group have been read, `bits` what they hold, `pads` how many fillers stand behind them. A
group has to be complete, be it with fillers. -/
def bytesFrom (count bits pads : Nat) : List Char → Option (List UInt8)
  | [] => if count = 0 then some [] else none
  | c :: rest =>
    if c = '=' then
      if 2 ≤ count ∧ 4 ≤ count + pads + 1 then some [] else bytesFrom count bits (pads + 1) rest
    else match sixBits? c with
      | none => bytesFrom count bits pads rest
      | some six => match count with
        | 0 => bytesFrom 1 six 0 rest
        | 1 => (bytesFrom 2 (six % 16) 0 rest).map (UInt8.ofNat (bits * 4 + six / 16) :: ·)
        | 2 => (bytesFrom 3 (six % 4) 0 rest).map (UInt8.ofNat (bits * 16 + six / 4) :: ·)
        | _ => (bytesFrom 0 0 0 rest).map (UInt8.ofNat (bits * 64 + six) :: ·)

def bytes (cs : List Char) : Except Fault Value :=
  if cs.all fun c => c.toNat < 0x80 then
    match bytesFrom 0 0 0 cs with
    | some bs => .ok (.bytes bs)
    | none => .error .malformed
  else .error .malformed

def ofText (tag : Tag) (cs : List Char) : Except Fault Value :=
  match tag with
  | .kind .text => .ok (.text (String.ofList cs))
  | .kind .null => .ok .null
  | .kind .bool => bool cs
  | .kind .int => int cs
  | .kind .float => float cs
  | .kind .timestamp => timestamp cs
  | .bytes => bytes cs
  | _ => .error .malformed

end Made

end RoomTransfer.Yaml
