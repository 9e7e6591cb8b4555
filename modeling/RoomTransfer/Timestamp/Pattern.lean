import RoomTransfer.Timestamp.Face
import RoomTransfer.Text.Lowered

/-! Moments written by a pattern of directives. A directive is a percent sign and a letter; between
them may stand flags, a width and a mark for another form. What is no directive stays as it is,
except that of one that ends in a percent sign only that sign is left. -/
namespace RoomTransfer.Timestamp.Pattern

def weekdays : List String :=
  ["Monday","Tuesday","Wednesday","Thursday","Friday","Saturday","Sunday"]

def months : List String :=
  ["January","February","March","April","May","June","July","August","September",
    "October","November","December"]

def weekdayName (f : Face) : List Char := (weekdays[f.date.weekday]?.getD "").toList

def monthName (f : Face) : List Char := (months[f.date.month - 1]?.getD "").toList

/-- Midday belongs to the second half of the day. -/
def half (f : Face) : List Char := (if f.hour < 12 then "AM" else "PM").toList

/-- What stands between a percent sign and its letter. -/
structure Manner where
  /-- How numbers are filled up: with blanks, not at all, or with zeros. -/
  fill : Option Char := none
  /-- Whether letters are written in upper case. -/
  raise : Bool := false
  /-- Whether names are written in the other case. -/
  swap : Bool := false
  width : Nat := 0
  /-- The mark for another form, which only some letters have. -/
  form : Option Char := none

/-- A part of the text behind so many characters that fill it up. -/
structure Piece where
  missing : Nat := 0
  fill : Char := ' '
  text : List Char

def Piece.size (p : Piece) : Nat := p.missing + p.text.length

def Piece.chars (p : Piece) : List Char := List.replicate p.missing p.fill ++ p.text

namespace Manner

def readFlags (m : Manner) : List Char → Manner × List Char
  | '^' :: rest => readFlags { m with raise := true } rest
  | '#' :: rest => readFlags { m with swap := true } rest
  | c :: rest =>
    if c = '_' || c = '-' || c = '0' then readFlags { m with fill := some c } rest
    else (m,c :: rest)
  | [] => (m,[])

def read (cs : List Char) : Manner × List Char :=
  let (m,cs) := readFlags {} cs
  let width := (cs.takeWhile Char.isDigit).foldl (fun n c => 10 * n + (c.toNat - 48)) 0
  let m := { m with width := min width 0x7FFFFFFF }
  match cs.dropWhile Char.isDigit with
  | 'E' :: rest => ({ m with form := some 'E' },rest)
  | 'O' :: rest => ({ m with form := some 'O' },rest)
  | rest => (m,rest)

/-- A text filled up to the width, but never cut. -/
def plain (m : Manner) (cs : List Char) : Piece :=
  ⟨m.width - cs.length,if m.fill = some '0' then '0' else ' ',cs⟩

def text (m : Manner) (cs : List Char) : Piece :=
  m.plain (if m.raise then cs.map Text.raisedForm else cs)

def name (m : Manner) (cs : List Char) : Piece := { m with raise := m.raise || m.swap }.text cs

def lowering (m : Manner) (cs : List Char) : Piece :=
  if m.swap then m.plain (cs.map Char.toLower) else m.text cs

def unknown (m : Manner) (read : List Char) (letter : Char) : Piece :=
  if letter = '%' then m.text ['%']
  else
    let raise := m.raise || (m.swap && (letter = 'b' || letter = 'h'))
    { m with raise }.text ('%' :: read ++ [letter])

/-- A number of at least so many places. Zeros stand behind its sign and blanks before it. -/
def number (m : Manner) (places : Nat) (n : Int) : List Piece :=
  let cs := Number.integerText n
  let missing := max places m.width - cs.length
  match m.fill with
  | some '-' => [m.plain cs]
  | some '_' => [⟨missing,' ',cs⟩]
  | _ => [⟨0,' ',if n < 0 then ['-'] else []⟩,⟨missing,'0',Number.digits n.natAbs⟩]

def spaced (m : Manner) (places : Nat) (n : Int) : List Piece :=
  { m with fill := if m.fill = some '0' || m.fill = some '-' then m.fill else some '_' }.number
    places n

end Manner

def two (n : Nat) : List Char := Number.paddedDigits 2 n

def clock (f : Face) : List Char := two f.hour ++ ':' :: two f.minute ++ ':' :: two f.second

def slashed (f : Face) : List Char :=
  two f.date.month ++ '/' :: two f.date.day ++ '/' :: two (f.date.year % 100)

def short (name : List Char) : List Char := name.take 3

def dated (f : Face) : List Char :=
  short (weekdayName f) ++ ' ' :: short (monthName f) ++ ' ' ::
    (if f.date.day < 10 then [' '] else []) ++ Number.digits f.date.day ++ ' ' :: clock f ++
    ' ' :: Number.integerText f.year

/-- Letters without the form `E`, and those without the form `O`. -/
def plainLetters (form : Char) : List Char :=
  if form = 'E' then "%aADFbhBdeHIkljMmSUVgGWw".toList else "%aADFcxXY".toList

/-- The year of the week, counted in half a machine word. -/
def weekYear (f : Face) : Int := Int.bmod f.week.1 0x100000000

/-- What a letter stands for; none where there is no such directive. -/
def directive (f : Face) (m : Manner) (letter : Char) : Option (List Piece) :=
  if m.form.any fun form => (plainLetters form).contains letter then none
  else match letter with
  | '%' => some [m.plain ['%']]
  | 'n' => some [m.plain ['\n']]
  | 't' => some [m.plain ['\t']]
  | 'a' => some [m.name (short (weekdayName f))]
  | 'A' => some [m.name (weekdayName f)]
  | 'b' | 'h' => some [m.name (short (monthName f))]
  | 'B' => some [m.name (monthName f)]
  | 'c' => some [m.text (dated f)]
  | 'C' => some (m.number 1 (f.year / 100))
  | 'd' => some (m.number 2 f.date.day)
  | 'D' | 'x' => some [m.text (slashed f)]
  | 'e' => some (m.spaced 2 f.date.day)
  | 'F' => some [m.text (Number.integerText f.year ++ '-' :: two f.date.month ++
      '-' :: two f.date.day)]
  | 'g' => some (m.number 2 (weekYear f % 100))
  | 'G' => some (m.number 1 (weekYear f))
  | 'H' => some (m.number 2 f.hour)
  | 'I' => some (m.number 2 f.hourOfHalf)
  | 'j' => some (m.number 3 f.date.dayOfYear)
  | 'k' => some (m.spaced 2 f.hour)
  | 'l' => some (m.spaced 2 f.hourOfHalf)
  | 'm' => some (m.number 2 f.date.month)
  | 'M' => some (m.number 2 f.minute)
  | 'p' => some [m.lowering (half f)]
  | 'P' => some [m.plain ((half f).map Char.toLower)]
  | 'r' => some [m.text (two f.hourOfHalf ++ ':' :: two f.minute ++ ':' :: two f.second ++
      ' ' :: half f)]
  | 'R' => some [m.text (two f.hour ++ ':' :: two f.minute)]
  | 's' => some [m.plain (Number.integerText f.epoch)]
  | 'S' => some (m.number 2 f.second)
  | 'T' | 'X' => some [m.text (clock f)]
  | 'u' => some (m.number 1 (f.date.weekday + 1))
  | 'U' => some (m.number 2 (f.weekFrom 1))
  | 'V' => some (m.number 2 f.week.2)
  | 'w' => some (m.number 1 (((f.date.weekday : Int) + 1) % 7))
  | 'W' => some (m.number 2 (f.weekFrom 0))
  | 'y' => some (m.number 2 (f.date.year % 100))
  | 'Y' => some (m.number 1 f.year)
  | 'z' => some (if f.zone.isSome then m.plain ['+'] :: m.number 4 0 else [])
  | 'Z' => some [m.lowering (f.zone.getD "").toList]
  | _ => none

def pieces (f : Face) : (fuel : Nat) → List Char → List Piece
  | 0,_ => []
  | _,[] => []
  | fuel + 1,'%' :: cs =>
    let (m,rest) := Manner.read cs
    let read := cs.take (cs.length - rest.length)
    match rest with
    | [] => [m.text ('%' :: read)]
    | letter :: rest => match directive f m letter with
      | some found => found ++ pieces f fuel rest
      | none => m.unknown read letter :: pieces f fuel rest
  | fuel + 1,c :: rest => { text := [c] } :: pieces f fuel rest

def room (pattern : List Char) : Nat := Nat.nextPowerOfTwo (max 1024 (256 * pattern.length))

/-- What is shown, by a pattern. A text that leaves no room for one character more is not
written. -/
def write (f : Face) (pattern : List Char) : List Char :=
  let found := pieces f pattern.length pattern
  let taken := found.foldl (fun n piece => n + piece.size) 0
  if taken < room pattern then found.flatMap Piece.chars else []

def offsetDigits (offset : Int) : List Char := (offsetChars offset).filter (· ≠ ':')

/-- The name of a zone that has none but its offset. -/
def zoneName (offset : Int) : List Char :=
  "UTC".toList ++ if offset = 0 then [] else offsetChars offset

/-- Fills in the directives that only a timestamp has an answer to: its zone and its fraction. -/
def fillIn (t : Timestamp) : List Char → List Char
  | '%' :: 'z' :: rest => (t.offset.map offsetDigits).getD [] ++ fillIn t rest
  | '%' :: 'Z' :: rest => (t.offset.map zoneName).getD [] ++ fillIn t rest
  | '%' :: 'f' :: rest => Number.paddedDigits 6 t.micro ++ fillIn t rest
  | '%' :: c :: rest => '%' :: c :: fillIn t rest
  | c :: rest => c :: fillIn t rest
  | [] => []

end Pattern

/-- A timestamp by a pattern, on its own clock. The pattern ends at a null character. -/
def byPattern (t : Timestamp) (pattern : List Char) : List Char :=
  Pattern.write (Face.ofTimestamp t) (Pattern.fillIn t (pattern.takeWhile (·.toNat ≠ 0)))

end RoomTransfer.Timestamp
