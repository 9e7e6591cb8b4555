import RoomTransfer.Text.Pattern

/-! What a plain scalar stands for. Texts that look like a truth value, a number, a moment or
nothing at all are read as such, so a text of that look has to be quoted. -/
namespace RoomTransfer.Yaml

/-- The kinds of scalar that have a plain look of their own; all else is text. -/
inductive ScalarKind where
  | text
  | bool
  | int
  | float
  | null
  | timestamp
  /-- The key of a mapping whose fields are taken over. -/
  | merge
  /-- The key of a default value. -/
  | value
  /-- An indicator that is no content. -/
  | indicator
  deriving DecidableEq, Repr

namespace ScalarKind

open Text.Pattern

def sign : Text.Pattern := optionally (oneOf "+-")

def digits : Text.Pattern := .many (oneOf "0123456789_")

/-- Digits of base sixty, each after a colon. -/
def sixties : Text.Pattern :=
  atLeastOnce (inOrder [exactly ":",optionally (oneOf "012345"),digit])

def exponent : Text.Pattern :=
  optionally (inOrder [oneOf "eE",oneOf "+-",atLeastOnce digit])

def boolLook : Text.Pattern :=
  words ["yes","Yes","YES","no","No","NO","true","True","TRUE","false","False","FALSE",
    "on","On","ON","off","Off","OFF"]

def floatLook : Text.Pattern := anyOf [
  inOrder [sign,digit,digits,exactly ".",digits,exponent],
  inOrder [exactly ".",digit,digits,exponent],
  inOrder [sign,digit,digits,sixties,exactly ".",digits],
  inOrder [sign,words [".inf",".Inf",".INF"]],
  words [".nan",".NaN",".NAN"]]

def intLook : Text.Pattern := .both sign (anyOf [
  inOrder [exactly "0b",atLeastOnce (oneOf "01_")],
  inOrder [exactly "0",atLeastOnce (oneOf "01234567_")],
  exactly "0",
  inOrder [oneOf "123456789",digits],
  inOrder [exactly "0x",atLeastOnce (oneOf "0123456789abcdefABCDEF_")],
  inOrder [oneOf "123456789",digits,sixties]])

def nullLook : Text.Pattern := words ["~","null","Null","NULL",""]

def oneOrTwo : Text.Pattern := .both digit (optionally digit)

def year : Text.Pattern := inOrder [digit,digit,digit,digit]

/-- A date, or a date with a time of day and a time zone. -/
def timestampLook : Text.Pattern := anyOf [
  inOrder [year,exactly "-",digit,digit,exactly "-",digit,digit],
  inOrder [year,exactly "-",oneOrTwo,exactly "-",oneOrTwo,
    .either (oneOf "Tt") (atLeastOnce (oneOf " \t")),
    oneOrTwo,exactly ":",digit,digit,exactly ":",digit,digit,
    optionally (.both (exactly ".") (.many digit)),
    optionally (.both (.many (oneOf " \t")) (.either (exactly "Z")
      (inOrder [oneOf "+-",oneOrTwo,optionally (inOrder [exactly ":",digit,digit])])))]]

/-- The looks in the order in which they are tried. -/
def looks : List (ScalarKind × Text.Pattern) :=
  [(.bool,boolLook),(.float,floatLook),(.int,intLook),(.merge,exactly "<<"),
    (.null,nullLook),(.timestamp,timestampLook),(.value,exactly "="),
    (.indicator,words ["!","&","*"])]

/-- The kind of the first look that a text has. -/
def ofLook (cs : List Char) : ScalarKind :=
  match looks.find? fun (_,look) => look.accepts cs with
  | some (kind,_) => kind
  | none => .text

/-- What a scalar stands for by its look. A line end behind it changes nothing, unless it is all
there is. -/
def ofPlain (cs : List Char) : ScalarKind :=
  if cs = ['\n'] then .text
  else if cs.getLast? = some '\n' then ofLook cs.dropLast
  else ofLook cs

end ScalarKind

end RoomTransfer.Yaml
