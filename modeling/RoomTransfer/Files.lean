import RoomTransfer.Failure

/-! Files and folders, addressed by paths. A path starts at the working folder, or at the root of
the system where a slash opens it. Of what lies outside the working folder only a few folders are
known, and the file that is always empty. -/
namespace RoomTransfer

namespace Text

/-- What stands between the marks of a text; there is one piece more than there are marks. -/
def cut (mark : Char) : List Char → List (List Char)
  | [] => [[]]
  | c :: rest =>
    if c = mark then [] :: cut mark rest
    else match cut mark rest with
      | [] => [[c]]
      | piece :: others => (c :: piece) :: others

def pieces (mark : Char) (s : String) : List String := (cut mark s.toList).map String.ofList

end Text

inductive FileEntry where
  | folder
  | file (content : List UInt8)
  deriving DecidableEq

/-- The entries of a tree, each under the names that lead to it. Folders come before what they
hold. Names above the working folder are `..`, and the root of the system is the name `/`. -/
structure Files where
  entries : List (List String × FileEntry) := []

namespace Files

def root : List String := ["/"]

def nowhere : List String := root ++ ["dev","null"]

def systemFolders : List String :=
  ["bin","dev","etc","home","lib","mnt","opt","proc","root","run","sbin","srv","sys",
    "tmp","usr","var"]

/-- What stands outside the working folder from the start. -/
def outside? (place : List String) : Option FileEntry :=
  if place.all (· = "..") || place = root then some .folder
  else if place = nowhere then some (.file [])
  else match place with
    | ["/",name] => if systemFolders.contains name then some .folder else none
    | _ => none

def entry? (t : Files) (place : List String) : Option FileEntry :=
  (outside? place).orElse fun _ => List.lookup place t.entries

def put (t : Files) (place : List String) (e : FileEntry) : Files :=
  if (outside? place).isSome then t
  else if (List.lookup place t.entries).isSome then
    ⟨t.entries.map fun (p,old) => if p = place then (p,e) else (p,old)⟩
  else ⟨t.entries ++ [(place,e)]⟩

def names (path : String) : List String := (Text.pieces '/' path).filter (· ≠ "")

/-- The longest name that an entry may have, and the longest path, in bytes. -/
def longestName : Nat := 255
def longestPath : Nat := 4095

def above (place : List String) : List String :=
  if place.all (· = "..") then place ++ [".."]
  else if place = root then root
  else place.dropLast

/-- Walks along names from a folder; all but the last step must lead to a folder. -/
def walk (t : Files) : (place : List String) → List String → Except FileError (List String)
  | place,[] => .ok place
  | place,name :: rest =>
    match t.entry? place with
    | none => .error .missing
    | some (.file _) => .error .notFolder
    | some .folder =>
      if name = "." then walk t place rest
      else if name = ".." then walk t (above place) rest
      else if longestName < name.utf8ByteSize then .error .nameTooLong
      else walk t (place ++ [name]) rest

def check (path : String) : Except FileError Unit :=
  if path.toList.any (·.toNat = 0) then .error .nullCharacter
  else if path.isEmpty then .error .missing
  else if longestPath < path.utf8ByteSize then .error .nameTooLong
  else .ok ()

def start (path : String) : List String := if path.startsWith "/" then root else []

/-- The place that a path leads to, whether or not something stands there. -/
def place (t : Files) (path : String) : Except FileError (List String) := do
  check path
  t.walk (start path) (names path)

/-- What a path leads to. A slash at its end asks for a folder. -/
def find (t : Files) (path : String) : Except FileError FileEntry := do
  match t.entry? (← t.place path) with
  | some .folder => .ok .folder
  | some e => if path.endsWith "/" then .error .notFolder else .ok e
  | none => .error .missing

/-- Whether something stands at a path; a name that is too long is no answer. -/
def holds (t : Files) (path : String) : Except FileError Bool :=
  match t.find path with
  | .ok _ => .ok true
  | .error .nameTooLong => .error .nameTooLong
  | .error _ => .ok false

def isFolder (t : Files) (path : String) : Bool :=
  match t.find path with
  | .ok .folder => true
  | _ => false

def read (t : Files) (path : String) : Except FileError (List UInt8) := do
  match ← t.find path with
  | .file content => .ok content
  | .folder => .error .isFolder

/-- Writes a file, in place of the content that it had. A slash at the end of the path makes it the
path of a folder, if the folders before it are there. -/
def write (t : Files) (path : String) (content : List UInt8) : Except FileError Files := do
  check path
  if path.endsWith "/" then
    let _ ← t.walk (start path) ((names path).dropLast ++ ["."])
    throw .isFolder
  let place ← t.place path
  match t.entry? place with
  | some .folder => .error .isFolder
  | _ => .ok (t.put place (.file content))

def makeFolder (t : Files) (path : String) : Except FileError Files := do
  let place ← t.place path
  match t.entry? place with
  | some _ => .error .taken
  | none => .ok (t.put place .folder)

/-- A path and the paths above it, the highest first. -/
def chain (path : String) : List String :=
  let rec go : (before : String) → List String → List String
    | _,[] => []
    | before,name :: rest =>
      let here := before ++ name
      here :: go (here ++ "/") rest
  (go "" (Text.pieces '/' path)).filter fun p => !p.isEmpty && !p.endsWith "/"

/-- Makes the folders of a chain that are not there yet, up to one that is refused. -/
def makeEach (t : Files) : List String → Files × Except Failure Unit
  | [] => (t,.ok ())
  | path :: rest =>
    match t.find path with
    | .ok _ => makeEach t rest
    | .error _ => match t.makeFolder path with
      | .ok t => makeEach t rest
      | .error cause => (t,.error (.file cause path))

/-- Makes a folder and those above it; one that is there already will do. -/
def makeFolders (t : Files) (path : String) : Files × Except Failure Unit :=
  match t.makeEach (chain path).dropLast with
  | (t,.error failure) => (t,.error failure)
  | (t,.ok ()) => match t.makeFolder path with
    | .ok t => (t,.ok ())
    | .error cause => (t,if t.isFolder path then .ok () else .error (.file cause path))

/-- The path of a name inside a folder; an absolute name stays as it is. -/
def join (folder name : String) : String :=
  if name.startsWith "/" then name
  else if folder.isEmpty || folder.endsWith "/" then folder ++ name
  else folder ++ "/" ++ name

/-- A path without its empty names and the names that stand for the folder itself. Two slashes at
its start stay two, more of them are one. -/
def tidy (path : String) : String :=
  let inner := "/".intercalate ((names path).filter (· ≠ "."))
  match path.toList with
  | '/' :: '/' :: '/' :: _ => "/" ++ inner
  | '/' :: '/' :: _ => "//" ++ inner
  | '/' :: _ => "/" ++ inner
  | _ => if inner.isEmpty then "." else inner

def withEntry (t : Files) (path : String) (e : FileEntry) : Files :=
  let rec below (t : Files) (place : List String) : List String → Files
    | [] => t
    | [name] => t.put (place ++ [name]) e
    | name :: rest =>
      let place := place ++ [name]
      below (if (t.entry? place).isSome then t else t.put place .folder) place rest
  below t (start path) (names path)

def pathOf : List String → String
  | "/" :: names => "/" ++ "/".intercalate names
  | names => "/".intercalate names

def isInside (place : List String) : Bool := place.head? ≠ some ".." && place.head? ≠ some "/"

def everything (t : Files) : List (String × FileEntry) :=
  t.entries.map fun (place,e) => (pathOf place,e)

def listing (t : Files) : List (String × FileEntry) :=
  everything ⟨t.entries.filter fun (place,_) => isInside place⟩

end Files

end RoomTransfer
