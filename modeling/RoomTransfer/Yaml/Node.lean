import RoomTransfer.Yaml.Token

/-! The nodes of a document: scalars, sequences and mappings, each with the tag that tells how its
value is made. A node with an anchor is kept apart, and its name stands for it, at its own place as
well as where an alias does: it may well be named inside of itself. -/
namespace RoomTransfer.Yaml

/-- How a value is made of a node. -/
inductive Tag where
  | kind (kind : ScalarKind)
  | bytes
  | sequence
  | mapping
  | set
  /-- A list of pairs, spelled as a sequence of mappings with one field. -/
  | pairs
  | unknown
  deriving DecidableEq

namespace Tag

def addressPrefix : String := "tag:yaml.org,2002:"

def named : List (String × Tag) := [
  ("str",.kind .text),("bool",.kind .bool),("int",.kind .int),("float",.kind .float),
  ("null",.kind .null),("timestamp",.kind .timestamp),("merge",.kind .merge),
  ("value",.kind .value),("binary",.bytes),("seq",.sequence),("map",.mapping),
  ("set",.set),("omap",.pairs),("pairs",.pairs)]

def ofAddress (s : String) : Tag :=
  match named.find? fun (name,_) => addressPrefix ++ name = s with
  | some (_,tag) => tag
  | none => .unknown

end Tag

/-- Nodes know the place where they start, counted in tokens: it tells them from each other. -/
inductive Node where
  | scalar (place : Nat) (tag : Tag) (text : List Char)
  | sequence (place : Nat) (tag : Tag) (items : List Node)
  | mapping (place : Nat) (tag : Tag) (fields : List (Node × Node))
  /-- A node with an anchor. -/
  | named (name : String)

def Node.missing : Node := .scalar 0 (.kind .null) []

instance : Inhabited Node := ⟨.missing⟩

abbrev Anchors := List (String × Node)

structure Document where
  root : Node
  anchors : Anchors

/-- What is left to read, the tags in use, the anchors met so far, and the nodes of those that have
been read to their end. -/
structure Reading where
  scan : Scan
  handles : List (String × String)
  met : List String := []
  anchors : Anchors := []

abbrev Read := StateT Reading (Except Fault)

namespace Read

def malformed {α : Type} : Read α := fun _ => .error .malformed

def peek : Read (Option Token) := do
  let (token,scan) ← (← get).scan.peek
  modify fun r => { r with scan }
  return token

def skip : Read Unit := modify fun r => { r with scan := r.scan.drop }

def next (p : Token → Bool) : Read Bool := do return (← peek).any p

def accept (p : Token → Bool) : Read Bool := do
  if ← next p then
    skip
    return true
  else return false

def expect (p : Token → Bool) : Read Unit := do
  if !(← accept p) then malformed

def place : Read Nat := do return (← get).scan.taken + 1

/-- The address of a tag: its handle stands for the start of the address. -/
def address (handle : Option String) (suffix : String) : Read String := do
  match handle with
  | none => return suffix
  | some handle => match List.lookup handle (← get).handles with
    | some spelled => return spelled ++ suffix
    | none => malformed

/-- The anchor and the tag in front of a node, in any order. -/
def properties : Read (Option String × Option String) := do
  match ← peek with
  | some (.anchor name) =>
    skip
    match ← peek with
    | some (.tag handle suffix) =>
      skip
      return (some name,some (← address handle suffix))
    | _ => return (some name,none)
  | some (.tag handle suffix) =>
    skip
    match ← peek with
    | some (.anchor name) =>
      skip
      return (some name,some (← address handle suffix))
    | _ => return (none,some (← address handle suffix))
  | _ => return (none,none)

/-- The tag of a scalar. Its look decides where it is plain and has no tag of its own, and where it
has the bare mark. -/
def scalarTag (tag : Option String) (plain : Bool) (text : List Char) : Tag :=
  match tag with
  | some "!" => .kind (ScalarKind.ofPlain text)
  | some address => Tag.ofAddress address
  | none => .kind (if plain then ScalarKind.ofPlain text else .text)

def collectionTag (tag : Option String) (byDefault : Tag) : Tag :=
  match tag with
  | none | some "!" => byDefault
  | some address => Tag.ofAddress address

def resolve (name : String) : Read Node := do
  if (← get).met.contains name then return .named name else malformed

/-- Notes that a node with an anchor starts here; an anchor is used once. -/
def openAnchor (anchor : Option String) : Read Unit := do
  match anchor with
  | none => return
  | some name =>
    if (← get).met.contains name then malformed
    else modify fun r => { r with met := name :: r.met }

def closeAnchor (anchor : Option String) (node : Node) : Read Node := do
  match anchor with
  | none => return node
  | some name =>
    modify fun r => { r with anchors := (name,node) :: r.anchors }
    return .named name

def isKey : Token → Bool
  | .key => true
  | _ => false

def isValue : Token → Bool
  | .value => true
  | _ => false

def isBlockEntry : Token → Bool
  | .blockEntry => true
  | _ => false

def isBlockEnd : Token → Bool
  | .blockEnd => true
  | _ => false

def isFlowEntry : Token → Bool
  | .flowEntry => true
  | _ => false

def isSequenceEnd : Token → Bool
  | .flowSequenceEnd => true
  | _ => false

def isMappingEnd : Token → Bool
  | .flowMappingEnd => true
  | _ => false

/-- Where the entry of a block is empty. -/
def endsEntry (t : Token) : Bool := isBlockEntry t || isBlockEnd t

def endsField (t : Token) : Bool := isKey t || isValue t || isBlockEnd t

def endsPairKey (t : Token) : Bool := isValue t || isFlowEntry t || isSequenceEnd t

def endsPairValue (t : Token) : Bool := isFlowEntry t || isSequenceEnd t

def endsFieldKey (t : Token) : Bool := isValue t || isFlowEntry t || isMappingEnd t

def endsFieldValue (t : Token) : Bool := isFlowEntry t || isMappingEnd t

mutual

/-- A node. Blocks may only start where `block` allows it; entries without indentation of their
own may stand as the value of a field. -/
def node (block loose : Bool) : (fuel : Nat) → Read Node
  | 0 => malformed
  | fuel + 1 => do
    match ← peek with
    | some (.reference name) =>
      skip
      resolve name
    | _ =>
      let place ← place
      let (anchor,tag) ← properties
      match ← peek with
      | some .blockEntry =>
        if loose then do
          openAnchor anchor
          closeAnchor anchor (.sequence place (collectionTag tag .sequence) (← looseEntries fuel))
        else empty place anchor tag
      | some (.scalar text plain) =>
        skip
        openAnchor anchor
        closeAnchor anchor (.scalar place (scalarTag tag plain text) text)
      | some .flowSequence =>
        skip
        openAnchor anchor
        closeAnchor anchor (.sequence place (collectionTag tag .sequence) (← flowItems true fuel))
      | some .flowMapping =>
        skip
        openAnchor anchor
        closeAnchor anchor (.mapping place (collectionTag tag .mapping) (← flowFields true fuel))
      | some .blockSequence =>
        if block then do
          skip
          openAnchor anchor
          closeAnchor anchor (.sequence place (collectionTag tag .sequence) (← blockEntries fuel))
        else empty place anchor tag
      | some .blockMapping =>
        if block then do
          skip
          openAnchor anchor
          closeAnchor anchor (.mapping place (collectionTag tag .mapping) (← blockFields fuel))
        else empty place anchor tag
      | _ => empty place anchor tag

/-- Nothing is written where an anchor or a tag stands by itself. -/
def empty (place : Nat) (anchor tag : Option String) : Read Node := do
  if anchor.isNone && tag.isNone then malformed
  else
    openAnchor anchor
    let plain := tag.isNone || tag = some "!"
    closeAnchor anchor (.scalar place (scalarTag tag plain []) [])

def nodeUnless (p : Token → Bool) (block loose : Bool) : (fuel : Nat) → Read Node
  | 0 => malformed
  | fuel + 1 => do
    if ← next p then return .missing else node block loose fuel

def blockEntries : (fuel : Nat) → Read (List Node)
  | 0 => malformed
  | fuel + 1 => do
    if ← accept isBlockEntry then
      let item ← nodeUnless endsEntry true false fuel
      return item :: (← blockEntries fuel)
    else
      expect isBlockEnd
      return []

def looseEntries : (fuel : Nat) → Read (List Node)
  | 0 => malformed
  | fuel + 1 => do
    if ← accept isBlockEntry then
      let item ← nodeUnless (fun t => endsField t || isBlockEntry t) true false fuel
      return item :: (← looseEntries fuel)
    else return []

def blockValue : (fuel : Nat) → Read Node
  | 0 => malformed
  | fuel + 1 => do
    if ← accept isValue then nodeUnless endsField true true fuel else return .missing

def blockFields : (fuel : Nat) → Read (List (Node × Node))
  | 0 => malformed
  | fuel + 1 => do
    if ← accept isKey then
      let key ← nodeUnless endsField true true fuel
      let value ← blockValue fuel
      return (key,value) :: (← blockFields fuel)
    else
      expect isBlockEnd
      return []

def separator (first : Bool) : Read Unit := do
  if !first then expect isFlowEntry

def flowItems (first : Bool) : (fuel : Nat) → Read (List Node)
  | 0 => malformed
  | fuel + 1 => do
    if ← accept isSequenceEnd then return []
    else
      separator first
      let place ← place
      if ← accept isKey then
        let key ← nodeUnless endsPairKey false false fuel
        let value ←
          if ← accept isValue then nodeUnless endsPairValue false false fuel else pure .missing
        return .mapping place .mapping [(key,value)] :: (← flowItems false fuel)
      else if ← accept isSequenceEnd then return []
      else
        let item ← node false false fuel
        return item :: (← flowItems false fuel)

def flowFields (first : Bool) : (fuel : Nat) → Read (List (Node × Node))
  | 0 => malformed
  | fuel + 1 => do
    if ← accept isMappingEnd then return []
    else
      separator first
      if ← accept isKey then
        let key ← nodeUnless endsFieldKey false false fuel
        let value ←
          if ← accept isValue then nodeUnless endsFieldValue false false fuel else pure .missing
        return (key,value) :: (← flowFields false fuel)
      else if ← accept isMappingEnd then return []
      else
        let key ← node false false fuel
        return (key,.missing) :: (← flowFields false fuel)

end

def knownHandles : List (String × String) := [("!","!"),("!!",Tag.addressPrefix)]

/-- The directives in front of a document: one version, and handles that differ. -/
def directives : (fuel : Nat) → (versioned : Bool) → (handles : List (String × String)) →
    Read (List (String × String))
  | 0,_,_ => malformed
  | fuel + 1,versioned,handles => do
    match ← peek with
    | some (.directive d) =>
      skip
      match d with
      | .version major =>
        if versioned || major ≠ 1 then malformed else directives fuel true handles
      | .tag handle spelled =>
        if (List.lookup handle handles).isSome then malformed
        else directives fuel versioned ((handle,spelled) :: handles)
      | .other => directives fuel versioned handles
    | _ => return handles ++ knownHandles

def isDocumentEnd : Token → Bool
  | .documentEnd => true
  | _ => false

def isDocumentStart : Token → Bool
  | .documentStart => true
  | _ => false

def isStreamEnd : Token → Bool
  | .streamEnd => true
  | _ => false

def isDirective : Token → Bool
  | .directive _ => true
  | _ => false

def skipDocumentEnds : (fuel : Nat) → Read Unit
  | 0 => malformed
  | fuel + 1 => do
    if ← accept isDocumentEnd then skipDocumentEnds fuel

def markedDocument (fuel : Nat) : Read Node := do
  let handles ← directives fuel false []
  modify fun r => { r with handles }
  expect isDocumentStart
  nodeUnless (fun t => isDirective t || isDocumentStart t || isDocumentEnd t || isStreamEnd t)
    true false fuel

def furtherDocument {α : Type} (fuel : Nat) : Read α := do
  let _ ← directives fuel false []
  malformed

/-- The only document of a text, or nothing. -/
def document (fuel : Nat) : Read (Option Document) := do
  let unmarked := !(← next fun t => isDirective t || isDocumentStart t || isStreamEnd t)
  if ← next isStreamEnd then return none
  else
    let root ← if unmarked then node true false fuel else markedDocument fuel
    skipDocumentEnds fuel
    if ← next isStreamEnd then return some ⟨root,(← get).anchors⟩ else furtherDocument fuel

end Read

/-- The only document of a text, or nothing. No character gives rise to many tokens. -/
def Document.ofSource? (source : Source) : Except Fault (Option Document) := do
  let (found,_) ← (Read.document (32 * (source.text.length + 2))).run
    { scan := .start source, handles := Read.knownHandles }
  return found

end RoomTransfer.Yaml
