import ComplianceScanner.Yaml.Scanner

/-!
The tree that the tokens of a document describe. An alias stays a leaf that carries the number of
its anchor. Anchors are numbered by how many names are in use, so an anchor that takes a name again
gets the number of the next new name; of several anchors with one number the last one begun counts.
-/

namespace ComplianceScanner.Yaml

inductive Node where
  | scalar (text : String) (style : ScalarStyle) (tag : Option String)
  | sequence (items : List Node)
  | mapping (entries : List (Node × Node))
  | alias (number : Nat)
deriving Inhabited

/-- A scalar of which nothing is written. -/
def Node.empty : Node := .scalar "" .plain none

/-- The anchors of a document: the numbers of their names, which anchored node has a number,
counted in the order in which the nodes begin, and the nodes. -/
structure Anchors where
  names : List (String × Nat) := []
  places : List (Nat × Nat) := []
  nodes : List (Nat × Node) := []

def Anchors.begin (anchors : Anchors) (name : String) : Anchors × Nat :=
  let number := anchors.names.length
  let place := anchors.places.length
  ({ anchors with
      names := (name, number) :: anchors.names.filter (·.1 ≠ name)
      places := (number, place) :: anchors.places }, place)

def Anchors.finish (anchors : Anchors) (place : Nat) (node : Node) : Anchors :=
  { anchors with nodes := (place, node) :: anchors.nodes }

def Anchors.node? (anchors : Anchors) (number : Nat) : Option Node :=
  (anchors.places.lookup number).bind fun place => anchors.nodes.lookup place

structure Composer where
  tokens : List Token
  handles : List (String × String)
  anchors : Anchors := {}

abbrev Compose := StateT Composer Option

namespace Compose

def peek : Compose Token := fun s => s.tokens.head?.map (·, s)

def skip : Compose Unit := fun s => some ((), { s with tokens := s.tokens.drop 1 })

def fail {α : Type} : Compose α := fun _ => none

structure Properties where
  anchor : Option String := none
  tag : Option (String × String) := none

def properties : Compose Properties := do
  match ← peek with
  | .anchor name => do
    skip
    match ← peek with
    | .tag handle suffix => skip; return ⟨some name, some (handle, suffix)⟩
    | _ => return ⟨some name, none⟩
  | .tag handle suffix => do
    skip
    match ← peek with
    | .anchor name => skip; return ⟨some name, some (handle, suffix)⟩
    | _ => return ⟨none, some (handle, suffix)⟩
  | _ => return {}

/-- The full tag; its handle must be known. -/
def resolveTag : Option (String × String) → Compose (Option String)
  | none => return none
  | some (handle, suffix) => do
    if handle = "" then return some suffix
    match (← get).handles.lookup handle with
    | some start => return some (start ++ suffix)
    | none => fail

/-- Wraps the reading of an anchored node. -/
def anchored (name : Option String) (read : Compose Node) : Compose Node := do
  match name with
  | none => read
  | some name =>
    let (anchors, place) := (← get).anchors.begin name
    modify ({ · with anchors })
    let node ← read
    modify fun s => { s with anchors := s.anchors.finish place node }
    return node

def aliased (name : String) : Compose Node := do
  match (← get).anchors.names.lookup name with
  | some number => return .alias number
  | none => fail

/-- Only properties make up a node without content. -/
def unwritten (given : Properties) (tag : Option String) : Compose Node :=
  if given.anchor.isSome || given.tag.isSome then return .scalar "" .plain tag else fail

mutual

/-- Reads a node. `block` admits block collections, `indentless` a sequence that stands no deeper
than the key in front of it. -/
def node (block indentless : Bool) : Nat → Compose Node
  | 0 => fail
  | fuel + 1 => do
    match ← peek with
    | .alias name => skip; aliased name
    | _ =>
      let given ← properties
      let tag ← resolveTag given.tag
      anchored given.anchor do
        match ← peek with
        | .blockEntry =>
          if indentless then return .sequence (← indentlessItems fuel) else unwritten given tag
        | .scalar text style => skip; return .scalar text style tag
        | .flowSequenceStart => skip; return .sequence (← flowItems true fuel)
        | .flowMappingStart => skip; return .mapping (← flowEntries true fuel)
        | .blockSequenceStart =>
          if block then skip; return .sequence (← blockItems fuel) else unwritten given tag
        | .blockMappingStart =>
          if block then skip; return .mapping (← blockEntries fuel) else unwritten given tag
        | _ => unwritten given tag

/-- A node, or nothing where one of these tokens follows. -/
def nodeUnless (block indentless : Bool) (ends : List Token) : Nat → Compose Node
  | 0 => fail
  | fuel + 1 => do
    if ends.contains (← peek) then return .empty else node block indentless fuel

def blockItems : Nat → Compose (List Node)
  | 0 => fail
  | fuel + 1 => do
    match ← peek with
    | .blockEntry =>
      skip
      let item ← nodeUnless true false [.blockEntry, .blockEnd] fuel
      return item :: (← blockItems fuel)
    | .blockEnd => skip; return []
    | _ => fail

def indentlessItems : Nat → Compose (List Node)
  | 0 => fail
  | fuel + 1 => do
    match ← peek with
    | .blockEntry =>
      skip
      let item ← nodeUnless true false [.blockEntry, .key, .value, .blockEnd] fuel
      return item :: (← indentlessItems fuel)
    | _ => return []

def blockEntries : Nat → Compose (List (Node × Node))
  | 0 => fail
  | fuel + 1 => do
    match ← peek with
    | .key =>
      skip
      let key ← nodeUnless true true [.key, .value, .blockEnd] fuel
      let value ← blockValue fuel
      return (key, value) :: (← blockEntries fuel)
    | .blockEnd => skip; return []
    | _ => fail

def blockValue : Nat → Compose Node
  | 0 => fail
  | fuel + 1 => do
    match ← peek with
    | .value => skip; nodeUnless true true [.key, .value, .blockEnd] fuel
    | _ => return .empty

def flowItems (first : Bool) : Nat → Compose (List Node)
  | 0 => fail
  | fuel + 1 => do
    if (← peek) = .flowSequenceEnd then skip; return []
    if !first then
      if (← peek) = .flowEntry then skip else fail
    match ← peek with
    | .flowSequenceEnd => skip; return []
    | .key =>
      skip
      let entry ← flowPair fuel
      return .mapping [entry] :: (← flowItems false fuel)
    | _ =>
      let item ← node false false fuel
      return item :: (← flowItems false fuel)

/-- A mapping of one entry that stands as an item. Without a key it loses the token after the
question mark. -/
def flowPair : Nat → Compose (Node × Node)
  | 0 => fail
  | fuel + 1 => do
    let ends := [.value, .flowEntry, .flowSequenceEnd]
    let key ← if ends.contains (← peek) then do skip; pure Node.empty else node false false fuel
    match ← peek with
    | .value => skip; return (key, ← nodeUnless false false [.flowEntry, .flowSequenceEnd] fuel)
    | _ => return (key, .empty)

def flowEntries (first : Bool) : Nat → Compose (List (Node × Node))
  | 0 => fail
  | fuel + 1 => do
    if (← peek) = .flowMappingEnd then skip; return []
    if !first then
      if (← peek) = .flowEntry then skip else fail
    match ← peek with
    | .flowMappingEnd => skip; return []
    | .key =>
      skip
      let key ← nodeUnless false false [.value, .flowEntry, .flowMappingEnd] fuel
      let value ← flowValue fuel
      return (key, value) :: (← flowEntries false fuel)
    | _ =>
      let key ← node false false fuel
      return (key, .empty) :: (← flowEntries false fuel)

def flowValue : Nat → Compose Node
  | 0 => fail
  | fuel + 1 => do
    match ← peek with
    | .value => skip; nodeUnless false false [.flowEntry, .flowMappingEnd] fuel
    | _ => return .empty

end

end Compose

end ComplianceScanner.Yaml
