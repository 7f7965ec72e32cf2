import LayerCheck.Document.Yaml.Token

/-!
The nodes that the tokens of a YAML text form. Aliases are left as they are; what they stand for is
kept beside the tree.
-/

namespace LayerCheck.Yaml

inductive Node where
  | scalar (tag : Option String) (text : String) (isPlain : Bool)
  | sequence (tag : Option String) (items : List Node)
  | mapping (tag : Option String) (entries : List (Node × Node))
  | aliasTo (anchor : Nat)
deriving Repr, Inhabited

/-- A scalar that is not written. -/
def Node.absent : Node :=
  .scalar none "" true

/-- The number of marks that a reader of the tree meets: collections have two, other nodes one. -/
def Node.cost : Node → Nat
  | .sequence .. | .mapping .. => 2
  | _ => 1

/-- The anchors of a document. An anchor gets the number of names seen before it, and a name that is
used again a new number, so two anchors may share one: then the later stands for both. -/
structure Anchors where
  /-- The numbers of the names, the latest first. -/
  numbers : List (String × Nat) := []
  /-- The number of each anchor, the latest anchor first. -/
  opened : List Nat := []
  /-- The nodes of the anchors, by their order in the text. -/
  nodes : List (Nat × Node) := []
deriving Repr

namespace Anchors

def names (a : Anchors) : List String :=
  (a.numbers.map Prod.fst).eraseDups

def opening (a : Anchors) (name : String) : Anchors :=
  let number := a.names.length
  { a with numbers := (name, number) :: a.numbers, opened := number :: a.opened }

def get? (a : Anchors) (number : Nat) : Option Node := do
  let later ← a.opened.findIdx? (· = number)
  a.nodes.lookup (a.opened.length - 1 - later)

end Anchors

structure Build where
  tokens : List Token
  handles : List (String × String) := []
  anchors : Anchors := {}
  /-- The cost of the nodes that were built. -/
  cost : Nat := 0

abbrev Builder := StateT Build Option

namespace Builder

def peek? : Builder (Option Token) :=
  return (← get).tokens.head?

def skip : Builder Unit :=
  modify fun b => { b with tokens := b.tokens.tail }

/-- Takes the next token if it is the one given. -/
def take? (t : Token) : Builder Bool := do
  if (← peek?) == some t then
    skip
    return true
  else return false

def expect (t : Token) : Builder Unit := do
  if !(← take? t) then failure

/-- Whether the next token is one of those given; the end of the text is none of them. -/
def next (ts : List Token) : Builder Bool := do
  return (← peek?).any ts.contains

def anchor? : Builder (Option String) := do
  match ← peek? with
  | some (.anchor name) =>
    skip
    return some name
  | _ => return none

/-- A tag is the expansion of its handle and its suffix. -/
def tag? : Builder (Option String) := do
  match ← peek? with
  | some (.tag handle suffix) =>
    skip
    if handle = "" then return some suffix
    match (← get).handles.lookup handle with
    | some expansion => return some (expansion ++ suffix)
    | none => failure
  | _ => return none

/-- An anchor and a tag, in either order. -/
def properties : Builder (Option String × Option String) := do
  match ← anchor? with
  | some name => return (some name, ← tag?)
  | none =>
    let tag ← tag?
    return (← anchor?, tag)

def aliasNode (name : String) : Builder Node := do
  match (← get).anchors.numbers.lookup name with
  | some number => return .aliasTo number
  | none => failure

/-- Builds a node that carries the given anchor. -/
def anchored (name : Option String) (build : Builder Node) : Builder Node := do
  match name with
  | none => build
  | some name =>
    let order := (← get).anchors.opened.length
    modify fun b => { b with anchors := b.anchors.opening name }
    let node ← build
    modify fun b => { b with anchors.nodes := (order, node) :: b.anchors.nodes }
    return node

/-- The tag `!` says nothing about a scalar. -/
def scalar (tag : Option String) (text : String) (isPlain : Bool) : Node :=
  .scalar (if tag = some "!" then none else tag) text isPlain

/-- Counts the node. -/
def counted (node : Node) : Builder Node := do
  modify fun b => { b with cost := b.cost + node.cost }
  return node

def absent : Builder Node :=
  counted .absent

mutual

/-- A node. `inBlock` allows block collections, `indentless` a sequence that stands no further right
than the mapping around it. -/
def node (inBlock indentless : Bool) : Nat → Builder Node
  | 0 => failure
  | fuel + 1 => do
    match ← peek? with
    | some (.aliasFor name) =>
      skip
      counted (← aliasNode name)
    | _ =>
      let (name, tag) ← properties
      anchored name do
        counted (← content inBlock indentless (name.isSome || tag.isSome) tag fuel)

def content (inBlock indentless mayBeAbsent : Bool) (tag : Option String) : Nat → Builder Node
  | 0 => failure
  | fuel + 1 => do
    match ← peek? with
    | some (.scalar text isPlain) =>
      skip
      return scalar tag text isPlain
    | some .flowSequence =>
      skip
      return .sequence tag (← flowItems true fuel)
    | some .flowMapping =>
      skip
      return .mapping tag (← flowEntries true fuel)
    | some t =>
      if t = .blockEntry ∧ indentless then
        return .sequence tag (← indentlessItems fuel)
      else if t = .blockSequence ∧ inBlock then
        skip
        return .sequence tag (← blockItems fuel)
      else if t = .blockMapping ∧ inBlock then
        skip
        return .mapping tag (← blockEntries fuel)
      else if mayBeAbsent then
        return scalar tag "" true
      else failure
    | none => if mayBeAbsent then return scalar tag "" true else failure

/-- A node, unless one of the tokens `ends` shows that it is not written. -/
def nodeUnless (ends : List Token) (inBlock indentless : Bool) : Nat → Builder Node
  | 0 => failure
  | fuel + 1 => do
    if ← next ends then absent else node inBlock indentless fuel

def blockItems : Nat → Builder (List Node)
  | 0 => failure
  | fuel + 1 => do
    if ← take? .blockEnd then return []
    expect .blockEntry
    let item ← nodeUnless [.blockEntry, .blockEnd] true false fuel
    return item :: (← blockItems fuel)

def indentlessItems : Nat → Builder (List Node)
  | 0 => failure
  | fuel + 1 => do
    if !(← take? .blockEntry) then return []
    let item ← nodeUnless [.blockEntry, .key, .value, .blockEnd] true false fuel
    return item :: (← indentlessItems fuel)

def blockEntries : Nat → Builder (List (Node × Node))
  | 0 => failure
  | fuel + 1 => do
    if ← take? .blockEnd then return []
    expect .key
    let key ← nodeUnless [.key, .value, .blockEnd] true true fuel
    let value ←
      if ← take? .value then nodeUnless [.key, .value, .blockEnd] true true fuel else absent
    return (key, value) :: (← blockEntries fuel)

def flowItems (first : Bool) : Nat → Builder (List Node)
  | 0 => failure
  | fuel + 1 => do
    if ← take? .flowSequenceEnd then return []
    if !first then expect .flowEntry
    if ← take? .flowSequenceEnd then return []
    let item ←
      if ← take? .key then counted (← singlePair fuel) else node false false fuel
    return item :: (← flowItems false fuel)

/-- An entry that stands in a sequence like an item. A mark behind `?` is passed over. -/
def singlePair : Nat → Builder Node
  | 0 => failure
  | fuel + 1 => do
    let key ←
      if ← next [.value, .flowEntry, .flowSequenceEnd] then
        skip
        absent
      else node false false fuel
    let value ←
      if ← take? .value then nodeUnless [.flowEntry, .flowSequenceEnd] false false fuel else absent
    return .mapping none [(key, value)]

def flowEntries (first : Bool) : Nat → Builder (List (Node × Node))
  | 0 => failure
  | fuel + 1 => do
    if ← take? .flowMappingEnd then return []
    if !first then expect .flowEntry
    if ← take? .flowMappingEnd then return []
    let entry ←
      if ← take? .key then do
        let key ← nodeUnless [.value, .flowEntry, .flowMappingEnd] false false fuel
        let value ←
          if ← take? .value then nodeUnless [.flowEntry, .flowMappingEnd] false false fuel
          else absent
        pure (key, value)
      else do
        let key ← node false false fuel
        pure (key, ← absent)
    return entry :: (← flowEntries false fuel)

end

/-! ### Documents -/

def standardHandles : List (String × String) :=
  [("!", "!"), ("!!", "tag:yaml.org,2002:")]

/-- Reads the directives of a document: at most one version, which is 1.1 or 1.2, and handles that
differ from each other. -/
def directives (hasVersion : Bool) (handles : List (String × String)) : Nat → Builder Unit
  | 0 => failure
  | fuel + 1 => do
    match ← peek? with
    | some (.version major minor) =>
      skip
      if hasVersion ∨ major ≠ 1 ∨ (minor ≠ 1 ∧ minor ≠ 2) then failure
      directives true handles fuel
    | some (.tagHandle handle expansion) =>
      skip
      if (handles.lookup handle).isSome then failure
      directives hasVersion ((handle, expansion) :: handles) fuel
    | _ => modify fun b => { b with handles := handles ++ standardHandles }

def startsDocument : Option Token → Bool
  | some (.version ..) | some (.tagHandle ..) | some .documentStart => true
  | _ => false

/-- The node of a document. Directives stand before a mark, and a document whose start is not marked
has content. -/
def document (fuel : Nat) : Builder Node := do
  let first ← peek?
  if first.isNone then absent
  else if startsDocument first then
    directives false [] fuel
    expect .documentStart
    let t ← peek?
    if t.isNone || t == some .documentEnd || startsDocument t then absent
    else node true false fuel
  else
    modify fun b => { b with handles := standardHandles }
    node true false fuel

end Builder

/-- Drops the marks at the end of a document. -/
def afterDocument (tokens : List Token) : List Token :=
  tokens.dropWhile (· = .documentEnd)

/-- A text holds one document at most. -/
def nodes? (tokens : List Token) : Option (Node × Build) := do
  let (node, b) ← (Builder.document (8 * tokens.length + 8)).run { tokens }
  if (afterDocument b.tokens).isEmpty then some (node, b) else none

end LayerCheck.Yaml
