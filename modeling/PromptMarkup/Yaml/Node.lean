import PromptMarkup.Yaml.Plain
import PromptMarkup.Yaml.Token

/-!
# Nodes of YAML

Tokens are composed into tagged nodes, which are numbered and hold each other by their numbers.  An alias stands for the
node that its anchor marks.  That node is known as soon as it begins, so that a node may hold itself.
-/

namespace PromptMarkup.Yaml

/-- A node; the nodes inside it are given by their numbers. -/
inductive Node where
  | scalar (tag : Tag) (text : String)
  | sequence (tag : Tag) (items : List Nat)
  | mapping (tag : Tag) (entries : List (Nat × Nat))
  deriving Repr

namespace Node

/-- The node that stands where nothing is written. -/
def empty : Node := .scalar .null ""

def tag : Node → Tag
  | scalar tag _ => tag
  | sequence tag _ => tag
  | mapping tag _ => tag

/-- The same node with another tag. -/
def withTag (tag : Tag) : Node → Node
  | scalar _ text => scalar tag text
  | sequence _ items => sequence tag items
  | mapping _ entries => mapping tag entries

end Node

/-- Nodes with their numbers.  Of two with the same number the one in front counts. -/
abbrev Nodes := List (Nat × Node)

/-- Tokens that are being composed, the nodes that are complete, the number of the next node, and the numbers of the nodes
that anchors mark. -/
structure Composing where
  tokens : List Token
  nodes : Nodes := []
  next : Nat := 0
  anchors : List (String × Nat) := []

/-- A step of composing, which fails on malformed text. -/
abbrev Composer := StateT Composing Option

/-- The handles of tags with the addresses they stand for. -/
abbrev Handles := List (String × String)

namespace Composer

/-- The next token, if there is one. -/
def peek : Composer (Option Token) := do return (← get).tokens.head?

/-- Past the next token. -/
def advance : Composer Unit := modify fun s => { s with tokens := s.tokens.drop 1 }

/-- Past the next token if it is the given one; says whether it is. -/
def accept (t : Token) : Composer Bool := do
  if (← peek) = some t then
    advance
    return true
  else return false

/-- Past the next token, which must be the given one. -/
def expect (t : Token) : Composer Unit := do
  if !(← accept t) then failure

/-- Whether the next token is one of the given ones. -/
def isAt (ts : List Token) : Composer Bool := do
  match ← peek with
  | some t => return ts.contains t
  | none => return false

/-- The tag written before a node. -/
def tagAddress? : Composer (Option (Option String × String)) := do
  match ← peek with
  | some (.tag handle suffix) =>
    advance
    return some (handle, suffix)
  | _ => return none

/-- The anchor written before a node. -/
def anchor? : Composer (Option String) := do
  match ← peek with
  | some (.anchor name) =>
    advance
    return some name
  | _ => return none

/-- The full address of a tag. -/
def fullAddress (handles : Handles) : Option String × String → Composer String
  | (none, suffix) => return suffix
  | (some handle, suffix) =>
    match handles.lookup handle with
    | some address => return address ++ suffix
    | none => failure

/-- The anchor and the address of the tag that are written before a node, in either order. -/
def properties (handles : Handles) : Composer (Option String × Option String) := do
  let first ← anchor?
  let tag ← tagAddress?
  let anchor ← if first.isNone && tag.isSome then anchor? else pure first
  match tag with
  | none => return (anchor, none)
  | some t => return (anchor, some (← fullAddress handles t))

/-- The tag of a node: the one written before it, unless that says nothing. -/
def tagOr (address : Option String) (implied : Tag) : Tag :=
  match address with
  | none => implied
  | some a => if a = "!" then implied else .ofAddress a

/-- The tag of a scalar.  A plain one, or one whose written tag says nothing, stands for what its characters say. -/
def scalarTag (address : Option String) (text : String) (plain : Bool) : Tag :=
  tagOr address (if plain || address.isSome then .ofPlain text else .str)

/-- The number of a node that begins here. -/
def reserve : Composer Nat := modifyGet fun s => (s.next, { s with next := s.next + 1 })

/-- Stores a node that is complete. -/
def complete (i : Nat) (n : Node) : Composer Unit := modify fun s => { s with nodes := (i, n) :: s.nodes }

/-- A node without anything to come in it. -/
def add (n : Node) : Composer Nat := do
  let i ← reserve
  complete i n
  return i

/-- Notes that an anchor marks the node that begins here.  An anchor is used once. -/
def mark (anchor : Option String) (i : Nat) : Composer Unit := do
  match anchor with
  | none => return
  | some name =>
    if ((← get).anchors.lookup name).isSome then failure
    modify fun s => { s with anchors := (name, i) :: s.anchors }

/-- The node that an alias stands for. -/
def aliased (name : String) : Composer Nat := do
  match (← get).anchors.lookup name with
  | some i => return i
  | none => failure

mutual

/-- A node.  `block` says whether it may be a block, `indentless` whether it may be a sequence whose entries are indented
no more than the text around it. -/
def node (handles : Handles) (block indentless : Bool) : Nat → Composer Nat
  | 0 => failure
  | fuel + 1 => do
    match ← peek with
    | some (.alias name) =>
      advance
      aliased name
    | _ =>
      let (anchor, address) ← properties handles
      let i ← reserve
      mark anchor i
      complete i (← content handles block indentless (anchor.isSome || address.isSome) address fuel)
      return i

/-- A node behind its properties; with properties nothing has to follow. -/
def content (handles : Handles) (block indentless marked : Bool) (address : Option String) :
    Nat → Composer Node
  | 0 => failure
  | fuel + 1 => do
    let sequence (items : List Nat) : Node := .sequence (tagOr address .seq) items
    let mapping (entries : List (Nat × Nat)) : Node := .mapping (tagOr address .map) entries
    match ← peek with
    | some (.scalar text plain) =>
      advance
      return .scalar (scalarTag address text plain) text
    | some .flowSequenceStart =>
      advance
      return sequence (← flowItems handles true fuel)
    | some .flowMappingStart =>
      advance
      return mapping (← flowEntries handles true fuel)
    | t =>
      if indentless && t = some .blockEntry then
        return sequence (← indentlessItems handles fuel)
      else if block && t = some .blockSequenceStart then do
        advance
        return sequence (← blockItems handles fuel)
      else if block && t = some .blockMappingStart then do
        advance
        return mapping (← blockEntries handles fuel)
      else if marked then return .scalar (scalarTag address "" true) ""
      else failure

/-- The items of a block sequence. -/
def blockItems (handles : Handles) : Nat → Composer (List Nat)
  | 0 => failure
  | fuel + 1 => do
    if ← accept .blockEntry then
      let n ←
        if ← isAt [.blockEntry, .blockEnd] then add .empty else node handles true false fuel
      return n :: (← blockItems handles fuel)
    else
      expect .blockEnd
      return []

/-- The items of a sequence that is not indented. -/
def indentlessItems (handles : Handles) : Nat → Composer (List Nat)
  | 0 => failure
  | fuel + 1 => do
    if ← accept .blockEntry then
      let n ←
        if ← isAt [.blockEntry, .key, .value, .blockEnd] then add .empty
        else node handles true false fuel
      return n :: (← indentlessItems handles fuel)
    else return []

/-- The entries of a block mapping. -/
def blockEntries (handles : Handles) : Nat → Composer (List (Nat × Nat))
  | 0 => failure
  | fuel + 1 => do
    if ← accept .key then
      let k ← blockPart handles fuel
      let v ← if ← accept .value then blockPart handles fuel else add .empty
      return (k, v) :: (← blockEntries handles fuel)
    else
      expect .blockEnd
      return []

/-- A key or a value of a block mapping. -/
def blockPart (handles : Handles) : Nat → Composer Nat
  | 0 => failure
  | fuel + 1 => do
    if ← isAt [.key, .value, .blockEnd] then add .empty else node handles true true fuel

/-- The items of a sequence in brackets. -/
def flowItems (handles : Handles) (first : Bool) : Nat → Composer (List Nat)
  | 0 => failure
  | fuel + 1 => do
    if ← accept .flowSequenceEnd then return []
    if !first then expect .flowEntry
    if ← accept .key then
      let k ← flowPart handles [.value, .flowEntry, .flowSequenceEnd] fuel
      let v ←
        if ← accept .value then flowPart handles [.flowEntry, .flowSequenceEnd] fuel
        else add .empty
      let n ← add (.mapping .map [(k, v)])
      return n :: (← flowItems handles false fuel)
    else if ← accept .flowSequenceEnd then return []
    else
      let n ← node handles false false fuel
      return n :: (← flowItems handles false fuel)

/-- The entries of a mapping in braces. -/
def flowEntries (handles : Handles) (first : Bool) : Nat → Composer (List (Nat × Nat))
  | 0 => failure
  | fuel + 1 => do
    if ← accept .flowMappingEnd then return []
    if !first then expect .flowEntry
    if ← accept .key then
      let k ← flowPart handles [.value, .flowEntry, .flowMappingEnd] fuel
      let v ←
        if ← accept .value then flowPart handles [.flowEntry, .flowMappingEnd] fuel
        else add .empty
      return (k, v) :: (← flowEntries handles false fuel)
    else if ← accept .flowMappingEnd then return []
    else
      let k ← node handles false false fuel
      let v ← add .empty
      return (k, v) :: (← flowEntries handles false fuel)

/-- A key or a value in brackets or braces; before some tokens nothing is written. -/
def flowPart (handles : Handles) (stops : List Token) : Nat → Composer Nat
  | 0 => failure
  | fuel + 1 => do
    if ← isAt stops then add .empty else node handles false false fuel

end

/-! ### Documents -/

/-- The handles that every document knows. -/
def commonHandles : Handles := [("!", "!"), ("!!", Tag.coreAddress)]

/-- The handles that directives define.  There is one version at most, and it is a version 1. -/
def directives : Nat → Bool → Handles → Composer Handles
  | 0, _, _ => failure
  | fuel + 1, versioned, handles => do
    match ← peek with
    | some (.version major) =>
      if versioned || major != 1 then failure
      advance
      directives fuel true handles
    | some (.tagHandle handle uri) =>
      if (handles.lookup handle).isSome then failure
      advance
      directives fuel versioned ((handle, uri) :: handles)
    | some .otherDirective =>
      advance
      directives fuel versioned handles
    | _ => return handles

/-- Whether the next token begins a document that is marked as one. -/
def isMarked : Option Token → Bool
  | some (.version _) => true
  | some (.tagHandle _ _) => true
  | some .otherDirective => true
  | some .documentStart => true
  | _ => false

/-- Past the marks of the document's end. -/
def skipEnds : Composer Unit :=
  modify fun s => { s with tokens := s.tokens.dropWhile (· == .documentEnd) }

/-- The node of the only document of a text, or nothing if it has none. -/
def document (fuel : Nat) : Composer (Option Nat) := do
  let t ← peek
  if t.isNone then return none
  let n ←
    if isMarked t then do
      let handles ← directives fuel false []
      expect .documentStart
      let t ← peek
      if t.isNone || isMarked t || t = some .documentEnd then add .empty
      else node (handles ++ commonHandles) true false fuel
    else node commonHandles true false fuel
  skipEnds
  if (← peek).isSome then failure
  return some n

end Composer

/-- The nodes of a document, and the number of the one that holds all others. -/
structure Graph where
  nodes : Nodes
  root : Nat
  deriving Repr

/-- What a text holds: one document or none, unless it is malformed. -/
def Graph.ofChars? (cs : List Char) : Option (Option Graph) := do
  let tokens ← Token.ofChars? cs
  let (root, composed) ← (Composer.document (4 * tokens.length + 8)).run { tokens }
  return root.map (⟨composed.nodes, ·⟩)

end PromptMarkup.Yaml
