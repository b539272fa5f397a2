/-
Documents.

The tokens of a text make up a document: one node, which is a scalar, a
sequence or a mapping, or repeats an anchored node.  A text with nothing
but comments has no node, and a text with more than one document is
refused.

An alias refers to an anchor by a number.  The number of an anchor is
how many names there are when it is set, so a name that is set again
gets a new number; what an alias stands for is looked up when the whole
document is known.
-/
import RemoteProvision.Yaml.Tokens

namespace RemoteProvision.Yaml

-- =========================================================== types

/-- A node of a document. -/
inductive Node where
  | scalar (style : Style) (tag : Option String) (text : String)
  | sequence (items : List Node)
  | mapping (entries : List (Node × Node))
  | aliasOf (number : Nat)

/-- A document: its node, and the anchored nodes by number. -/
structure Document where
  root : Option Node
  anchored : List (Nat × Node)

/-- The node that a node stands for. -/
def Document.deref (d : Document) : Node → Option Node
  | .aliasOf number => d.anchored.lookup number
  | node => some node

-- ========================================================= reading

/-- The state of reading a document. -/
structure Reading where
  tokens : List Token
  /-- The texts that tag handles stand for. -/
  handles : List (String × String)
  /-- The numbers of anchor names. -/
  names : List (String × Nat)
  /-- For a number the latest anchor that has it, by order of
  beginning. -/
  owners : List (Nat × Nat)
  /-- How many anchors were begun. -/
  begun : Nat
  /-- The anchored nodes, by order of beginning. -/
  nodes : List (Nat × Node)

/-- Reading that may fail. -/
abbrev Read (α : Type) := StateT Reading (Except Fault) α

/-- The token that stands for the end when there are no more. -/
def noToken : Token := ⟨.streamEnd, 0, 0⟩

/-- The next token. -/
def peek : Read Token := do
  return (← get).tokens.headD noToken

/-- Goes behind the next token. -/
def drop : Read Unit :=
  modify fun s => { s with tokens := s.tokens.tail }

/-- A fault at the next token. -/
def refuse {α : Type} (problem : String) : Read α := do
  let t ← peek
  throw ⟨problem, t.line + 1, t.column + 1⟩

/-- An empty scalar. -/
def emptyNode : Node := .scalar .plain none ""

-- ====================================================== properties

/-- The text of a tag. -/
def tagText (handle suffix : String) : Read String := do
  if handle.isEmpty then return suffix
  match (← get).handles.lookup handle with
  | some stem => return stem ++ suffix
  | none => refuse "found undefined tag handle"

/-- An anchor and a tag, in either order. -/
structure Properties where
  anchor : Option String := none
  tag : Option (String × String) := none

/-- Takes an anchor that stands next. -/
def takeAnchor (p : Properties) : Read Properties := do
  match (← peek).kind with
  | .anchor name => drop; return { p with anchor := some name }
  | _ => return p

/-- Takes a tag that stands next. -/
def takeTag (p : Properties) : Read Properties := do
  match (← peek).kind with
  | .tag handle suffix =>
    drop; return { p with tag := some (handle, suffix) }
  | _ => return p

/-- Takes the properties of a node. -/
def takeProperties : Read Properties := do
  match (← peek).kind with
  | .anchor _ => takeTag (← takeAnchor {})
  | _ => takeAnchor (← takeTag {})

/-- Begins an anchor; answers with its place in the order. -/
def beginAnchor (name : String) : Read Nat := do
  let s ← get
  let number := s.names.length
  let names := (name, number) :: s.names.filter (·.1 != name)
  set { s with
    names := names
    owners := (number, s.begun) :: s.owners
    begun := s.begun + 1 }
  return s.begun

/-- Ends an anchor with its node. -/
def endAnchor (place : Option Nat) (node : Node) : Read Node := do
  match place with
  | none => return node
  | some n =>
    modify fun s => { s with nodes := (n, node) :: s.nodes }
    return node

-- =========================================================== nodes

/-- The tag that only says that a node is not plain. -/
def bareTag : String := "!"

/-- A scalar; the bare tag does not count. -/
def scalarNode (style : Style) (tag : Option String)
    (text : String) : Node :=
  .scalar style (if tag = some bareTag then none else tag) text

/-- Whether a token can follow where a node of a block is left out. -/
def endsBlockNode (kind : TokenKind) : Bool :=
  match kind with
  | .key | .value | .blockEnd => true
  | _ => false

mutual

/-- A node.  Blocks are allowed or not, and so are entries at the column
of the key they belong to. -/
def node : Nat → Bool → Bool → Read Node
  | 0, _, _ => refuse "found a document that is too deep"
  | fuel + 1, block, loose => do
    match (← peek).kind with
    | .aliasOf name =>
      match (← get).names.lookup name with
      | none => refuse "unknown anchor"
      | some number => drop; return .aliasOf number
    | _ =>
      let p ← takeProperties
      let tag ← p.tag.mapM fun t => tagText t.1 t.2
      let place ← p.anchor.mapM beginAnchor
      let content ← bare fuel block loose p tag
      endAnchor place content

/-- A node behind its properties. -/
def bare : Nat → Bool → Bool → Properties → Option String → Read Node
  | 0, _, _, _, _ => refuse "found a document that is too deep"
  | fuel + 1, block, loose, p, tag => do
    match (← peek).kind with
    | .scalar style text => drop; return scalarNode style tag text
    | .flowSequenceStart =>
      drop; return .sequence (← flowItems fuel true)
    | .flowMappingStart =>
      drop; return .mapping (← flowEntries fuel true)
    | kind =>
      if loose && kind == .blockEntry then
        return .sequence (← looseItems fuel)
      else if block && kind == .blockSequenceStart then
        drop; return .sequence (← blockItems fuel)
      else if block && kind == .blockMappingStart then
        drop; return .mapping (← blockEntries fuel)
      else if p.anchor.isSome || p.tag.isSome then
        return .scalar .plain tag ""
      else refuse "did not find expected node content"

/-- The entries of a block. -/
def blockItems : Nat → Read (List Node)
  | 0 => refuse "found a document that is too deep"
  | fuel + 1 => do
    match (← peek).kind with
    | .blockEntry =>
      drop
      let kind := (← peek).kind
      let item ←
        if kind == .blockEntry || kind == .blockEnd then pure emptyNode
        else node fuel true false
      return item :: (← blockItems fuel)
    | .blockEnd => drop; return []
    | _ => refuse "did not find expected '-' indicator"

/-- Entries at the column of the key they belong to. -/
def looseItems : Nat → Read (List Node)
  | 0 => refuse "found a document that is too deep"
  | fuel + 1 => do
    match (← peek).kind with
    | .blockEntry =>
      drop
      let kind := (← peek).kind
      let item ←
        if kind == .blockEntry || endsBlockNode kind then pure emptyNode
        else node fuel true false
      return item :: (← looseItems fuel)
    | _ => return []

/-- The keys and values of a block. -/
def blockEntries : Nat → Read (List (Node × Node))
  | 0 => refuse "found a document that is too deep"
  | fuel + 1 => do
    match (← peek).kind with
    | .key =>
      drop
      let key ← blockPart fuel
      let value ←
        if (← peek).kind == .value then do drop; blockPart fuel
        else pure emptyNode
      return (key, value) :: (← blockEntries fuel)
    | .blockEnd => drop; return []
    | _ => refuse "did not find expected key"

/-- A key or a value of a block, which may be left out. -/
def blockPart : Nat → Read Node
  | 0 => refuse "found a document that is too deep"
  | fuel + 1 => do
    if endsBlockNode (← peek).kind then return emptyNode
    else node fuel true true

/-- The entries between square brackets. -/
def flowItems : Nat → Bool → Read (List Node)
  | 0, _ => refuse "found a document that is too deep"
  | fuel + 1, first => do
    if (← peek).kind == .flowSequenceEnd then
      drop; return []
    if !first then
      if (← peek).kind == .flowEntry then drop
      else refuse "did not find expected ',' or ']'"
    match (← peek).kind with
    | .key =>
      drop
      let pair ← flowPair fuel
      return .mapping [pair] :: (← flowItems fuel false)
    | .flowSequenceEnd => drop; return []
    | _ =>
      let item ← node fuel false false
      return item :: (← flowItems fuel false)

/-- A single key and value between square brackets.  A key that is left
out takes the next token with it. -/
def flowPair : Nat → Read (Node × Node)
  | 0 => refuse "found a document that is too deep"
  | fuel + 1 => do
    let kind := (← peek).kind
    let key ←
      if kind == .value || kind == .flowEntry || kind == .flowSequenceEnd
      then do drop; pure emptyNode
      else node fuel false false
    if (← peek).kind == .value then
      drop
      let kind := (← peek).kind
      if kind == .flowEntry || kind == .flowSequenceEnd then
        return (key, emptyNode)
      else return (key, ← node fuel false false)
    else return (key, emptyNode)

/-- The keys and values between braces. -/
def flowEntries : Nat → Bool → Read (List (Node × Node))
  | 0, _ => refuse "found a document that is too deep"
  | fuel + 1, first => do
    if (← peek).kind == .flowMappingEnd then
      drop; return []
    if !first then
      if (← peek).kind == .flowEntry then drop
      else refuse "did not find expected ',' or '\x7d'"
    match (← peek).kind with
    | .key =>
      drop
      let kind := (← peek).kind
      let key ←
        if kind == .value || kind == .flowEntry
            || kind == .flowMappingEnd then pure emptyNode
        else node fuel false false
      let value ←
        if (← peek).kind == .value then do
          drop
          let kind := (← peek).kind
          if kind == .flowEntry || kind == .flowMappingEnd then
            pure emptyNode
          else node fuel false false
        else pure emptyNode
      return (key, value) :: (← flowEntries fuel false)
    | .flowMappingEnd => drop; return []
    | _ =>
      let key ← node fuel false false
      return (key, emptyNode) :: (← flowEntries fuel false)

end

-- ======================================================= documents

/-- What tag handles stand for without directives. -/
def defaultHandles : List (String × String) :=
  [("!", "!"), ("!!", "tag:yaml.org,2002:")]

/-- Takes directives; a version may be given once, and so may each
handle. -/
def directives : Nat → Bool → List (String × String) →
    Read (List (String × String))
  | 0, _, _ => refuse "found a document that is too deep"
  | fuel + 1, versioned, handles => do
    match (← peek).kind with
    | .versionDirective major minor =>
      if versioned then refuse "found duplicate %YAML directive"
      if major != 1 || (minor != 1 && minor != 2) then
        refuse "found incompatible YAML document"
      drop
      directives fuel true handles
    | .tagDirective handle stem =>
      if (handles.lookup handle).isSome then
        refuse "found duplicate %TAG directive"
      drop
      directives fuel versioned ((handle, stem) :: handles)
    | _ => return handles

/-- Whether a token begins a document that is marked, or ends one. -/
def marksDocument (kind : TokenKind) : Bool :=
  match kind with
  | .versionDirective _ _ | .tagDirective _ _ | .documentStart => true
  | _ => false

/-- Whether a document has no content before a token. -/
def endsContent (kind : TokenKind) : Bool :=
  marksDocument kind || kind == .documentEnd || kind == .streamEnd

/-- Takes the markers of a document's end. -/
def dropEnds : Nat → Read Unit
  | 0 => pure ()
  | fuel + 1 => do
    if (← peek).kind == .documentEnd then
      drop
      dropEnds fuel

/-- The content of a document. -/
def content (fuel : Nat) : Read Node := do
  if marksDocument (← peek).kind then
    let handles ← directives fuel false []
    if (← peek).kind != .documentStart then
      refuse "did not find expected <document start>"
    modify fun s => { s with handles := handles ++ defaultHandles }
    drop
    if endsContent (← peek).kind then return emptyNode
    else node fuel true false
  else node fuel true false

/-- The document that all tokens make up. -/
def whole (fuel : Nat) : Read (Option Node) := do
  if (← peek).kind == .streamEnd then return none
  let root ← content fuel
  dropEnds fuel
  if (← peek).kind != .streamEnd then
    if (← peek).kind == .documentStart then
      refuse "found more than one document"
    else refuse "did not find expected <document start>"
  return some root

/-- The document of a text. -/
def Document.read (text : String) : Except Fault Document := do
  let ts ← tokens text
  let s : Reading := ⟨ts.toList, defaultHandles, [], [], 0, []⟩
  let (root, s) ← (whole (4 * ts.size + 8)).run s
  return ⟨root, s.owners.filterMap fun o =>
    (s.nodes.lookup o.2).map fun n => (o.1, n)⟩

end RemoteProvision.Yaml
