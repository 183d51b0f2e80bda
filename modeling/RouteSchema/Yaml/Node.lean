import RouteSchema.Yaml.Token
import RouteSchema.Yaml.Tag

/-!
# Nodes of YAML

The second stage of reading YAML 1.1: the tokens of a text as a tree of tagged scalars, sequences
and mappings. Aliases are replaced by the nodes they name, which must not be the ones they stand in,
and a plain scalar without a tag gets the tag that its text implies. A text holds one document at
most.

* `Node.ofTokens` reads the tree.
-/

namespace RouteSchema.Yaml

/-- A node with its tag. -/
inductive Node
  | scalar (tag : String) (text : String)
  | sequence (tag : String) (items : List Node)
  | mapping (tag : String) (entries : List (Node × Node))
  deriving Inhabited, Repr

/-- The tag of a node. -/
def Node.tag : Node → String
  | .scalar tag _ | .sequence tag _ | .mapping tag _ => tag

/-- The state of the reader: the tokens left, the nodes with names, the names given to nodes that
are not complete yet, and the beginnings that the handles of tags stand for. -/
structure Reader where
  tokens : List Token
  anchors : Assoc String Node
  begun : List String
  handles : Assoc String String

/-- Steps of the reader. -/
abbrev Read := StateT Reader (Except Fault)

/-- The next token. -/
def peek : Read Token := do return ((← get).tokens.head?).getD .streamEnd

/-- Drops the next token. -/
def drop : Read Unit := modify fun r => { r with tokens := r.tokens.drop 1 }

/-- Drops the next token if it is the given one, and says whether it was. -/
def accept (t : Token) : Read Bool := do
  if (← peek) == t then
    drop
    return true
  else return false

/-- Refuses the text. -/
def refuse {α : Type} : Read α := throw .malformed

/-- Drops the given token or refuses the text. -/
def expect (t : Token) : Read Unit := do
  if !(← accept t) then refuse

/-- The node of nothing. -/
def nothing : Node := .scalar Tag.null ""

/-- What stands before a node: a name and a tag. -/
structure Properties where
  anchor : Option String
  tag : Option String

/-- The full form of a tag. -/
def fullTag (handle : Option String) (suffix : String) : Read String := do
  match handle with
  | none => return suffix
  | some h =>
    match Assoc.get? (← get).handles h with
    | some start => return start ++ suffix
    | none => refuse

/-- A tag, if one stands here. -/
def tag? : Read (Option String) := do
  match ← peek with
  | .tag handle suffix =>
    drop
    return some (← fullTag handle suffix)
  | _ => return none

/-- A name, if one stands here. -/
def anchor? : Read (Option String) := do
  match ← peek with
  | .anchor name =>
    drop
    return some name
  | _ => return none

/-- The properties of a node, in either order. -/
def properties : Read Properties := do
  match ← anchor? with
  | some a => return ⟨some a, ← tag?⟩
  | none =>
    match ← tag? with
    | some t => return ⟨← anchor?, some t⟩
    | none => return ⟨none, none⟩

/-- Notes that a node with a name begins. A name is given once. -/
def begin? (anchor : Option String) : Read Unit := do
  match anchor with
  | some a =>
    let r ← get
    if r.begun.contains a then refuse
    else set { r with begun := a :: r.begun }
  | none => return ()

/-- Notes that a node is complete. -/
def complete (anchor : Option String) (node : Node) : Read Node := do
  match anchor with
  | some a => modify fun r => { r with anchors := Assoc.insert r.anchors a node }
  | none => pure ()
  return node

/-- The tag of a collection. -/
def collectionTag (given : Option String) (usual : String) : String :=
  match given with
  | some t => if t == "!" then usual else t
  | none => usual

/-- The tag of a scalar. -/
def scalarTag (given : Option String) (text : String) (plain : Bool) : String :=
  match given with
  | some t => if t == "!" then Tag.ofPlain text else t
  | none => if plain then Tag.ofPlain text else Tag.str

/-- Which tokens may begin a node besides those of flow collections and scalars. -/
inductive Context
  | flow
  | block
  /-- In a block mapping, where a sequence need not be indented. -/
  | blockOrIndentless
  deriving DecidableEq

/-- A node of which there is nothing but a name or a tag. -/
def propertiesOnly (p : Properties) : Read Node :=
  if p.anchor.isNone && p.tag.isNone then refuse
  else complete p.anchor (.scalar (scalarTag p.tag "" true) "")

mutual

/-- A node. The first argument bounds the depth of the recursion. -/
def node : Nat → Context → Read Node
  | 0, _ => refuse
  | fuel + 1, context => do
    match ← peek with
    | .alias name =>
      drop
      match Assoc.get? (← get).anchors name with
      | some n => return n
      | none => if (← get).begun.contains name then throw .cyclic else refuse
    | _ =>
      let p ← properties
      begin? p.anchor
      let sequence (items : List Node) := Node.sequence (collectionTag p.tag Tag.seq) items
      let mapping (es : List (Node × Node)) := Node.mapping (collectionTag p.tag Tag.map) es
      match ← peek with
      | .blockEntry =>
        if context == .blockOrIndentless then
          complete p.anchor (sequence (← indentlessItems fuel))
        else propertiesOnly p
      | .scalar text plain =>
        drop
        complete p.anchor (.scalar (scalarTag p.tag text plain) text)
      | .flowSequenceStart =>
        drop
        complete p.anchor (sequence (← flowItems fuel true))
      | .flowMappingStart =>
        drop
        complete p.anchor (mapping (← flowEntries fuel true))
      | .blockSequenceStart =>
        if context == .flow then propertiesOnly p
        else
          drop
          complete p.anchor (sequence (← blockItems fuel))
      | .blockMappingStart =>
        if context == .flow then propertiesOnly p
        else
          drop
          complete p.anchor (mapping (← blockEntries fuel))
      | _ => propertiesOnly p

/-- A node, or nothing in front of one of the given tokens. -/
def nodeUnless : Nat → Context → List Token → Read Node
  | 0, _, _ => refuse
  | fuel + 1, context, stops => do
    if stops.contains (← peek) then return nothing else node fuel context

/-- The items of a block sequence. -/
def blockItems : Nat → Read (List Node)
  | 0 => refuse
  | fuel + 1 => do
    if ← accept .blockEntry then
      let item ← nodeUnless fuel .block [.blockEntry, .blockEnd]
      return item :: (← blockItems fuel)
    else
      expect .blockEnd
      return []

/-- The items of a sequence that is not indented. -/
def indentlessItems : Nat → Read (List Node)
  | 0 => refuse
  | fuel + 1 => do
    if ← accept .blockEntry then
      let item ← nodeUnless fuel .block [.blockEntry, .key, .value, .blockEnd]
      return item :: (← indentlessItems fuel)
    else return []

/-- The entries of a block mapping. -/
def blockEntries : Nat → Read (List (Node × Node))
  | 0 => refuse
  | fuel + 1 => do
    let stops : List Token := [.key, .value, .blockEnd]
    if ← accept .key then
      let k ← nodeUnless fuel .blockOrIndentless stops
      let v ← if ← accept .value then nodeUnless fuel .blockOrIndentless stops else pure nothing
      return (k, v) :: (← blockEntries fuel)
    else
      expect .blockEnd
      return []

/-- The items of a flow sequence; `first` holds in front of the first one. -/
def flowItems : Nat → Bool → Read (List Node)
  | 0, _ => refuse
  | fuel + 1, first => do
    if ← accept .flowSequenceEnd then return []
    else
      if !first then expect .flowEntry
      if ← accept .key then
        let k ← nodeUnless fuel .flow [.value, .flowEntry, .flowSequenceEnd]
        let v ← if ← accept .value then nodeUnless fuel .flow [.flowEntry, .flowSequenceEnd]
          else pure nothing
        return .mapping Tag.map [(k, v)] :: (← flowItems fuel false)
      else if ← accept .flowSequenceEnd then return []
      else
        let item ← node fuel .flow
        return item :: (← flowItems fuel false)

/-- The entries of a flow mapping; `first` holds in front of the first one. -/
def flowEntries : Nat → Bool → Read (List (Node × Node))
  | 0, _ => refuse
  | fuel + 1, first => do
    if ← accept .flowMappingEnd then return []
    else
      if !first then expect .flowEntry
      if ← accept .key then
        let k ← nodeUnless fuel .flow [.value, .flowEntry, .flowMappingEnd]
        let v ← if ← accept .value then nodeUnless fuel .flow [.flowEntry, .flowMappingEnd]
          else pure nothing
        return (k, v) :: (← flowEntries fuel false)
      else if ← accept .flowMappingEnd then return []
      else
        let k ← node fuel .flow
        return (k, nothing) :: (← flowEntries fuel false)

end

/-- The handles that need no directive. -/
def usualHandles : Assoc String String := [("!", "!"), ("!!", Tag.standard)]

/-- The directives in front of a document: the handles they define. There is one version at most,
and its major number is 1. -/
def directives : Nat → Bool → Assoc String String → Read (Assoc String String)
  | 0, _, _ => refuse
  | fuel + 1, versioned, handles => do
    match ← peek with
    | .versionDirective major _ =>
      drop
      if versioned || major != 1 then refuse else directives fuel true handles
    | .tagDirective handle start =>
      drop
      if Assoc.contains handles handle then refuse
      else directives fuel versioned (Assoc.insert handles handle start)
    | .otherDirective =>
      drop
      directives fuel versioned handles
    | _ => return Assoc.overlay usualHandles handles

/-- Drops the ends of documents that stand here. -/
def dropEnds : Nat → Read Unit
  | 0 => refuse
  | fuel + 1 => do
    if ← accept .documentEnd then dropEnds fuel

/-- Whether a document has no content in front of a token. -/
def endsDocument : Token → Bool
  | .versionDirective _ _ | .tagDirective _ _ | .otherDirective => true
  | .documentStart | .documentEnd | .streamEnd => true
  | _ => false

/-- The document of a text, if there is one; a second one is refused. -/
def document (fuel : Nat) : Read (Option Node) := do
  let first ← peek
  let found ←
    if !(endsDocument first && first != .documentEnd) then
      modify fun r => { r with handles := usualHandles }
      some <$> node fuel .block
    else
      if first == .streamEnd then pure none
      else
        let handles ← directives fuel false []
        expect .documentStart
        modify fun r => { r with handles }
        if endsDocument (← peek) then pure (some nothing)
        else some <$> node fuel .block
  dropEnds fuel
  expect .streamEnd
  return found

/-- The tree of the tokens of a text. -/
def Node.ofTokens (ts : List Token) : Except Fault (Option Node) :=
  ((document (4 * ts.length + 8)).run ⟨ts, [], [], []⟩).map Prod.fst

end RouteSchema.Yaml
