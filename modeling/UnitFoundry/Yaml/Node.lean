import UnitFoundry.Yaml.Scalar
import UnitFoundry.Yaml.Token

/-!
# Nodes

A document is a graph of nodes. A node has a tag and is a scalar, a sequence or a mapping; what it
holds are other nodes, given by their numbers, so that a node can stand in several places and even
inside of itself.

* `Node`, `Graph` — nodes, and all those of a document;
* `Composing` — readers that add nodes to a graph;
* `nodeHere` — the node that begins at the next token;
* `documentHere` — the only node of the only document.
-/

namespace UnitFoundry.Yaml

/-- What a node holds; other nodes are given by their numbers. -/
inductive Content where
  | scalar (spelling : Spelling)
  | sequence (items : List Nat)
  | mapping (entries : List (Nat × Nat))
  deriving Repr, DecidableEq

/-- A node. -/
structure Node where
  tag : String
  content : Content
  deriving Repr, DecidableEq

/-- The nodes of a document; the number of a node is its index. -/
abbrev Graph := Array Node

/-- What has been read of a document, as tokens and as nodes. -/
structure Composition where
  scan : Scan
  graph : Graph := #[]
  /-- The beginnings that handles of tags stand for. -/
  handles : List (String × String) := []
  /-- The nodes that have names. -/
  anchors : List (String × Nat) := []

/-- A reader of nodes that may fail. -/
abbrev Composing := EStateM Raised Composition

/-- A reader of tokens among readers of nodes. -/
def scanning (read : Scanning α) : Composing α := fun s =>
  match read.run s.scan with
  | .ok x scan => .ok x { s with scan }
  | .error raised scan => .error raised { s with scan }

/-- The next token. -/
def token : Composing Token := scanning peek

/-- The next token is taken. -/
def drop : Composing Unit := scanning take

/-- The reader that fails because the document breaks the rules. -/
def reject : Composing α := throw unreadable

/-! ## Nodes and their properties -/

/-- The properties of a node: a name and a whole tag. -/
structure Properties where
  anchor : Option String := none
  tag : Option String := none

/-- The whole of a tag. -/
def wholeTag (tag : Tag) : Composing String := do
  match tag.handle with
  | none => pure tag.ending
  | some handle =>
    match lookupEntry handle (← get).handles with
    | some start => pure (start ++ tag.ending)
    | none => reject

/-- The properties that stand here, one of each kind at most, in either order. -/
def propertiesHere : Composing Properties := do
  match ← token with
  | .anchor name => do
    drop
    match ← token with
    | .tag tag => do
      drop
      pure { anchor := some name, tag := some (← wholeTag tag) }
    | _ => pure { anchor := some name }
  | .tag tag => do
    drop
    match ← token with
    | .anchor name => do
      drop
      pure { anchor := some name, tag := some (← wholeTag tag) }
    | _ => do pure { tag := some (← wholeTag tag) }
  | _ => pure {}

/-- A new node; its name must be new. -/
def addNode (anchor : Option String) (node : Node) : Composing Nat := do
  let s ← get
  let number := s.graph.size
  match anchor with
  | none => set { s with graph := s.graph.push node }
  | some name =>
    if (lookupEntry name s.anchors).isSome then reject
    else set { s with graph := s.graph.push node, anchors := s.anchors ++ [(name, number)] }
  pure number

/-- What a node holds is known. -/
def fill (number : Nat) (content : Content) : Composing Unit := modify fun s =>
  { s with graph := s.graph.modify number fun node => { node with content } }

/-- The tag of a collection with given properties. -/
def collectionTag (found : Properties) (usual : String) : String :=
  match found.tag with
  | none => usual
  | some tag => if tag = "!" then usual else tag

/-- A scalar with given properties. A plain one without a tag has the tag that its spelling shows,
and so has any scalar with the tag that is but an exclamation mark. -/
def addScalar (found : Properties) (spelling : Spelling) (plain : Bool) : Composing Nat :=
  let tag := match found.tag with
    | none => if plain then tagOf spelling.text else textTag
    | some tag => if tag = "!" then tagOf spelling.text else tag
  addNode found.anchor { tag, content := .scalar spelling }

/-- The node of an empty place. -/
def addEmpty : Composing Nat := addScalar {} { text := "" } true

/-! ## Nodes -/

mutual

/-- The node that begins at the next token, in at most so many steps. Block collections may begin
here if `block` is set, and a sequence without an indentation of its own if `flat` is set. -/
def nodeHere : Nat → Bool → Bool → Composing Nat
  | 0, _, _ => reject
  | steps + 1, block, flat => do
    match ← token with
    | .reference name => do
      drop
      match lookupEntry name (← get).anchors with
      | some number => pure number
      | none => reject
    | _ => do
      let found ← propertiesHere
      let sequence : Composing Nat :=
        addNode found.anchor { tag := collectionTag found sequenceTag, content := .sequence [] }
      let mapping : Composing Nat :=
        addNode found.anchor { tag := collectionTag found mappingTag, content := .mapping [] }
      match ← token, block, flat with
      | .dash, _, true => do
        let number ← sequence
        fill number (.sequence (← flatItems steps))
        pure number
      | .scalar spelling plain, _, _ => do
        drop
        addScalar found spelling plain
      | .flowSequence, _, _ => do
        let number ← sequence
        drop
        fill number (.sequence (← flowItems steps true))
        pure number
      | .flowMapping, _, _ => do
        let number ← mapping
        drop
        fill number (.mapping (← flowEntries steps true))
        pure number
      | .blockSequence, true, _ => do
        let number ← sequence
        drop
        fill number (.sequence (← blockItems steps))
        pure number
      | .blockMapping, true, _ => do
        let number ← mapping
        drop
        fill number (.mapping (← blockEntries steps))
        pure number
      | _, _, _ =>
        if found.anchor.isSome || found.tag.isSome then addScalar found { text := "" } true
        else reject

/-- The items of a block sequence. -/
def blockItems : Nat → Composing (List Nat)
  | 0 => reject
  | steps + 1 => do
    match ← token with
    | .dash => do
      drop
      let item ← match ← token with
        | .dash | .blockEnd => addEmpty
        | _ => nodeHere steps true false
      pure (item :: (← blockItems steps))
    | .blockEnd => do
      drop
      pure []
    | _ => reject

/-- The items of a sequence without an indentation of its own. -/
def flatItems : Nat → Composing (List Nat)
  | 0 => reject
  | steps + 1 => do
    match ← token with
    | .dash => do
      drop
      let item ← match ← token with
        | .dash | .key | .value | .blockEnd => addEmpty
        | _ => nodeHere steps true false
      pure (item :: (← flatItems steps))
    | _ => pure []

/-- The entries of a block mapping. -/
def blockEntries : Nat → Composing (List (Nat × Nat))
  | 0 => reject
  | steps + 1 => do
    match ← token with
    | .key => do
      drop
      let key ← match ← token with
        | .key | .value | .blockEnd => addEmpty
        | _ => nodeHere steps true true
      let value ← match ← token with
        | .value => do
          drop
          match ← token with
          | .key | .value | .blockEnd => addEmpty
          | _ => nodeHere steps true true
        | _ => addEmpty
      pure ((key, value) :: (← blockEntries steps))
    | .blockEnd => do
      drop
      pure []
    | _ => reject

/-- The items of a flow sequence; `first` is set before the first of them. An entry of a mapping is
a mapping with that entry. -/
def flowItems : Nat → Bool → Composing (List Nat)
  | 0, _ => reject
  | steps + 1, first => do
    match ← token with
    | .flowSequenceEnd => do
      drop
      pure []
    | here => do
      if !first then
        if here = .comma then drop else reject
      match ← token with
      | .flowSequenceEnd => do
        drop
        pure []
      | .key => do
        let number ← addNode none { tag := mappingTag, content := .mapping [] }
        drop
        let key ← match ← token with
          | .value | .comma | .flowSequenceEnd => addEmpty
          | _ => nodeHere steps false false
        let value ← match ← token with
          | .value => do
            drop
            match ← token with
            | .comma | .flowSequenceEnd => addEmpty
            | _ => nodeHere steps false false
          | _ => addEmpty
        fill number (.mapping [(key, value)])
        pure (number :: (← flowItems steps false))
      | _ => do
        let item ← nodeHere steps false false
        pure (item :: (← flowItems steps false))

/-- The entries of a flow mapping; `first` is set before the first of them. A node that is no key has
no value. -/
def flowEntries : Nat → Bool → Composing (List (Nat × Nat))
  | 0, _ => reject
  | steps + 1, first => do
    match ← token with
    | .flowMappingEnd => do
      drop
      pure []
    | here => do
      if !first then
        if here = .comma then drop else reject
      match ← token with
      | .flowMappingEnd => do
        drop
        pure []
      | .key => do
        drop
        let key ← match ← token with
          | .value | .comma | .flowMappingEnd => addEmpty
          | _ => nodeHere steps false false
        let value ← match ← token with
          | .value => do
            drop
            match ← token with
            | .comma | .flowMappingEnd => addEmpty
            | _ => nodeHere steps false false
          | _ => addEmpty
        pure ((key, value) :: (← flowEntries steps false))
      | _ => do
        let key ← nodeHere steps false false
        let value ← addEmpty
        pure ((key, value) :: (← flowEntries steps false))

end

/-! ## Documents -/

/-- The handles that every document has. -/
def usualHandles : List (String × String) := [("!", "!"), ("!!", tagHome)]

/-- The directives before a document, in at most so many steps: a version at most once, which must
begin with one, and every handle at most once. -/
def directives : Nat → Bool → List (String × String) → Composing (List (String × String))
  | 0, _, handles => pure handles
  | steps + 1, versioned, handles => do
    match ← token with
    | .directive content => do
      drop
      match content with
      | .version major =>
        if versioned || major ≠ 1 then reject else directives steps true handles
      | .handle name start =>
        if (lookupEntry name handles).isSome then reject
        else directives steps versioned (handles ++ [(name, start)])
      | .unknown => directives steps versioned handles
    | _ => pure handles

/-- The marks that end documents are passed, in at most so many steps. -/
def passEnds : Nat → Composing Unit
  | 0 => pure ()
  | steps + 1 => do
    if (← token) = .documentEnd then
      drop
      passEnds steps

/-- The beginning of a document that is marked: directives and the mark. -/
def documentMark (steps : Nat) : Composing Unit := do
  let handles ← directives steps false []
  if (← token) ≠ .documentStart then reject
  drop
  let missing := usualHandles.filter fun (name, _) => (lookupEntry name handles).isNone
  modify fun s => { s with handles := handles ++ missing }

/-- The content of a document that is marked. -/
def markedContent (steps : Nat) : Composing Nat := do
  match ← token with
  | .directive _ | .documentStart | .documentEnd | .streamEnd => addEmpty
  | _ => nodeHere steps true false

/-- The only node of the only document, if there is one. -/
def documentHere (steps : Nat) : Composing (Option Nat) := do
  let number ← match ← token with
    | .streamEnd => pure none
    | .directive _ | .documentStart => do
      documentMark steps
      some <$> markedContent steps
    | _ => do
      modify fun s => { s with handles := usualHandles }
      some <$> nodeHere steps true false
  passEnds steps
  if (← token) = .streamEnd then pure number
  else
    documentMark steps
    reject

/-- The graph of a text and the number of its outermost node, if it is not empty. -/
def composeText (text : String) : Except Raised (Graph × Option Nat) :=
  let chars := text.toList
  if chars.all isAllowed then
    match (documentHere (8 * chars.length + 16)).run { scan := { cursor := { rest := chars } } } with
    | .ok root s => .ok (s.graph, root)
    | .error raised _ => .error raised
  else .error unreadable

end UnitFoundry.Yaml
