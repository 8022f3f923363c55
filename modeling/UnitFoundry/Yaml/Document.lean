import UnitFoundry.Yaml.Moment
import UnitFoundry.Yaml.Node

/-!
# Documents

The datum of a document is made from its graph of nodes. A node is made once, wherever it stands. A
collection is first there and filled later, in the order in which collections were met; so the first
fault is that of the collection nearest to the root.

* `scalarDatum` — the datum of a scalar with a tag;
* `Building`, `begin`, `fillNext` — collections that are filled step by step;
* `readDocument` — the datum of a text.
-/

namespace UnitFoundry.Yaml

open Text

/-! ## Scalars -/

/-- The datum of a scalar whose tag has a name among those of the language; none if there is no such
tag. -/
def scalarDatum (name : String) (spelling : Spelling) : Except Raised Datum :=
  let s := spelling.text
  match name with
  | "null" => .ok .null
  | "bool" => .bool <$> readFlag s
  | "int" => .whole <$> readInteger s
  | "float" => .real <$> readReal s
  | "binary" =>
    match readBase64? s with
    | some data => .ok (.bytes data)
    | none => .error unreadable
  | "timestamp" =>
    match readMoment? (withoutFinalFeed s.toList) with
    | some text => Moment.toDatum <$> Moment.ofText text
    | none =>
      .error { kind := "AttributeError"
               message := "'NoneType' object has no attribute 'groupdict'" }
  | "str" =>
    match spelling.torn with
    | some shown => .ok (.other "str" "str" shown)
    | none => .ok (.text s)
  | _ => .error unreadable

/-- The names of the tags of collections, among those of the language. -/
def collectionNames : List String := ["seq", "map", "set", "omap", "pairs"]

/-! ## Building -/

/-- What a node has been made into; other nodes are given by their numbers. -/
inductive Shape where
  /-- A collection that has not been filled. -/
  | empty
  | done (datum : Datum)
  | list (items : List Nat)
  | mapping (entries : List (Datum × Nat))
  | set (items : List Datum)
  | pairs (items : List (Nat × Nat))

/-- The nodes, what has been made of them and the collections that are to be filled, in order. -/
structure Building where
  graph : Graph
  shapes : List (Nat × Shape) := []
  waiting : List Nat := []

/-- A step that may fail. -/
abbrev Build := EStateM Raised Building

/-- A node by its number. -/
def nodeAt (number : Nat) : Build Node := do
  match (← get).graph[number]? with
  | some node => pure node
  | none => throw unreadable

/-- What has been made of a node. -/
def shapeOf? (number : Nat) : Build (Option Shape) := do
  pure (((← get).shapes.find? (·.1 = number)).map (·.2))

/-- A node has been made into a shape. -/
def setShape (number : Nat) (shape : Shape) : Build Unit := modify fun s =>
  { s with shapes := (number, shape) :: s.shapes }

/-- The name of a tag among those of the language; empty for other tags. -/
def tagName (tag : String) : String :=
  if tagHome.toList.isPrefixOf tag.toList then String.ofList (tag.toList.drop tagHome.length) else ""

/-- The failure of a search that goes in a circle. -/
def endless : Raised := { kind := "RecursionError", message := "maximum recursion depth exceeded" }

/-- The spelling of a node that is read as a scalar: that of a mapping is found under an equals sign. The
search goes in a circle if it takes more steps than there are nodes. -/
def spellingOf : Nat → Nat → Build Spelling
  | 0, _ => throw endless
  | steps + 1, number => do
    match (← nodeAt number).content with
    | .scalar spelling => pure spelling
    | .sequence _ => throw unreadable
    | .mapping entries => do
      let signs ← entries.filterM fun (key, _) => do pure ((← nodeAt key).tag = valueTag)
      match signs with
      | (_, value) :: _ => spellingOf steps value
      | [] => throw unreadable

/-- A node is made: a scalar at once, while a collection has to wait until it is filled. -/
def begin (number : Nat) : Build Unit := do
  match ← shapeOf? number with
  | some _ => pure ()
  | none => do
    let name := tagName (← nodeAt number).tag
    if collectionNames.contains name then
      setShape number .empty
      modify fun s => { s with waiting := s.waiting ++ [number] }
    else if ["null", "bool", "int", "float", "binary", "timestamp", "str"].contains name then
      let spelling ← spellingOf ((← get).graph.size + 1) number
      setShape number (.done (← ofExcept (scalarDatum name spelling)))
    else throw unreadable

/-- A key is made, which must be no collection. -/
def beginKey (number : Nat) : Build Datum := do
  begin number
  match ← shapeOf? number with
  | some (.done datum) => pure datum
  | _ => throw unreadable

/-! ## Mappings inside mappings -/

/-- The entries of a mapping after those that its merge keys stand for have been put before its own;
an equals sign becomes a text. In at most so many steps. -/
def mergedEntries : Nat → Nat → Build (List (Nat × Nat))
  | 0, _ => throw unreadable
  | steps + 1, number => do
    match (← nodeAt number).content with
    | .mapping entries => do
      let isMerge (entry : Nat × Nat) : Build Bool := do pure ((← nodeAt entry.1).tag = mergeTag)
      let merges ← entries.filterM isMerge
      let own ← entries.filterM fun entry => do pure (!(← isMerge entry))
      for (key, _) in own do
        if (← nodeAt key).tag = valueTag then
          modify fun s => { s with graph := s.graph.modify key fun node => { node with tag := textTag } }
      let keep (entries : List (Nat × Nat)) : Build Unit := modify fun s =>
        { s with graph := s.graph.modify number fun node => { node with content := .mapping entries } }
      keep own
      let found ← merges.mapM fun (_, value) => do
        match (← nodeAt value).content with
        | .mapping _ => mergedEntries steps value
        | .sequence items => do
          let several ← items.mapM (mergedEntries steps)
          pure several.reverse.flatten
        | .scalar _ => throw unreadable
      let all := found.flatten ++ own
      keep all
      pure all
    | _ => throw unreadable

/-! ## Collections -/

/-- The entries of a mapping with their keys made. A key that comes again replaces the value of the
earlier one. -/
def fillEntries : List (Nat × Nat) → List (Datum × Nat) → Build (List (Datum × Nat))
  | [], found => pure found
  | (key, value) :: entries, found => do
    let key ← beginKey key
    begin value
    let found := if found.any fun (k, _) => k.sameKey key then
        found.map fun (k, v) => if k.sameKey key then (k, value) else (k, v)
      else found ++ [(key, value)]
    fillEntries entries found

/-- The only entry of each of several mappings. -/
def fillPairs : List Nat → Build (List (Nat × Nat))
  | [] => pure []
  | item :: items => do
    match (← nodeAt item).content with
    | .mapping [(key, value)] => do
      begin key
      begin value
      pure ((key, value) :: (← fillPairs items))
    | _ => throw unreadable

/-- A collection is filled. -/
def fillCollection (number : Nat) : Build Unit := do
  let node ← nodeAt number
  let steps := (← get).graph.size + 1
  let name := tagName node.tag
  if name = "seq" then
    match node.content with
    | .sequence items => do
      items.forM begin
      setShape number (.list items)
    | _ => throw unreadable
  else if name = "map" || name = "set" then
    let entries ← fillEntries (← mergedEntries steps number) []
    setShape number (if name = "map" then .mapping entries else .set (entries.map (·.1)))
  else
    match node.content with
    | .sequence items => do setShape number (.pairs (← fillPairs items))
    | _ => throw unreadable

/-- The collections that wait are filled, in at most so many steps. -/
def fillAll : Nat → Build Unit
  | 0 => pure ()
  | steps + 1 => do
    match (← get).waiting with
    | [] => pure ()
    | number :: waiting => do
      modify fun s => { s with waiting }
      fillCollection number
      fillAll steps

/-! ## The datum -/

/-- A mapping where it stands inside of itself. -/
def mappingAgain : Datum := .other "dict" "dict" "\x7b...\x7d"

/-- Whether a datum is a mapping that it stands inside of. -/
def isMappingAgain : Datum → Bool
  | .other kind _ _ => kind = "dict"
  | _ => false

/-- How a shape is shown inside of itself. -/
def Shape.inside : Shape → Datum
  | .mapping _ => mappingAgain
  | _ => .other "list" "list" "[...]"

/-- The data of nodes by their numbers, as far as they have been found. -/
abbrev Found := List (Nat × Datum)

/-- The data of several nodes, one after the other. -/
def datumsOf (datumOf : Nat → StateM Found Datum) : List Nat → StateM Found (List Datum)
  | [] => pure []
  | number :: numbers => do
    let datum ← datumOf number
    pure (datum :: (← datumsOf datumOf numbers))

/-- The datum of a node that stands inside of others, nested at most so deep. -/
def datumOf (shapes : List (Nat × Shape)) : Nat → List Nat → Nat → StateM Found Datum
  | 0, _, _ => pure .null
  | depth + 1, around, number => do
    match (← get).find? (·.1 = number) with
    | some (_, datum) => pure datum
    | none =>
      let shape := ((shapes.find? (·.1 = number)).map (·.2)).getD .empty
      if around.contains number then pure shape.inside
      else
        let inner := datumOf shapes depth (number :: around)
        let datum ← match shape with
          | .empty => pure .null
          | .done datum => pure datum
          | .list items => Datum.list <$> datumsOf inner items
          | .set items => pure (Datum.set items)
          | .mapping entries => do
            let values ← datumsOf inner (entries.map (·.2))
            pure (Datum.mapping ((entries.map (·.1)).zip values))
          | .pairs items => do
            let keys ← datumsOf inner (items.map (·.1))
            let values ← datumsOf inner (items.map (·.2))
            pure (Datum.list ((keys.zip values).map fun (key, value) => .tuple [key, value]))
        modify ((number, datum) :: ·)
        pure datum

/-- The datum of the node with a number. -/
def buildFrom (graph : Graph) (root : Nat) : Except Raised Datum :=
  match (do begin root; fillAll (graph.size + 1) : Build Unit).run { graph } with
  | .ok _ s => .ok ((datumOf s.shapes (graph.size + 1) [] root).run []).1
  | .error raised _ => .error raised

/-- The datum of a document; an empty one is null. -/
def readDocument (text : String) : Except Raised Datum := do
  match ← composeText text with
  | (_, none) => pure .null
  | (graph, some root) => buildFrom graph root

end UnitFoundry.Yaml
