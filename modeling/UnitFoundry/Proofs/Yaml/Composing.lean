import UnitFoundry.Proofs.Yaml.Scanning

/-!
# Documents that cannot be read

The readers of nodes read one another, with fewer steps each time; so what holds of all of them with some steps
holds of each with one more. A document is a node, and its datum is made of its scalars. So the failures of single
scalars and of single tokens are all the failures that there are.

* `ReadsNodes`, `readsNodes` — the readers of nodes, together;
* `yields_composeText` — the nodes of a text are there, or it cannot be read;
* `yields_readDocument` — **and so is its datum**.
-/

namespace UnitFoundry.Yaml

open Text

/-! ## Nodes -/

@[grind ←]
theorem reads_scanning {α : Type} {read : Scanning α} (h : Reads read) : Reads (scanning read) := by
  intro s why t hread
  unfold scanning at hread
  split at hread
  · cases hread
  · cases hread
    exact h _ _ _ ‹_›

@[grind ←]
theorem reads_token : Reads token := reads_scanning reads_peek

@[grind ←]
theorem reads_drop : Reads drop := reads_scanning reads_take

@[grind ←]
theorem reads_reject {α : Type} : Reads (reject : Composing α) := .throw .rules

@[grind ←]
theorem reads_wholeTag (tag : Tag) : Reads (wholeTag tag) := by
  unfold wholeTag
  grind

@[grind ←]
theorem reads_propertiesHere : Reads propertiesHere := by
  unfold propertiesHere
  refine reads_token.bind fun first => ?_
  split
  · refine reads_drop.bind fun _ => reads_token.bind fun second => ?_
    grind
  · refine reads_drop.bind fun _ => reads_token.bind fun second => ?_
    grind
  · exact .pure _

@[grind ←]
theorem reads_addNode (anchor : Option String) (node : Node) : Reads (addNode anchor node) := by
  unfold addNode
  grind

@[grind ←]
theorem reads_fill (number : Nat) (content : Content) : Reads (fill number content) := .modify _

@[grind ←]
theorem reads_addScalar (found : Properties) (spelling : Spelling) (plain : Bool) :
    Reads (addScalar found spelling plain) := reads_addNode _ _

@[grind ←]
theorem reads_addEmpty : Reads addEmpty := reads_addScalar _ _ _

/-- All the readers of nodes, which read one another. -/
structure ReadsNodes (steps : Nat) : Prop where
  node : ∀ block flat, Reads (nodeHere steps block flat)
  blockItems : Reads (blockItems steps)
  flatItems : Reads (flatItems steps)
  blockEntries : Reads (blockEntries steps)
  flowItems : ∀ first, Reads (flowItems steps first)
  flowEntries : ∀ first, Reads (flowEntries steps first)

section

-- where several branches go on alike, what follows them has a name, and is looked at once
variable {steps : Nat} (h : ReadsNodes steps)
include h

theorem ReadsNodes.next_node (block flat : Bool) : Reads (nodeHere (steps + 1) block flat) := by
  obtain ⟨hnode, hblock, hflat, hentries, hflow, hflowEntries⟩ := h
  unfold nodeHere
  refine reads_token.bind fun first => ?_
  split
  · grind
  · refine reads_propertiesHere.bind fun found => ?_
    dsimp only
    refine reads_token.bind fun here => ?_
    split
    · grind
    · grind
    · grind
    · grind
    · grind
    · grind
    · grind

theorem ReadsNodes.next_blockItems : Reads (Yaml.blockItems (steps + 1)) := by
  obtain ⟨hnode, hblock, hflat, hentries, hflow, hflowEntries⟩ := h
  unfold Yaml.blockItems
  grind

theorem ReadsNodes.next_flatItems : Reads (Yaml.flatItems (steps + 1)) := by
  obtain ⟨hnode, hblock, hflat, hentries, hflow, hflowEntries⟩ := h
  unfold Yaml.flatItems
  grind

theorem ReadsNodes.next_blockEntries : Reads (Yaml.blockEntries (steps + 1)) := by
  obtain ⟨hnode, hblock, hflat, hentries, hflow, hflowEntries⟩ := h
  unfold Yaml.blockEntries
  refine reads_token.bind fun first => ?_
  split
  · refine reads_drop.bind fun _ => reads_token.bind fun second => ?_
    extract_lets withKey
    have hkey (key : Nat) : Reads (withKey key) := by grind
    clear_value withKey
    grind
  · grind
  · exact reads_reject

theorem ReadsNodes.next_flowItems (first : Bool) : Reads (Yaml.flowItems (steps + 1) first) := by
  obtain ⟨hnode, hblock, hflat, hentries, hflow, hflowEntries⟩ := h
  unfold Yaml.flowItems
  refine reads_token.bind fun here => ?_
  split
  · grind
  · extract_lets next
    have hnext (u : PUnit) : Reads (next u) := by
      refine reads_token.bind fun second => ?_
      split
      · grind
      · refine (reads_addNode _ _).bind fun number => reads_drop.bind fun _ => reads_token.bind fun third => ?_
        extract_lets withKey
        have hkey (key : Nat) : Reads (withKey key) := by
          refine reads_token.bind fun fourth => ?_
          grind
        clear_value withKey
        grind
      · grind
    clear_value next
    grind

theorem ReadsNodes.next_flowEntries (first : Bool) : Reads (Yaml.flowEntries (steps + 1) first) := by
  obtain ⟨hnode, hblock, hflat, hentries, hflow, hflowEntries⟩ := h
  unfold Yaml.flowEntries
  refine reads_token.bind fun here => ?_
  split
  · grind
  · extract_lets withKey next
    have hkey (key : Nat) : Reads (withKey key) := by grind
    clear_value withKey
    have hnext (u : PUnit) : Reads (next u) := by
      refine reads_token.bind fun second => ?_
      grind
    clear_value next
    grind

end

/-- Every reader of nodes fails only because the text cannot be read: one more step adds only what is read here. -/
theorem readsNodes (steps : Nat) : ReadsNodes steps := by
  induction steps with
  | zero =>
    exact ⟨fun _ _ => reads_reject, reads_reject, reads_reject, reads_reject, fun _ => reads_reject,
      fun _ => reads_reject⟩
  | succ steps ih =>
    exact ⟨ih.next_node, ih.next_blockItems, ih.next_flatItems, ih.next_blockEntries, ih.next_flowItems,
      ih.next_flowEntries⟩

/-! ## Documents -/

@[grind ←]
theorem reads_nodeHere (steps : Nat) (block flat : Bool) : Reads (nodeHere steps block flat) :=
  (readsNodes steps).node block flat

@[grind ←]
theorem reads_directives (steps : Nat) (versioned : Bool) (handles : List (String × String)) :
    Reads (directives steps versioned handles) := by
  induction steps generalizing versioned handles with
  | zero => exact .pure _
  | succ steps ih =>
    unfold directives
    grind

@[grind ←]
theorem reads_passEnds (steps : Nat) : Reads (passEnds steps) := by
  induction steps with
  | zero => exact .pure _
  | succ steps ih =>
    unfold passEnds
    grind

@[grind ←]
theorem reads_documentMark (steps : Nat) : Reads (documentMark steps) := by
  unfold documentMark
  grind

@[grind ←]
theorem reads_markedContent (steps : Nat) : Reads (markedContent steps) := by
  unfold markedContent
  grind

@[grind ←]
theorem reads_documentHere (steps : Nat) : Reads (documentHere steps) := by
  unfold documentHere
  refine reads_token.bind fun first => ?_
  extract_lets ending
  have hending (number : Option Nat) : Reads (ending number) := by grind
  clear_value ending
  grind

theorem yields_composeText (text : String) : Yields (composeText text) := by
  intro why h
  unfold composeText at h
  dsimp only at h
  split at h
  · split at h
    · cases h
    · cases h
      exact reads_documentHere _ _ _ _ ‹_›
  · cases h
    exact .rules

/-! ## Data -/

@[grind ←]
theorem reads_nodeAt (number : Nat) : Reads (nodeAt number) := by
  unfold nodeAt
  grind

@[grind ←]
theorem reads_shapeOf (number : Nat) : Reads (shapeOf? number) := Reads.get.bind fun _ => .pure _

@[grind ←]
theorem reads_setShape (number : Nat) (shape : Shape) : Reads (setShape number shape) := .modify _

@[grind ←]
theorem reads_spellingOf (steps number : Nat) : Reads (spellingOf steps number) := by
  induction steps generalizing number with
  | zero => exact .throw (.stray .circle)
  | succ steps ih =>
    unfold spellingOf
    grind

@[grind ←]
theorem reads_begin (number : Nat) : Reads (begin number) := by
  unfold begin
  grind

@[grind ←]
theorem reads_beginKey (number : Nat) : Reads (beginKey number) := by
  unfold beginKey
  grind

@[grind ←]
theorem reads_mergedEntries (steps number : Nat) : Reads (mergedEntries steps number) := by
  induction steps generalizing number with
  | zero => exact .throw .rules
  | succ steps ih =>
    unfold mergedEntries
    refine (reads_nodeAt number).bind fun node => ?_
    split
    · dsimp only
      refine .bind (by grind) fun merges => .bind (by grind) fun own => .bind (by grind) fun _ => ?_
      refine (Reads.modify _).bind fun _ => .bind (by grind) fun found => ?_
      grind
    · grind

@[grind ←]
theorem reads_fillEntries (entries : List (Nat × Nat)) (found : List (Datum × Nat)) :
    Reads (fillEntries entries found) := by
  induction entries generalizing found with
  | nil => exact .pure _
  | cons entry entries ih =>
    unfold fillEntries
    grind

@[grind ←]
theorem reads_fillPairs (items : List Nat) : Reads (fillPairs items) := by
  induction items with
  | nil => exact .pure _
  | cons item items ih =>
    unfold fillPairs
    grind

@[grind ←]
theorem reads_fillCollection (number : Nat) : Reads (fillCollection number) := by
  unfold fillCollection
  grind

@[grind ←]
theorem reads_fillAll (steps : Nat) : Reads (fillAll steps) := by
  induction steps with
  | zero => exact .pure _
  | succ steps ih =>
    unfold fillAll
    grind

theorem yields_buildFrom (graph : Graph) (root : Nat) : Yields (buildFrom graph root) := by
  have hbuild : Reads (do begin root; fillAll (graph.size + 1) : Build Unit) := by grind
  intro why h
  unfold buildFrom at h
  split at h
  · cases h
  · cases h
    exact hbuild _ _ _ ‹_›

/-- **A text has a datum, or it cannot be read.** -/
theorem yields_readDocument (text : String) : Yields (readDocument text) := by
  refine (yields_composeText text).bind fun (graph, root) => ?_
  cases root with
  | none => exact .pure _
  | some root => exact yields_buildFrom graph root

end UnitFoundry.Yaml
