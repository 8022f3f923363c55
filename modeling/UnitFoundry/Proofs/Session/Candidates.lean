import UnitFoundry.Proofs.ResourcePath.Agreement
import UnitFoundry.Proofs.ResourcePath.Listing
import UnitFoundry.Proofs.Session.Reachable

/-!
# What is listed for a package

A listing has the files that were put into memory at the location; then, for the class path, the artifacts of the
active contexts in the order of the registry; and then the files of the resource path, place by place. They are all
restricted by the same test. Only a directory for which the path of the package is too long ends the listing early.

* `Placed`, `Session.InMemory` — the files in memory, with the places where they were put;
* `Session.filing` — what is kept about them by every operation;
* `Reachable.candidates_iff` — **the listing of a package**, and when it is complete.
-/

namespace UnitFoundry

open Script Text

/-! ## Files in memory -/

/-- A file put into memory, and where. -/
structure Placed where
  location : Location
  package : String
  relativeName : String
  file : File

/-- The entry of a file in memory. -/
def Placed.entry (f : Placed) : String × File :=
  (UnitName.overlayUri f.location.label f.package f.relativeName, f.file)

/-- Files that have been put, and then one more. -/
theorem Placed.exists_setEntry (placed : List Placed) (location : Location) (package relativeName : String)
    (file : File) : ∃ after : List Placed,
      setEntry (UnitName.overlayUri location.label package relativeName) file (placed.map entry) = after.map entry := by
  induction placed with
  | nil => exact ⟨[⟨location, package, relativeName, file⟩], rfl⟩
  | cons first placed ih =>
    rw [List.map_cons, setEntry]
    split
    · rename_i hsame
      refine ⟨{ first with file } :: placed, ?_⟩
      rw [← hsame]
      rfl
    · obtain ⟨after, hafter⟩ := ih
      exact ⟨first :: after, by rw [hafter, List.map_cons]⟩

/-- The address of a file tells where it was put. -/
theorem beginsWith_overlayUri (location other : Location) (package relativeName : String) :
    beginsWith (UnitName.overlayUri location.label package relativeName)
      (UnitName.uriScheme ++ ":///" ++ other.label ++ "/") = true ↔ location = other := by
  obtain ⟨rest, hrest⟩ : ∃ rest, (UnitName.overlayUri location.label package relativeName).toList =
      (UnitName.uriScheme ++ ":///").toList ++ (location.label.toList ++ '/' :: rest) := by
    unfold UnitName.overlayUri
    dsimp only
    rw [String.toList_append, String.toList_intercalate]
    split
    · exact ⟨_, rfl⟩
    · exact ⟨_, rfl⟩
  rw [beginsWith_iff, hrest]
  simp only [String.toList_append, List.append_assoc, List.append_cancel_left_eq]
  cases location <;> cases other <;> simp [Location.label]

namespace Session

variable {s t : Session} {placed : List Placed} {artifacts : List File}

/-- The files in memory: those put there, and the artifacts of the active contexts. -/
structure InMemory (s : Session) (placed : List Placed) (artifacts : List File) : Prop where
  overlay : s.overlay = placed.map Placed.entry
  artifacts : (s.registry.contexts.map fun id => s.contexts[id]?.map (·.artifact)) = artifacts.map some

/-- Files are in memory where they were put, and artifacts go by the names of their contexts. -/
structure Filed (s : Session) : Prop where
  placed : ∃ placed : List Placed, s.overlay = placed.map Placed.entry
  labelled : ∀ c ∈ s.contexts, c.artifact.kind = .artifact ∧ c.artifact.name = c.qualified
  slots : ∀ id ∈ s.registry.contexts, id < s.contexts.length

/-- Contexts, registry and files in memory are as they were. -/
theorem Filed.same (h : s.Filed) (ho : t.overlay = s.overlay) (hr : t.registry = s.registry)
    (hc : t.contexts = s.contexts) : t.Filed where
  placed := ho ▸ h.placed
  labelled := hc ▸ h.labelled
  slots := hc ▸ hr ▸ h.slots

/-- A file may have been put. -/
theorem Filed.put (h : s.Filed) (ho : PutsOne s.overlay t.overlay) (hr : t.registry = s.registry)
    (hc : t.contexts = s.contexts) : t.Filed where
  placed := by
    obtain ⟨placed, hplaced⟩ := h.placed
    rcases ho with ho | ⟨location, package, relativeName, file, ho⟩
    · exact ⟨placed, ho.trans hplaced⟩
    · rw [ho, hplaced]
      exact Placed.exists_setEntry placed location package relativeName file
  labelled := hc ▸ h.labelled
  slots := hc ▸ hr ▸ h.slots

/-- One context more. -/
theorem Filed.concat (h : s.Filed) (ho : t.overlay = s.overlay) (hr : t.registry = s.registry) {made : Context}
    (hc : t.contexts = s.contexts ++ [made])
    (hmade : made.artifact.kind = .artifact ∧ made.artifact.name = made.qualified) : t.Filed where
  placed := ho ▸ h.placed
  labelled c hmem := by
    rw [hc, List.mem_append] at hmem
    rcases hmem with hmem | hmem
    · exact h.labelled c hmem
    · exact List.mem_singleton.1 hmem ▸ hmade
  slots id hid := by
    rw [hc, List.length_append]
    exact Nat.lt_add_right _ (h.slots id (hr ▸ hid))

/-- A context is changed in other respects than its names. -/
theorem Filed.modify (h : s.Filed) (ho : t.overlay = s.overlay) (hr : t.registry = s.registry) {id : ContextId}
    {change : Context → Context} (hc : t.contexts = s.contexts.modify id change)
    (hchange : ∀ c, (change c).artifact.kind = c.artifact.kind ∧ (change c).artifact.name = c.artifact.name ∧
      (change c).qualified = c.qualified) : t.Filed where
  placed := ho ▸ h.placed
  labelled c hmem := by
    rw [hc] at hmem
    obtain ⟨n, hn⟩ := List.mem_iff_getElem?.1 hmem
    rw [List.getElem?_modify] at hn
    obtain ⟨c₀, hc₀, rfl⟩ := Option.map_eq_some_iff.1 hn
    obtain ⟨hkind, hname⟩ := h.labelled c₀ (List.mem_of_getElem? hc₀)
    split
    · obtain ⟨hk, hn, hq⟩ := hchange c₀
      exact ⟨hk.trans hkind, (hn.trans hname).trans hq.symm⟩
    · exact ⟨hkind, hname⟩
  slots other hother := by
    rw [hc, List.length_modify]
    exact h.slots other (hr ▸ hother)

/-- To keep all files in memory where they belong. -/
def filing : Discipline where
  inv := Filed
  rel _ _ := True
  fails _ := True
  refl _ := trivial
  trans _ _ := trivial
  raised _ := trivial
  thrown _ _ := trivial
  own := by
    rintro s _ ⟨⟩ h
    all_goals exact ⟨⟨h.placed, h.labelled, h.slots⟩, trivial⟩

/-- A context is published. -/
theorem Filed.replace (h : s.Filed) {id : ContextId} (hid : id < s.contexts.length) (canonical : String) :
    Filed { s with registry := s.registry.replace canonical id } where
  placed := h.placed
  labelled := h.labelled
  slots other hother := by
    rcases Registry.mem_contexts_replace hother with rfl | hbefore
    · exact hid
    · exact h.slots other hbefore

theorem filing_hosts : filing.Hosts where
  quiet _ _ _ hs := ⟨hs.same rfl rfl rfl, trivial⟩
  unusable _ _ := trivial
  room _ := trivial
  ran {s s₁ t id c m body result} hs _ _ _ hnew hbody hrun := by
    obtain ⟨rfl, unit, made, rfl⟩ := Action.newUnitModule_eq_ok hnew
    have hstart : Filed
        (Session.begun { s with made, modules := s.modules ++ [unit] } id s.modules.length) :=
      hs.modify rfl rfl rfl fun _ => ⟨rfl, rfl, rfl⟩
    have ht : t.Filed := ((Discipline.keeps_attempt hbody).ok hstart hrun).1
    refine ⟨ht.modify rfl rfl rfl fun c => ?_, trivial⟩
    cases Exit.of result with
    | completed => exact ⟨rfl, rfl, rfl⟩
    | failed => exact ⟨rfl, rfl, rfl⟩
    | left => exact ⟨rfl, rfl, rfl⟩

/-- The steps of emission keep files in memory where they belong. -/
def filingCompiling : Compiling where
  toDiscipline := filing
  aside h hs := ⟨hs.put h.overlay h.registry h.contexts, trivial⟩
  created _ _ _ hs := ⟨hs.concat rfl rfl rfl ⟨rfl, rfl⟩, trivial⟩
  opened _ _ _ _ hs := ⟨hs.concat rfl rfl rfl ⟨rfl, rfl⟩, trivial⟩
  written _ _ _ _ _ _ hs := ⟨hs.same rfl rfl rfl, trivial⟩
  sealed _ _ _ _ _ hs := ⟨hs.modify rfl rfl rfl fun _ => ⟨rfl, rfl, rfl⟩, trivial⟩
  published _ _ c hc _ hs := ⟨hs.replace (List.getElem?_eq_some_iff.1 hc).1 c.canonical, trivial⟩
  lenient _ := trivial
  materializes := filing_hosts.materializes

theorem filing_perform (operation : Operation) : filing.Keeps operation.perform := by
  refine keeps_perform filingCompiling (fun s hs => ⟨⟨hs.placed, hs.labelled, ?_⟩, trivial⟩) operation
  exact List.forall_mem_nil _

/-- The sessions that operations lead to from one in which nothing has been compiled, and with nothing in memory. -/
def Arises (t : Session) : Prop :=
  ∃ (s : Session) (operations : List Operation), s.IsFresh ∧ s.overlay = [] ∧ t = s.performed operations

/-- **Files in memory are where they belong**, whatever is done to a session. -/
theorem Arises.filed (h : s.Arises) : s.Filed := by
  obtain ⟨s, operations, hfresh, hempty, rfl⟩ := h
  refine (inv_performed filing_perform operations (s := s) ⟨⟨[], hempty⟩, ?_, ?_⟩).1
  · rw [hfresh.contexts]
    exact List.forall_mem_nil _
  · rw [hfresh.registry]
    exact List.forall_mem_nil _

/-! ## Listings -/

variable {package : List String} {location : Location} {kinds : List FileKind} {recurse : Bool}

/-- The active contexts are all there. -/
theorem Filed.exists_inMemory (h : s.Filed) : ∃ placed artifacts, s.InMemory placed artifacts := by
  obtain ⟨placed, hplaced⟩ := h.placed
  refine ⟨placed, s.registry.contexts.filterMap fun id => s.contexts[id]?.map (·.artifact), hplaced, ?_⟩
  rw [List.map_filterMap, ← List.filterMap_eq_map]
  refine List.filterMap_congr fun id hid => ?_
  simp [h.slots id hid]

/-- The files that have been put at a location and pass the test. -/
theorem InMemory.overlayFiles_eq (h : s.InMemory placed artifacts) (hpackage : ∀ c ∈ package, Path.IsPart c) :
    Overlay.overlayFiles s location (Path.dotted package) kinds recurse =
      ((placed.filter (·.location = location)).map (·.file)).filter (·.IsWanted kinds package recurse) := by
  have hlocation : (s.overlay.filter fun e =>
      beginsWith e.1 (UnitName.uriScheme ++ ":///" ++ location.label ++ "/")).map (·.2) =
        (placed.filter (·.location = location)).map (·.file) := by
    rw [h.overlay, List.filter_map, List.map_map]
    refine congrArg (List.map _) (List.filter_congr fun f _ => ?_)
    rw [Bool.eq_iff_iff, decide_eq_true_eq]
    exact beginsWith_overlayUri ..
  show List.filter _ ((s.overlay.filter fun e => beginsWith e.1 _).map (·.2)) = _
  rw [hlocation]
  refine List.filter_congr fun f _ => ?_
  rw [Bool.eq_iff_iff, Bool.and_eq_true, decide_eq_true_eq, inPackage_dotted hpackage, List.contains_iff_mem]
  rfl

theorem InMemory.kind_eq (h : s.InMemory placed artifacts) (hs : s.Filed) {f : File} (hf : f ∈ artifacts) :
    f.kind = .artifact := by
  obtain ⟨id, -, hid⟩ := List.mem_map.1 (h.artifacts ▸ List.mem_map_of_mem hf :
    some f ∈ s.registry.contexts.map fun id => s.contexts[id]?.map (·.artifact))
  obtain ⟨c, hc, rfl⟩ := Option.map_eq_some_iff.1 hid
  exact (hs.labelled c (List.mem_of_getElem? hc)).1

/-- The artifacts of the active contexts that are below a package. -/
theorem InMemory.activeArtifacts_eq (h : s.InMemory placed artifacts) (hs : s.Filed)
    (hpackage : ∀ c ∈ package, Path.IsPart c) : Overlay.activeArtifacts s (Path.dotted package) recurse =
      artifacts.filter fun f => UnitName.LiesBelow package recurse f.name := by
  have hartifacts : (s.registry.contexts.filterMap (s.contexts[·]?)).map (·.artifact) = artifacts := by
    have hall := congrArg (List.filterMap id) h.artifacts
    rw [List.filterMap_map, List.filterMap_map] at hall
    rw [List.map_filterMap]
    exact hall.trans (List.filterMap_some ..)
  rw [Overlay.activeArtifacts, ← hartifacts, List.filter_map]
  refine congrArg (List.map _) (List.filter_congr fun c hc => ?_)
  obtain ⟨id, -, hid⟩ := List.mem_filterMap.1 hc
  rw [Bool.eq_iff_iff, inPackage_dotted hpackage, ← (hs.labelled c (List.mem_of_getElem? hid)).2]
  simp

/-- They are asked for if the test lets artifacts pass. -/
theorem InMemory.artifacts_eq (h : s.InMemory placed artifacts) (hs : s.Filed)
    (hpackage : ∀ c ∈ package, Path.IsPart c) :
    (if location = .classPath && kinds.contains .artifact then
        Overlay.activeArtifacts s (Path.dotted package) recurse else []) =
      (if location = .classPath then artifacts else []).filter (·.IsWanted kinds package recurse) := by
  rw [h.activeArtifacts_eq hs hpackage]
  by_cases hlocation : location = .classPath
  · by_cases hkinds : FileKind.artifact ∈ kinds
    · rw [if_pos (by simp [hlocation, hkinds]), if_pos hlocation]
      exact List.filter_congr fun f hf => by simp [File.IsWanted, h.kind_eq hs hf, hkinds]
    · rw [if_neg (by simp [hkinds]), if_pos hlocation]
      refine (List.filter_eq_nil_iff.2 fun f hf => ?_).symm
      simp [File.IsWanted, h.kind_eq hs hf, hkinds]
  · rw [if_neg (by simp [hlocation]), if_neg hlocation]
    rfl

/-- **The listing of a package.** It has the files that were put at the location, then, for the class path, the
artifacts of the active contexts in the order of the registry, and then the files of the resource path place by
place, as far as they are of the kinds asked for and below the package, exactly if the package is not too long for a
directory of the resource path. -/
theorem Arises.candidates_iff (hs : s.Arises) {stocks : List (Path × List (List String × Bytes))}
    (hplaces : s.resources.places = stocks.map (·.1))
    (hoffers : ∀ stock ∈ stocks, s.disk.Offers stock.1 stock.2 ∧ ∀ f ∈ stock.2, Path.IsUndotted f.1)
    (hpackage : ∀ c ∈ package, Path.IsPart c) (location : Location) (kinds : List FileKind) (recurse : Bool) :
    ∃ placed artifacts, s.InMemory placed artifacts ∧
      ((∃ blocks, ResourcePath.Arranged s.disk stocks blocks ∧
          Overlay.candidates location (Path.dotted package) kinds recurse s = .ok
            { files := ((placed.filter (·.location = location)).map (·.file) ++
                (if location = .classPath then artifacts else []) ++ blocks.flatten).filter
                  (·.IsWanted kinds package recurse) } s) ↔
        ∀ stock ∈ stocks, ¬ s.disk.Overlong stock.1 package) := by
  obtain ⟨placed, artifacts, hmemory⟩ := hs.filed.exists_inMemory
  refine ⟨placed, artifacts, hmemory, ?_⟩
  have hcandidates : Overlay.candidates location (Path.dotted package) kinds recurse s = .ok
      ((ResourcePath.listAll s.disk (Path.dotted package) kinds recurse (stocks.map (·.1))).after
        (((placed.filter (·.location = location)).map (·.file) ++
          (if location = .classPath then artifacts else [])).filter (·.IsWanted kinds package recurse))) s := by
    rw [List.filter_append, ← hmemory.artifacts_eq hs.filed hpackage, ← hmemory.overlayFiles_eq hpackage, ← hplaces]
    rfl
  rw [hcandidates, ← ResourcePath.failure_listAll (fun stock hstock => (hoffers stock hstock).1) hpackage]
  constructor
  · rintro ⟨blocks, -, hlisting⟩
    have hlisting := congrArg Listing.failure (EStateM.Result.ok.inj hlisting).1
    exact hlisting
  · intro hcomplete
    obtain ⟨blocks, hblocks, hlist⟩ := ResourcePath.exists_arranged hoffers hpackage
      ((ResourcePath.failure_listAll (fun stock hstock => (hoffers stock hstock).1) hpackage).1 hcomplete)
      kinds recurse
    refine ⟨blocks, hblocks, ?_⟩
    rw [hlist, List.filter_append _ blocks.flatten]
    rfl

/-! ### A directory and an archive -/

open ResourcePath

/-- A session that can use three units in a directory, and again in an archive. -/
def furnished : Session := { disk := unitDisk, resources := ⟨[⟨1, ["dir"]⟩, ⟨1, ["zip"]⟩]⟩ }

/-- A source is put into memory, and a unit is published. -/
def furnishing : List Operation :=
  [.putSource .classPath "p" "S_ts1.py" (File.source "p.S_ts1" "x = 1"),
    .openOutput none .classOutput "p.q.T_ts1" .artifact none, .write 0 [1], .close 0]

theorem furnished_arises (operations : List Operation) : (furnished.performed operations).Arises :=
  ⟨furnished, operations, ⟨rfl, rfl, rfl, rfl, rfl, rfl⟩, rfl, rfl⟩

/-- The files of the directory, and those of the archive. -/
def furnishedStocks : List (Path × List (List String × Bytes)) :=
  [(⟨1, ["dir"]⟩, units.files),
    (⟨1, ["zip"]⟩, [(["pq", "C.py"], [3]), (["p", "A.py"], [1]), (["p", "q", "B.pyc"], [2])])]

theorem furnished_offers : ∀ stock ∈ furnishedStocks,
    unitDisk.Offers stock.1 stock.2 ∧ ∀ f ∈ stock.2, Path.IsUndotted f.1 := by
  refine List.forall_mem_cons.2 ⟨⟨.directory units_in_directory.stocks, by decide⟩, List.forall_mem_singleton.2 ⟨?_, by decide⟩⟩
  exact .archive units_in_archive.archive (by decide) (by decide) (by decide)

/-- All of them are listed together with the files in memory. -/
theorem furnished_candidates :
    let s := furnished.performed furnishing
    (s.Arises ∧ s.resources.places = furnishedStocks.map (·.1) ∧ ∀ stock ∈ furnishedStocks,
      s.disk.Offers stock.1 stock.2 ∧ ∀ f ∈ stock.2, Path.IsUndotted f.1) ∧
    ∃ placed artifacts, s.InMemory placed artifacts ∧ ∃ blocks, Arranged s.disk furnishedStocks blocks ∧
      Overlay.candidates .classPath (Path.dotted ["p"]) FileKind.all true s = .ok
        { files := (((placed.filter (·.location = .classPath)).map (·.file) ++ artifacts) ++ blocks.flatten).filter
            (·.IsWanted FileKind.all ["p"] true) } s := by
  intro s
  have hs : s.Arises := furnished_arises furnishing
  have hdisk : s.disk = unitDisk := rfl
  have hplaces : s.resources.places = furnishedStocks.map (·.1) := rfl
  have hoffers := furnished_offers
  rw [← hdisk] at hoffers
  obtain ⟨placed, artifacts, hmemory, hlisting⟩ :=
    hs.candidates_iff hplaces hoffers (List.forall_mem_singleton.2 (by decide : Path.IsPart "p")) .classPath
      FileKind.all true
  refine ⟨⟨hs, hplaces, hoffers⟩, placed, artifacts, hmemory, hlisting.2 ?_⟩
  rw [hdisk]
  exact List.forall_mem_cons.2 ⟨fun h => absurd h.2 (by decide +kernel),
    List.forall_mem_singleton.2 fun h => absurd h.1 (by decide +kernel)⟩

/-- A package whose name has one byte more than the file system allows ends the listing before the archive is
reached. -/
theorem longPackage_interrupts :
    (furnished.Arises ∧ furnished.resources.places = furnishedStocks.map (·.1) ∧ (∀ stock ∈ furnishedStocks,
      furnished.disk.Offers stock.1 stock.2 ∧ ∀ f ∈ stock.2, Path.IsUndotted f.1) ∧ Path.IsPart longName) ∧
    ∃ why, Overlay.candidates .classPath (Path.dotted [longName]) [.source] false furnished =
      .ok { failure := some (.raised why) } furnished := by
  have hpart : Path.IsPart longName := isPart_replicate 255
  refine ⟨⟨furnished_arises [], rfl, furnished_offers, hpart⟩, Refusal.nameTooLong.raised ⟨1, ["dir", longName]⟩, ?_⟩
  have hlist := listIn_overlong (furnished_offers _ List.mem_cons_self).1 (List.forall_mem_singleton.2 hpart)
    ⟨units_in_directory.directory, longName_tooLong⟩ [.source] false
  have hlisting : list furnished.resources unitDisk (Path.dotted [longName]) [.source] false =
      { failure := some (.raised (Refusal.nameTooLong.raised ⟨1, ["dir", longName]⟩)) } := by
    show listAll _ _ _ _ (⟨1, ["dir"]⟩ :: _) = _
    rw [listAll, hlist]
    rfl
  show EStateM.Result.ok (Overlay.candidatesIn furnished ..) furnished = _
  rw [Overlay.candidatesIn, show furnished.disk = unitDisk from rfl, hlisting]
  rfl

end Session

end UnitFoundry
