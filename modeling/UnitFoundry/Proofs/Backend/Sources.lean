import UnitFoundry.Proofs.Artifact.Format
import UnitFoundry.Proofs.Backend.Imports
import UnitFoundry.Proofs.ResourcePath.Agreement
import UnitFoundry.Proofs.ResourcePath.Listing

/-!
# Source after source

The standard backend takes its sources in turn. What is reported at the turn of a source decides whether an artifact
is published for it, and whether there is an error among all reports decides what the backend says in the end. A
source whose text, whose compilation or one of whose imports cannot be looked at interrupts the backend instead.

* `firstWarnings_eq` — each warning is reported once, at its first occurrence;
* `Turn`, `Turns` — what comes of a source, and of all sources in turn;
* `Interrupts` — a source that interrupts the backend;
* `run_compileSource` — **what comes of a source**, unless it interrupts;
* `compileAll_turns` — **what comes of the sources**, and what the backend says.
-/

namespace UnitFoundry

open Script Text

namespace Standard

variable {read : Reader} {options : Options} {scope : ScopeId} {source : File} {sources : List File} {text : String}
  {c : Compilation} {script : Block} {found more : List Diagnostic} {s t u : Session} {b : Bool}

/-! ## Warnings -/

/-- **Each warning is reported once**, at its first occurrence. -/
theorem firstWarnings_eq (seen warnings : List Warning) :
    firstWarnings seen warnings = (warnings.filter (· ∉ seen)).eraseDups := by
  induction warnings generalizing seen with
  | nil => rfl
  | cons w rest ih =>
    by_cases hseen : w ∈ seen
    · rw [firstWarnings, if_pos (List.contains_iff_mem.2 hseen), ih, List.filter_cons_of_neg (by simpa using hseen)]
    · have hrest : rest.filter (· ∉ w :: seen) = (rest.filter (· ∉ seen)).filter fun other => !other == w := by
        rw [List.filter_filter]
        exact List.filter_congr fun other _ => by simp [beq_eq_decide]
      rw [firstWarnings, if_neg (fun h => hseen (List.contains_iff_mem.1 h)), ih, hrest,
        List.filter_cons_of_pos (by simpa using hseen), List.eraseDups_cons]

/-- The report on a warning: a mandatory one if its category is a lint category, and otherwise an error if the options
say so. -/
def report (options : Options) (uri : String) (w : Warning) : Diagnostic :=
  { kind := if w.category ∈ options.lint then .mandatoryWarning
      else if options.warningsAsErrors then .error else .warning
    category := some w.category, message := w.message, source := some uri, line := some (w.line : Int) }

theorem warningDiagnostics_eq (options : Options) (uri : String) (warnings : List Warning) :
    warningDiagnostics options uri warnings = warnings.eraseDups.map (report options uri) := by
  have hall : warnings.filter (· ∉ ([] : List Warning)) = warnings := List.filter_eq_self.2 fun w _ => by simp
  rw [warningDiagnostics, firstWarnings_eq, hall]
  refine List.map_congr_left fun w _ => ?_
  simp only [warningDiagnostic, warningKind, report, List.contains_iff_mem]

/-- The reports on a rejection, if there is one. -/
def rejections (uri : String) (c : Compilation) : List Diagnostic :=
  match c.result with
  | .ok _ => []
  | .error rejection => [rejectionDiagnostic uri rejection]

theorem compilationDiagnostics_eq (options : Options) (uri : String) (c : Compilation) :
    compilationDiagnostics options uri c =
      rejections uri c ++ c.warnings.eraseDups.map (report options uri) := by
  rw [← warningDiagnostics_eq]
  rfl

/-! ## Artifacts -/

theorem length_artifactOf (options : Options) (uri text : String)
    (h : Artifact.IsStorable { file := uri, optimize := options.optimize, text }) :
    (artifactOf options uri text).length < Writer.memoryLimit := by
  have hfile := h.file
  have htext := h.text
  have hlimits : Artifact.sizeLimit = 2147483648 ∧ Writer.memoryLimit = 1099511627776 ∧ Artifact.headerSize = 16 :=
    ⟨rfl, rfl, rfl⟩
  rw [artifactOf, Artifact.length_encode]
  dsimp only at hfile htext ⊢
  omega

/-- The artifact of a source can be written and read back: neither its text nor the name of its file is too long. -/
def Fits (options : Options) (source : File) : Prop :=
  ∀ text, source.text = .ok text → Artifact.IsStorable { file := source.uri, optimize := options.optimize, text }

/-- If all imports can be looked for, then the artifact is published, if it can be written. Whether it can does not
depend on the run. -/
theorem emitArtifact_of_leads (hlead : ∀ p ∈ importedModules script, ∃ b, leads s p.2 = .ok b) (hs : s.Sound)
    (options : Options) (source : File) (text : String) : ∃ written : Except Raised Unit,
      ((artifactOf options source.uri text).length < Writer.memoryLimit → written = .ok ()) ∧
      ∀ scope found log, ∃ t, (emitArtifact options source text script).run logDiagnostic scope found { s with log } =
          .ok ((written.mapError Failure.raised).map fun _ => true,
            found ++ unresolved s source.uri (importedModules script)) t ∧
        (written = .ok () → Publishes scope source.name (artifactOf options source.uri text) s t) := by
  obtain ⟨written, hfits, hemits⟩ := emitArtifact_of_checkImports options source text script
  refine ⟨written, hfits, fun scope found log => ?_⟩
  obtain ⟨log', hcheck⟩ := run_checkImports (s := { s with log }) hlead source.uri scope found
  obtain ⟨t, hemit, hpublishes⟩ := hemits (t := { s with log }) (hs.congr rfl rfl rfl) hcheck
  exact ⟨t, hemit, fun hwritten => (hpublishes hwritten).of_log⟩

/-! ## One source -/

/-- A source interrupts the backend: its text cannot be had, the reader fails, or it is accepted but one of its
imports cannot be looked for. -/
inductive Interrupts (read : Reader) (options : Options) (s : Session) (source : File) : Prop where
  | text {f : Failure} (h : source.text = .error f)
  | read {text : String} {r : Raised} (htext : source.text = .ok text)
      (h : read options.target options.optimize text = .error r)
  | search {text : String} {c : Compilation} {script : Block} {p : Nat × String} {f : Failure}
      (htext : source.text = .ok text) (hread : read options.target options.optimize text = .ok c)
      (haccepts : Accepts options source.uri c) (hscript : c.result = .ok script) (hp : p ∈ importedModules script)
      (h : leads s p.2 = .error f)

/-- What comes of a source at its turn. The rejection and the warnings are reported, each warning once, and the imports
that lead nowhere are noted. Unless there is an error among these reports, an artifact is published under the name
of the source, and gives the code of the source. Otherwise only the log is different. -/
structure Turn (read : Reader) (options : Options) (scope : ScopeId) (source : File) (reports : List Diagnostic)
    (s t : Session) : Prop where
  reported : ∃ text c notes, source.text = .ok text ∧ read options.target options.optimize text = .ok c ∧
    reports = rejections source.uri c ++ c.warnings.eraseDups.map (report options source.uri) ++ notes ∧
    ∀ d ∈ notes, d.kind = .note
  publishes : (∀ d ∈ reports, d.kind ≠ .error) → ∃ text bytes, source.text = .ok text ∧
    Publishes scope source.name bytes s t ∧
    Artifact.decode source.name bytes = .ok { file := source.uri, optimize := options.optimize, text }
  stays : (∃ d ∈ reports, d.kind = .error) → ∃ log, t = { s with log }

theorem any_isError {reports : List Diagnostic} :
    reports.any Diagnostic.isError = true ↔ ∃ d ∈ reports, d.kind = .error := by
  simp [Diagnostic.isError]

/-- **What comes of a source**, unless it interrupts the backend. -/
theorem run_compileSource (hfits : Fits options source) (hs : s.Sound) (hgoes : ¬ Interrupts read options s source)
    (scope : ScopeId) (found : List Diagnostic) : ∃ b reports t,
      (compileSource read options source).run logDiagnostic scope found s = .ok (.ok b, found ++ reports) t ∧
      (b = true ↔ ∀ d ∈ reports, d.kind ≠ .error) ∧ Turn read options scope source reports s t := by
  cases htext : source.text with
  | error f => exact absurd (.text htext) hgoes
  | ok text =>
  cases hread : read options.target options.optimize text with
  | error r => exact absurd (.read htext hread) hgoes
  | ok c =>
  obtain ⟨log, hrun⟩ := run_of_read source htext hread scope found s
  have hreports := compilationDiagnostics_eq options source.uri c
  by_cases haccepts : Accepts options source.uri c
  · obtain ⟨script, hscript⟩ := haccepts.1
    have hlead : ∀ p ∈ importedModules script, ∃ b, leads s p.2 = .ok b := by
      intro p hp
      cases hlead : leads s p.2 with
      | ok b => exact ⟨b, rfl⟩
      | error f => exact absurd (.search htext hread haccepts hscript hp hlead) hgoes
    obtain ⟨written, hwritten, hemits⟩ := emitArtifact_of_leads hlead hs options source text
    obtain rfl := hwritten (length_artifactOf options source.uri text (hfits text htext))
    obtain ⟨t, hemit, hpublishes⟩ := hemits scope (found ++ compilationDiagnostics options source.uri c) log
    rw [conclude_of_accepts haccepts hscript, hemit, List.append_assoc] at hrun
    have hnone : ∀ d ∈ compilationDiagnostics options source.uri c ++
        unresolved s source.uri (importedModules script), d.kind ≠ .error := by
      intro d hd herror
      obtain hd | hd := List.mem_append.1 hd
      · exact Bool.eq_false_iff.1 haccepts.2 (any_isError.2 ⟨d, hd, herror⟩)
      · cases herror.symm.trans (kind_unresolved hd)
    refine ⟨true, _, t, hrun, iff_of_true rfl hnone, ?_, fun _ => ?_, fun ⟨d, hd, herror⟩ => absurd herror (hnone d hd)⟩
    · exact ⟨text, c, _, htext, hread, by rw [hreports], fun d hd => kind_unresolved hd⟩
    · exact ⟨text, _, htext, hpublishes rfl, Artifact.decode_encode (hfits text htext) ..⟩
  · have herror := any_isError.1 (any_isError_of_not_accepts haccepts)
    have hsome : ¬ ∀ d ∈ compilationDiagnostics options source.uri c, d.kind ≠ .error := by
      intro hnone
      obtain ⟨d, hd, hkind⟩ := herror
      exact hnone d hd hkind
    rw [conclude_of_not_accepts haccepts] at hrun
    refine ⟨false, _, _, hrun, iff_of_false Bool.false_ne_true hsome, ?_, fun hnone => absurd hnone hsome,
      fun _ => ⟨log, rfl⟩⟩
    exact ⟨text, c, [], htext, hread, by rw [hreports, List.append_nil], nofun⟩

/-- A source that interrupts the backend gives nothing. -/
theorem run_compileSource_error (h : Interrupts read options s source) (scope : ScopeId) (found : List Diagnostic) :
    ∃ f reports t, (compileSource read options source).run logDiagnostic scope found s =
      .ok (.error f, found ++ reports) t := by
  cases h with
  | @text f h =>
    refine ⟨f, [], s, ?_⟩
    rw [List.append_nil]
    exact run_of_text_error h scope found s
  | @read text r htext h =>
    refine ⟨.raised r, [], s, ?_⟩
    rw [List.append_nil]
    exact run_of_read_error htext h scope found s
  | @search text c script p f htext hread haccepts hscript hp h =>
    obtain ⟨log, hrun⟩ := run_of_read source htext hread scope found s
    obtain ⟨f, more, log', hcheck, -⟩ := run_checkImports_error (s := { s with log }) ⟨p, hp, f, h⟩
      source.uri scope (found ++ compilationDiagnostics options source.uri c)
    refine ⟨f, compilationDiagnostics options source.uri c ++ more, { s with log := log' }, ?_⟩
    rw [hrun, conclude_of_accepts haccepts hscript, ← List.append_assoc]
    exact Program.run_bind_error _ hcheck

/-! ## All sources -/

/-- What comes of sources in turn. -/
inductive Turns (read : Reader) (options : Options) (scope : ScopeId) :
    List File → List Diagnostic → Session → Session → Prop where
  | nil {s : Session} : Turns read options scope [] [] s s
  | cons {source : File} {rest : List File} {reports more : List Diagnostic} {s t u : Session}
      (first : Turn read options scope source reports s t) (others : Turns read options scope rest more t u) :
      Turns read options scope (source :: rest) (reports ++ more) s u

/-- A source interrupts the backend when its turn comes. -/
def InterruptsAt (read : Reader) (options : Options) (scope : ScopeId) (found : List Diagnostic) (s : Session)
    (sources : List File) : Prop :=
  ∃ before source after b all u, sources = before ++ source :: after ∧
    (compileAll read options before).run logDiagnostic scope found s = .ok (.ok b, all) u ∧
    Interrupts read options u source

/-- If the first source does not interrupt the backend, a later one does or none does. -/
theorem interruptsAt_cons (hgoes : ¬ Interrupts read options s source)
    (hfirst : (compileSource read options source).run logDiagnostic scope found s = .ok (.ok b, more) t) :
    InterruptsAt read options scope found s (source :: sources) ↔ InterruptsAt read options scope more t sources := by
  constructor
  · rintro ⟨before, other, after, b', all, u, hsources, hrun, h⟩
    cases before with
    | nil =>
      cases hsources
      cases hrun
      exact absurd h hgoes
    | cons first before =>
      cases hsources
      have hrest := (Program.run_bind_ok (fun compiled => compileAll read options before >>= fun others =>
        pure (compiled && others)) hfirst).symm.trans hrun
      obtain ⟨b₁, all₁, u₁, hbefore, hend⟩ := Program.run_bind_eq_ok hrest
      cases hend
      exact ⟨before, other, after, b₁, all, u, rfl, hbefore, h⟩
  · rintro ⟨before, other, after, b', all, u, rfl, hrun, h⟩
    exact ⟨source :: before, other, after, b && b', all, u, rfl,
      (Program.run_bind_ok _ hfirst).trans (Program.run_bind_ok _ hrun), h⟩

/-- Runs of programs leave a session sound. -/
theorem sound_run {α : Type} {p : Program α} {verdict : Except Failure α} {all : List Diagnostic} (hs : s.Sound)
    (h : p.run logDiagnostic scope found s = .ok (verdict, all) t) : t.Sound :=
  ((Session.soundEmitting.keeps_run Session.soundEmitting.keeps_logDiagnostic scope
    (Emitting.IsFree.program {} p) found).ok hs h).1

/-- **What comes of the sources**, for all readers, options and sources. The backend says that all went well if and
only if it has reported no error, and to each source in turn comes what is due. It has something to say unless one of
the sources interrupts it. -/
theorem compileAll_turns (read : Reader) (options : Options) (hfits : ∀ source ∈ sources, Fits options source)
    (scope : ScopeId) (found : List Diagnostic) (hs : s.Sound) : ∃ verdict reports t,
      (compileAll read options sources).run logDiagnostic scope found s = .ok (verdict, found ++ reports) t ∧
      (∀ b, verdict = .ok b → (b = true ↔ ∀ d ∈ reports, d.kind ≠ .error) ∧
        Turns read options scope sources reports s t) ∧
      ((∃ f, verdict = .error f) ↔ InterruptsAt read options scope found s sources) := by
  induction sources generalizing found s with
  | nil =>
    refine ⟨.ok true, [], s, by rw [List.append_nil]; rfl, ?_, ?_⟩
    · rintro b ⟨⟩
      exact ⟨iff_of_true rfl nofun, .nil⟩
    · refine iff_of_false nofun ?_
      rintro ⟨before, source, after, b, all, u, hsources, -⟩
      exact List.cons_ne_nil _ _ (List.append_eq_nil_iff.1 hsources.symm).2
  | cons source rest ih =>
    by_cases hgoes : Interrupts read options s source
    · obtain ⟨f, reports, t, hrun⟩ := run_compileSource_error hgoes scope found
      refine ⟨.error f, reports, t, Program.run_bind_error _ hrun, nofun, iff_of_true ⟨f, rfl⟩ ?_⟩
      exact ⟨[], source, rest, true, found, s, rfl, rfl, hgoes⟩
    · obtain ⟨b, reports, t, hrun, hb, hturn⟩ :=
        run_compileSource (hfits source List.mem_cons_self) hs hgoes scope found
      obtain ⟨verdict, more, u, hrest, hok, hiff⟩ := ih
        (fun other hother => hfits other (List.mem_cons_of_mem _ hother)) (found ++ reports) (sound_run hs hrun)
      rw [List.append_assoc] at hrest
      rw [interruptsAt_cons hgoes hrun, ← hiff]
      cases verdict with
      | error f =>
        refine ⟨.error f, reports ++ more, u, ?_, nofun, Iff.rfl⟩
        exact (Program.run_bind_ok _ hrun).trans (Program.run_bind_error _ hrest)
      | ok others =>
        obtain ⟨hothers, hturns⟩ := hok others rfl
        refine ⟨.ok (b && others), reports ++ more, u, ?_, ?_, iff_of_false nofun nofun⟩
        · exact (Program.run_bind_ok _ hrun).trans (Program.run_bind_ok _ hrest)
        · rintro _ ⟨⟩
          rw [Bool.and_eq_true, hb, hothers, List.forall_mem_append]
          exact ⟨Iff.rfl, .cons hturn hturns⟩

/-! ### Two sources -/

/-- One source that is accepted, and one that is not. -/
def twoSources : List File := [File.source "p.A_ts1" "import os\n", File.source "p.B_ts1" "x = \n"]

/-- What a run ends with, if it ends with a value. -/
def verdict? (r : EStateM.Result Failure Session (Except Failure Bool × List Diagnostic)) : Option Bool :=
  match r with
  | .ok (.ok b, _) _ => some b
  | _ => none

/-- The backend does not say that all went well, and what is due comes to each of them. -/
theorem twoSources_turns : (∀ source ∈ twoSources, Fits {} source) ∧ Session.Sound {} ∧ ∃ reports t,
    (compileAll readScript {} twoSources).run logDiagnostic 0 [] {} = .ok (.ok false, reports) t ∧
    Turns readScript {} 0 twoSources reports {} t ∧ ∃ d ∈ reports, d.kind = .error := by
  have hfits : ∀ source ∈ twoSources, Fits {} source := by
    refine List.forall_mem_cons.2 ⟨?_, List.forall_mem_singleton.2 ?_⟩
    · rintro text ⟨⟩
      constructor
      · rw [encodeUtf8_eq]
        decide +kernel
      · rw [encodeUtf8_eq]
        decide +kernel
    · rintro text ⟨⟩
      constructor
      · rw [encodeUtf8_eq]
        decide +kernel
      · rw [encodeUtf8_eq]
        decide +kernel
  have hsound : Session.Sound {} := Session.isFresh_empty.sound
  have hverdict : verdict? ((compileAll readScript {} twoSources).run logDiagnostic 0 [] {}) = some false := by
    decide +kernel
  obtain ⟨verdict, reports, t, hrun, hok, -⟩ := compileAll_turns readScript {} hfits 0 [] hsound
  refine ⟨hfits, hsound, reports, t, ?_⟩
  rw [hrun] at hverdict ⊢
  cases verdict with
  | error f => cases hverdict
  | ok b =>
    cases hverdict
    obtain ⟨herror, hturns⟩ := hok false rfl
    refine ⟨rfl, hturns, ?_⟩
    by_contra hnone
    exact Bool.false_ne_true (herror.2 fun d hd hkind => hnone ⟨d, hd, hkind⟩)

/-! ### An import with a long name -/

/-- A source that imports a name with one byte more than the file system allows. -/
def longImport : String := String.ofList ("import ".toList ++ List.replicate 256 'a')

/-- A session with a directory in which nothing is. -/
def bareSession : Session where
  disk := { nodes := [(["dir"], .directory)] }
  resources := ⟨[⟨1, ["dir"]⟩]⟩

theorem readScript_longImport : ∃ script,
    readScript ({} : Options).target ({} : Options).optimize longImport = .ok { result := .ok script } ∧
      importedModules script = [(1, ResourcePath.longName)] := by
  have hread : ((Script.compile currentMinor .inherited longImport).toOption.bind fun c =>
      c.result.toOption.map fun script => (importedModules script, c.warnings)) =
        some ([(1, ResourcePath.longName)], []) := by
    have hchars : longImport.toList = "import ".toList ++ List.replicate 256 'a' := String.toList_ofList
    unfold Script.compile Script.parse tokens settledLines
    rw [hchars]
    decide +kernel
  show ∃ script, Script.compile currentMinor .inherited longImport = _ ∧ _
  cases hcompiled : Script.compile currentMinor .inherited longImport with
  | error r =>
    rw [hcompiled] at hread
    cases hread
  | ok c =>
    obtain ⟨result, warnings⟩ := c
    rw [hcompiled] at hread
    cases result with
    | error rejection => cases hread
    | ok script =>
      obtain ⟨himports, rfl⟩ := Prod.mk.inj (Option.some.inj hread)
      exact ⟨script, rfl, himports⟩

theorem bareSession_offers : bareSession.disk.Offers ⟨1, ["dir"]⟩ [] := by
  have hnothing : bareSession.disk.Stocks ⟨1, ["dir"]⟩ ⟨[], List.nodup_nil, nofun⟩ := by
    refine ⟨by decide, by decide +kernel, nofun, fun {place rest node} hplace hrest hmem => ?_⟩
    obtain rfl : ["dir"] = place := by
      have h : bareSession.disk.locate ⟨1, ["dir"]⟩ = .ok ["dir"] := by decide +kernel
      exact Except.ok.inj (h.symm.trans hplace)
    simp [bareSession] at hmem
    exact absurd hmem.1 hrest
  exact .directory hnothing

theorem notMem_replicate (n : Nat) : '.' ∉ (String.ofList (List.replicate n 'a')).toList := by
  rw [String.toList_ofList]
  exact fun hmem => absurd (List.eq_of_mem_replicate hmem) (by decide)

/-- The directory refuses to look for the name. -/
theorem leads_longName : ∃ f, leads bareSession ResourcePath.longName = .error f := by
  have hdot : '.' ∉ ResourcePath.longName.toList := notMem_replicate 256
  have hpackage : UnitName.package ResourcePath.longName = "" := by rw [UnitName.package, cutLast_of_notMem hdot]
  have hunit : hasUnit bareSession ResourcePath.longName = .ok false := by
    have hfiles : (Overlay.candidatesIn bareSession .classPath "" FileKind.all false).files = [] := by decide +kernel
    have hfailure : (Overlay.candidatesIn bareSession .classPath "" FileKind.all false).failure.isNone := by
      decide +kernel
    rw [hasUnit, hpackage, Listing.any, hfiles, Option.isNone_iff_eq_none.1 hfailure]
    rfl
  have hpart : Path.IsPart ResourcePath.longName := ResourcePath.isPart_replicate 255
  have hlist := ResourcePath.listIn_overlong bareSession_offers (List.forall_mem_singleton.2 hpart)
    ⟨by decide +kernel, by decide +kernel⟩ FileKind.all true
  have hlisting : ResourcePath.list bareSession.resources bareSession.disk ResourcePath.longName FileKind.all true =
      { failure := some (.raised (Refusal.nameTooLong.raised ⟨1, ["dir", ResourcePath.longName]⟩)) } := by
    rw [Path.dotted_singleton] at hlist
    show ResourcePath.listAll _ _ _ _ (⟨1, ["dir"]⟩ :: _) = _
    rw [ResourcePath.listAll, hlist]
    rfl
  have hpackages : hasPackage bareSession ResourcePath.longName =
      .error (.raised (Refusal.nameTooLong.raised ⟨1, ["dir", ResourcePath.longName]⟩)) := by
    rw [hasPackage, Overlay.candidatesIn, hlisting]
    rfl
  exact ⟨_, by rw [leads, hunit, hpackages]; rfl⟩

/-- **A name that is too long for a directory of the resource path interrupts the backend**: no error is reported, and
nevertheless nothing is published and nothing is said. -/
theorem longImport_interrupts : ∃ f reports t,
    (compileAll readScript {} [File.source "p.B_ts1" longImport]).run logDiagnostic 0 [] bareSession =
      .ok (.error f, reports) t ∧ (∀ d ∈ reports, d.kind ≠ .error) ∧ t.contexts = [] := by
  obtain ⟨script, hread, himports⟩ := readScript_longImport
  have haccepts : Accepts {} (File.source "p.B_ts1" longImport).uri { result := .ok script } := ⟨⟨script, rfl⟩, rfl⟩
  obtain ⟨f, hlead⟩ := leads_longName
  obtain ⟨log, hrun⟩ := run_of_read (File.source "p.B_ts1" longImport) rfl hread 0 [] bareSession
  have hinterrupted : ∃ p ∈ importedModules script, ∃ f, leads { bareSession with log } p.2 = .error f :=
    ⟨(1, ResourcePath.longName), himports ▸ List.mem_singleton_self _, f,
      (leads_log bareSession log _).trans hlead⟩
  obtain ⟨f, notes, log', hcheck, hnotes⟩ :=
    run_checkImports_error hinterrupted (File.source "p.B_ts1" longImport).uri 0 []
  rw [conclude_of_accepts haccepts rfl] at hrun
  refine ⟨f, notes, { bareSession with log := log' }, ?_, fun d hd herror => ?_, rfl⟩
  · rw [compileAll_singleton]
    exact Program.run_bind_error _ (hrun.trans (Program.run_bind_error _ hcheck))
  · cases herror.symm.trans (kind_unresolved (hnotes hd))

end Standard

end UnitFoundry
