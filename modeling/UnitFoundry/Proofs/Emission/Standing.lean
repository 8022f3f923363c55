import UnitFoundry.Proofs.Emission.Operations
import UnitFoundry.Proofs.Emission.Steps
import UnitFoundry.Proofs.File.LifeCycle

/-!
# Where a store of artifacts stands

After any steps, the state of every writer and of every context, the registry and the scopes are what
the steps that were done say. This is preserved by every step.

* `Standing` — a writer and its context after what was done;
* `Stands` — the whole store after what was done;
* `Stands.quiet` — one more step that opens, writes and closes nothing;
* `Stands.openOutput`, `Stands.write`, `Stands.close` — **one more step** that does.
-/

namespace UnitFoundry.Emission

open Script Text

variable {s t : Session} {done : List Step} {id : WriterId} {w : OpenWriter} {c : Context}

/-! ## Writers and their contexts -/

/-- How a writer and its context stand after what was done. -/
structure Standing (done : List Step) (id : WriterId) (w : OpenWriter) (c : Context) : Prop where
  opened : (openings done)[id]? = some (c.qualified, w.scope)
  context : w.context = id
  buffer : w.writer.buffer = written id done
  position : w.writer.closed = false → w.writer.position = w.writer.buffer.length
  closed : w.writer.closed ↔ id ∈ closings done
  content : c.artifact.content =
    if w.writer.closed then .frozen w.writer.buffer else .opened

/-- A step that neither writes to a writer nor closes it leaves it as it stands. -/
theorem Standing.concat (h : Standing done id w c) (step : Step) (hbytes : step.bytesTo id = [])
    (hclosing : step.closing? ≠ some id) : Standing (done ++ [step]) id w c where
  opened := by
    rw [opening_concat step (List.getElem?_eq_some_iff.1 h.opened).1]
    exact h.opened
  context := h.context
  buffer := by
    rw [written_concat, hbytes, List.append_nil]
    exact h.buffer
  position := h.position
  closed := by
    rw [mem_closings_concat, h.closed]
    simp [hclosing]
  content := h.content

/-- Bytes are written to a writer. -/
theorem Standing.write {v : Writer} {data : Bytes} (h : Standing done id w c)
    (hwrite : w.writer.write data = .ok v) :
    Standing (done ++ [.write id data]) id { w with writer := v } c := by
  obtain ⟨hopen, hstill, hbuffer, hend⟩ := Writer.write_at_end hwrite h.position
  constructor
  case opened =>
    rw [opening_concat _ (List.getElem?_eq_some_iff.1 h.opened).1]
    exact h.opened
  case context => exact h.context
  case buffer =>
    rw [hbuffer, h.buffer, written_concat]
    simp [Step.bytesTo]
  case position => exact fun _ => hend
  case closed =>
    rw [mem_closings_concat, ← h.closed, hstill, hopen]
    simp [Step.closing?]
  case content =>
    rw [h.content, hopen, hstill]
    rfl

/-- A writer is closed. -/
theorem Standing.close (h : Standing done id w c) :
    Standing (done ++ [.close id]) id { w with writer := { w.writer with closed := true } }
      { c with artifact := c.artifact.freeze w.writer.buffer } where
  opened := by
    rw [openings_concat_close]
    exact h.opened
  context := h.context
  buffer := by
    rw [written_concat]
    exact h.buffer.trans (List.append_nil _).symm
  position hclosed := by cases hclosed
  closed := by
    rw [mem_closings_concat]
    simp [Step.closing?]
  content := rfl

/-- A writer that is closed already is closed again. -/
theorem Standing.closeAgain (h : Standing done id w c) (hclosed : id ∈ closings done) :
    Standing (done ++ [.close id]) id w c where
  opened := by
    rw [openings_concat_close]
    exact h.opened
  context := h.context
  buffer := by
    rw [written_concat]
    exact h.buffer.trans (List.append_nil _).symm
  position := h.position
  closed := by
    rw [mem_closings_concat, h.closed]
    exact ⟨Or.inl, fun _ => hclosed⟩
  content := h.content

/-! ## The whole store -/

/-- How a store stands after what was done: writers and contexts have the same numbers, and the registry
and the scopes hold what is left of all that was published. -/
structure Stands (done : List Step) (s : Session) : Prop where
  writers : s.writers.length = (openings done).length
  contexts : s.contexts.length = (openings done).length
  count : s.scopes.length = done.countP Step.isScope
  each : ∀ id w c, s.writers[id]? = some w → s.contexts[id]? = some c → Standing done id w c
  known : AreKnown done
  unwritten : ∀ id, (openings done).length ≤ id → written id done = []
  through : ∀ o ∈ openings done, ∀ scope, o.2 = some scope → scope < s.scopes.length
  registry : Records s.registry.entries (generations done)
  scopes : ∀ scope found, s.scopes[scope]? = some found → Records found (emissions scope done)

namespace Stands

/-- Whatever is active is there. -/
theorem linked (h : Stands done s) {canonical : String} {old : ContextId}
    (hold : s.registry.lookup? canonical = some old) : old < s.contexts.length := by
  have hlast : lastSet? (generations done) canonical = some old :=
    (h.registry.last canonical).symm.trans hold
  obtain ⟨hpublished, -⟩ := mem_generations.1 (mem_of_lastSet? hlast)
  rw [h.contexts]
  exact h.known old (mem_closings_of_published hpublished)

/-- A writer that was opened is there, and so is its context. -/
theorem standing (h : Stands done s) (hid : id < (openings done).length) :
    ∃ w c, s.writers[id]? = some w ∧ s.contexts[id]? = some c ∧ Standing done id w c := by
  obtain ⟨w, hw⟩ : ∃ w, s.writers[id]? = some w :=
    ⟨_, List.getElem?_eq_getElem (h.writers.symm ▸ hid)⟩
  obtain ⟨c, hc⟩ : ∃ c, s.contexts[id]? = some c :=
    ⟨_, List.getElem?_eq_getElem (h.contexts.symm ▸ hid)⟩
  exact ⟨w, c, hw, hc, h.each id w c hw hc⟩

/-! ### What most steps leave as it is -/

section

variable {step : Step}

/-- Nothing is written to a writer before it is opened. -/
theorem unwritten_concat (h : Stands done s) (hid : (openings (done ++ [step])).length ≤ id)
    (hbytes : step.bytesTo id = []) : written id (done ++ [step]) = [] := by
  rw [openings_concat, List.length_append] at hid
  rw [written_concat, h.unwritten id (Nat.le_of_add_right_le hid), hbytes, List.append_nil]

/-- All writers are opened through scopes that are there. -/
theorem through_concat (h : Stands done s)
    (hopening : ∀ o, step.opening? = some o → ∀ scope, o.2 = some scope → scope < s.scopes.length) :
    ∀ o ∈ openings (done ++ [step]), ∀ scope, o.2 = some scope → scope < s.scopes.length := by
  intro o ho
  rw [openings_concat] at ho
  rcases List.mem_append.1 ho with hbefore | hnow
  · exact h.through o hbefore
  · exact hopening o (Option.mem_toList.1 hnow)

/-- A step that closes no writer publishes nothing. -/
theorem registry_concat (h : Stands done s) (hclosing : step.closing? = none)
    (hclear : step.isClear = false) :
    Records s.registry.entries (generations (done ++ [step])) := by
  rw [generations_concat_of_none h.known hclosing hclear]
  exact h.registry

theorem scopes_concat (h : Stands done s) (hclosing : step.closing? = none) {scope : ScopeId}
    {found : List (String × ContextId)} (hfound : s.scopes[scope]? = some found) :
    Records found (emissions scope (done ++ [step])) := by
  rw [emissions_concat_of_none scope h.known hclosing]
  exact h.scopes scope found hfound

end

/-! ### One more step -/

/-- A step that opens nothing, writes nothing and closes nothing leaves all writers and contexts as they
stand. -/
theorem quiet (h : Stands done s) {step : Step} (hopening : step.opening? = none)
    (hbytes : ∀ id, step.bytesTo id = []) (hclosing : step.closing? = none)
    (hw : t.writers = s.writers) (hc : t.contexts = s.contexts)
    (hcount : t.scopes.length = s.scopes.length + if step.isScope then 1 else 0)
    (hregistry : Records t.registry.entries (generations (done ++ [step])))
    (hfound : ∀ scope found, t.scopes[scope]? = some found →
      Records found (emissions scope (done ++ [step]))) : Stands (done ++ [step]) t := by
  have hopenings : openings (done ++ [step]) = openings done := by
    rw [openings_concat, hopening, Option.toList_none, List.append_nil]
  constructor
  case writers => rw [hopenings, hw, h.writers]
  case contexts => rw [hopenings, hc, h.contexts]
  case count => rw [hcount, countP_concat, h.count]
  case each =>
    intro id w c hwid hcid
    rw [hw] at hwid
    rw [hc] at hcid
    exact (h.each id w c hwid hcid).concat step (hbytes id) (by simp [hclosing])
  case known => exact h.known.concat step fun id hid => by simp [hclosing] at hid
  case unwritten => exact fun id hid => h.unwritten_concat hid (hbytes id)
  case through =>
    intro o ho scope hscope
    rw [hcount]
    refine Nat.lt_add_right _ (h.through_concat (fun o hnew => ?_) o ho scope hscope)
    rw [hopening] at hnew
    cases hnew
  case registry => exact hregistry
  case scopes => exact hfound

theorem drop (h : Stands done s) (id : WriterId) : Stands (done ++ [.drop id]) s := by
  refine h.quiet rfl (fun _ => rfl) rfl rfl rfl rfl ?_ ?_
  · exact h.registry_concat rfl rfl
  · exact fun _ _ => h.scopes_concat rfl

theorem clear (h : Stands done s) : Stands (done ++ [.clear]) { s with registry := {} } := by
  refine h.quiet rfl (fun _ => rfl) rfl rfl rfl rfl ?_ ?_
  · rw [generations, published_concat_clear]
    exact Records.nil
  · exact fun _ _ => h.scopes_concat rfl

theorem openScope (h : Stands done s) :
    Stands (done ++ [.openScope]) { s with scopes := s.scopes ++ [[]] } := by
  refine h.quiet rfl (fun _ => rfl) rfl rfl rfl List.length_append ?_ ?_
  · exact h.registry_concat rfl rfl
  · intro scope found hfound
    rcases getElem?_concat_cases hfound with hbefore | ⟨rfl, rfl⟩
    · exact h.scopes_concat rfl hbefore
    · rw [emissions_concat_of_none _ h.known rfl]
      -- the new scope: no writer was opened through it
      have hnone : emissions s.scopes.length done = [] := emissions_eq_nil fun o ho heq =>
        absurd (h.through o ho _ heq) (Nat.lt_irrefl _)
      rw [hnone]
      exact Records.nil

/-- A writer that has just been opened, with its context. -/
theorem standing_opened (h : Stands done s) (scope : Option ScopeId) (location : Location)
    (name : String) (sibling : Option File) :
    Standing (done ++ [.openOutput scope location name sibling]) s.writers.length
      { context := s.contexts.length, scope } (opened name) where
  opened := by
    rw [openings_concat, h.writers, List.getElem?_append_right (Nat.le_refl _), Nat.sub_self]
    rfl
  context := h.contexts.trans h.writers.symm
  buffer := by
    rw [written_concat, h.writers, h.unwritten _ (Nat.le_refl _)]
    rfl
  position _ := rfl
  closed := by
    rw [mem_closings_concat]
    constructor
    · intro hclosed
      cases hclosed
    · rintro (hbefore | hnow)
      · exact absurd (h.known _ hbefore) (Nat.not_lt.2 (Nat.le_of_eq h.writers.symm))
      · cases hnow
  content := rfl

theorem openOutput (h : Stands done s) {scope : Option ScopeId} (location : Location) (name : String)
    (sibling : Option File) (hscope : ∀ k, scope = some k → k < s.scopes.length) (log : List Record) :
    Stands (done ++ [.openOutput scope location name sibling])
      { s with
        contexts := s.contexts ++ [opened name]
        writers := s.writers ++ [{ context := s.contexts.length, scope }]
        log } := by
  have hopenings : openings (done ++ [.openOutput scope location name sibling]) =
      openings done ++ [(name, scope)] := openings_concat
  constructor
  case writers => rw [hopenings, List.length_append, List.length_append, h.writers]; rfl
  case contexts => rw [hopenings, List.length_append, List.length_append, h.contexts]; rfl
  case count => rw [countP_concat, ← h.count]; rfl
  case each =>
    intro id w c hw hc
    have hlength : s.contexts.length = s.writers.length := h.contexts.trans h.writers.symm
    rcases getElem?_concat_cases hw with hbefore | ⟨rfl, rfl⟩
    · rcases getElem?_concat_cases hc with hc | ⟨rfl, -⟩
      · exact (h.each id w c hbefore hc).concat _ rfl (by simp [Step.closing?])
      · exact absurd (List.getElem?_eq_some_iff.1 hbefore).1 (hlength ▸ Nat.lt_irrefl _)
    · rcases getElem?_concat_cases hc with hbefore | ⟨-, rfl⟩
      · exact absurd (List.getElem?_eq_some_iff.1 hbefore).1 (hlength ▸ Nat.lt_irrefl _)
      · exact h.standing_opened scope location name sibling
  case known => exact h.known.concat _ fun id hid => by cases hid
  case unwritten => exact fun id hid => h.unwritten_concat hid rfl
  case through =>
    refine h.through_concat ?_
    rintro _ ⟨⟩ k hk
    exact hscope k hk
  case registry => exact h.registry_concat rfl rfl
  case scopes => exact fun _ _ => h.scopes_concat rfl

theorem write (h : Stands done s) {v : Writer} {data : Bytes} (hw : s.writers[id]? = some w)
    (hwrite : w.writer.write data = .ok v) :
    Stands (done ++ [.write id data])
      { s with writers := s.writers.modify id fun o => { o with writer := v } } := by
  have hopenings : openings (done ++ [.write id data]) = openings done := by
    rw [openings_concat]
    exact List.append_nil _
  have hid : id < (openings done).length := h.writers ▸ (List.getElem?_eq_some_iff.1 hw).1
  constructor
  case writers => rw [hopenings, List.length_modify, h.writers]
  case contexts => rw [hopenings, h.contexts]
  case count => rw [countP_concat, ← h.count]; rfl
  case each =>
    intro other o c ho hc
    rcases getElem?_modify_cases ho with ⟨o₀, rfl, ho₀, rfl⟩ | ⟨hother, ho⟩
    · obtain rfl : o₀ = w := Option.some.inj (ho₀.symm.trans hw)
      exact (h.each id o₀ c ho₀ hc).write hwrite
    · exact (h.each other o c ho hc).concat _ (if_neg hother) (by simp [Step.closing?])
  case known => exact h.known.concat _ fun id hid => by cases hid
  case unwritten =>
    intro other hother
    have hne : id ≠ other := fun heq => absurd (heq ▸ hid) (Nat.not_lt.2 (hopenings ▸ hother))
    exact h.unwritten_concat hother (if_neg hne)
  case through => exact h.through_concat fun o hnew => by cases hnew
  case registry => exact h.registry_concat rfl rfl
  case scopes => exact fun _ _ => h.scopes_concat rfl

theorem closeAgain (h : Stands done s) (hclosed : id ∈ closings done) :
    Stands (done ++ [.close id]) s := by
  constructor
  case writers => rw [openings_concat_close, h.writers]
  case contexts => rw [openings_concat_close, h.contexts]
  case count => rw [countP_concat, ← h.count]; rfl
  case each =>
    intro other o c ho hc
    have hstanding := h.each other o c ho hc
    by_cases hother : id = other
    · subst hother
      exact hstanding.closeAgain hclosed
    · exact hstanding.concat _ rfl (by simpa [Step.closing?] using hother)
  case known =>
    refine h.known.concat _ fun other hother => ?_
    obtain rfl : id = other := Option.some.inj hother
    exact h.known id hclosed
  case unwritten => exact fun other hother => h.unwritten_concat hother rfl
  case through => exact h.through_concat fun o hnew => by cases hnew
  case registry =>
    rw [generations_concat_closed hclosed]
    exact h.registry
  case scopes =>
    intro scope found hfound
    rw [emissions_concat_closed scope hclosed]
    exact h.scopes scope found hfound

/-- A writer is closed: its context is the newest of its canonical name, and of its qualified name in the
scope it was opened through. -/
theorem close (h : Stands done s) (hw : s.writers[id]? = some w) (hopen : w.writer.closed = false)
    (hc : s.contexts[id]? = some c) (log : List Record) :
    Stands (done ++ [.close id])
      { sealed id w s with
        registry := s.registry.replace c.canonical w.context
        scopes := remembered w.scope c.qualified w.context s.scopes
        log } := by
  have hstanding := h.each id w c hw hc
  have hid : id < (openings done).length := (List.getElem?_eq_some_iff.1 hstanding.opened).1
  have hnot : id ∉ closings done := by
    rw [← hstanding.closed, hopen]
    exact Bool.false_ne_true
  constructor
  case writers => rw [openings_concat_close, sealed, List.length_modify, h.writers]
  case contexts => rw [openings_concat_close, sealed, List.length_modify, h.contexts]
  case count => rw [length_remembered, countP_concat, ← h.count]; rfl
  case each =>
    intro other o d ho hd
    rw [sealed, hstanding.context] at hd
    rcases getElem?_modify_cases ho with ⟨o₀, rfl, ho₀, rfl⟩ | ⟨hother, ho⟩
    · obtain rfl : o₀ = w := Option.some.inj (ho₀.symm.trans hw)
      rcases getElem?_modify_cases hd with ⟨d₀, -, hd₀, rfl⟩ | ⟨hne, -⟩
      · obtain rfl : d₀ = c := Option.some.inj (hd₀.symm.trans hc)
        exact hstanding.close
      · exact absurd rfl hne
    · rcases getElem?_modify_cases hd with ⟨d₀, rfl, -⟩ | ⟨-, hd⟩
      · exact absurd rfl hother
      · exact (h.each other o d ho hd).concat _ rfl (by simpa [Step.closing?] using hother)
  case known =>
    refine h.known.concat _ fun other hother => ?_
    obtain rfl : id = other := Option.some.inj hother
    exact hid
  case unwritten => exact fun other hother => h.unwritten_concat hother rfl
  case through =>
    rw [length_remembered]
    exact h.through_concat fun o hnew => by cases hnew
  case registry =>
    rw [Registry.entries_replace, generations_concat_close hstanding.opened hnot, hstanding.context]
    exact h.registry.set _ _
  case scopes =>
    intro scope found hfound
    rw [getElem?_remembered] at hfound
    rw [emissions_concat_close scope hstanding.opened hnot]
    by_cases hscope : w.scope = some scope
    · rw [if_pos hscope] at hfound ⊢
      obtain ⟨before, hbefore, rfl⟩ := Option.map_eq_some_iff.1 hfound
      rw [hstanding.context]
      exact (h.scopes scope before hbefore).set _ _
    · rw [if_neg hscope] at hfound ⊢
      exact h.scopes scope found hfound

end Stands

end UnitFoundry.Emission
