import UnitFoundry.Proofs.Backend.Discovery
import UnitFoundry.Proofs.Setup
import UnitFoundry.Proofs.Store

/-!
# Compilers that cannot be set up

A compiler that is set up from settings gets a side store, if there is a directory for one, then its backend, then its
places. Each of them may fail to be had, and then those after it are not tried. The change that makes the policy does
not fail, for the target version of settings is one.

* `opened` — the tree in which there is a directory for the side store, and why there is none;
* `openStore_error`, `openPlaces_fails_iff`, `choose_fails_iff` — how each step fails;
* `settle_failure` — why places cannot be had;
* `Fails` — **how the setting up fails**, with the failure for each way;
* `ofSettings_fails_iff` — there is no other way.
-/

namespace UnitFoundry.Setup

open Text

variable {settings : Settings} {directory : Path} {places : List Path} {s t : Session} {b : Backend} {f : Failure}
  {why : Raised} {disk : Disk}

/-! ## The side store -/

/-- The tree in which there is a directory for the side store of settings, and why there is none. -/
def opened (disk : Disk) (settings : Settings) : Disk × Option Raised :=
  match settings.compileDirectory with
  | some directory => disk.madeDirectories directory
  | none => (disk, none)

/-- There is none only where the settings ask for one and it cannot be made. -/
theorem madeDirectories_of_opened (h : (opened disk settings).2 = some why) :
    ∃ directory, disk.madeDirectories directory = ((opened disk settings).1, some why) := by
  rw [opened] at h ⊢
  cases hdirectory : settings.compileDirectory with
  | none =>
    rw [hdirectory] at h
    cases h
  | some directory =>
    rw [hdirectory] at h
    exact ⟨directory, Prod.ext rfl h⟩

theorem openStore_error {made : Disk} (h : s.disk.madeDirectories directory = (made, some why)) :
    openStore directory s = .error (.raised why) { s with disk := made } := by
  rw [openStore, Action.bind_ok (Action.get_apply s), DurableStore.establish, h]
  rfl

theorem openStore_ok {made : Disk} (h : s.disk.madeDirectories directory = (made, none)) :
    openStore directory s = .ok ⟨⟩ { s with disk := made, sideStore := .durable { directory } } := by
  rw [openStore, Action.bind_ok (Action.get_apply s), DurableStore.establish, h]
  rfl

/-! ## The places -/

/-- Places that cannot be had: one of them is in the home directory of somebody unknown, or is too long to be looked
up. -/
theorem settle_failure (h : (settle disk places).failure = some f) :
    (∃ place ∈ places, expandHome place = .error f) ∨ ∃ place why, disk.look place = .error why ∧ f = .raised why := by
  induction places with
  | nil => cases h
  | cons given rest ih =>
    rw [settle] at h
    cases hhome : expandHome given with
    | error g =>
      rw [hhome] at h
      cases h
      exact .inl ⟨given, List.mem_cons_self, hhome⟩
    | ok place =>
      rw [hhome] at h
      dsimp only at h
      split at h
      · rename_i why hlook
        cases h
        exact .inr ⟨place, why, hlook, rfl⟩
      all_goals
        rcases ih h with ⟨other, hother, hfails⟩ | hlook
        · exact .inl ⟨other, List.mem_cons_of_mem given hother, hfails⟩
        · exact .inr hlook

/-- Places that are missing go to the log, whatever else becomes of them. -/
theorem forM_logged (missing : List Path) (s : Session) : ∃ log, (missing.forM fun place =>
    Action.logged .warning .resources ("Resource location does not exist: " ++ place.toString) : Action Unit) s =
      .ok ⟨⟩ { s with log } := by
  induction missing generalizing s with
  | nil => exact ⟨s.log, rfl⟩
  | cons place rest ih =>
    obtain ⟨log, hlog⟩ := ih { s with log := record s.level s.log ⟨.warning, .resources,
      "Resource location does not exist: " ++ place.toString⟩ }
    exact ⟨log, (Action.bind_ok (Action.logged_apply ..)).trans hlog⟩

theorem openPlaces_fails_iff :
    (∃ t, openPlaces places s = .error f t) ↔ (settle s.disk places).failure = some f := by
  obtain ⟨log, hlog⟩ := forM_logged (settle s.disk places).missing s
  rw [openPlaces, Action.bind_ok (Action.get_apply s), Action.bind_ok hlog]
  cases (settle s.disk places).failure with
  | none =>
    constructor
    · rintro ⟨t, h⟩
      cases h
    · intro h
      cases h
  | some g =>
    constructor
    · rintro ⟨t, h⟩
      cases h
      rfl
    · intro h
      cases h
      exact ⟨_, rfl⟩

/-! ## All steps -/

/-- The settings never ask for a target version that is none. -/
theorem refused_settingsChange (settings : Settings) : (settingsChange settings).refused? = none := by
  rw [Change.refused?, Change.target?, settingsChange]
  cases settings.target with
  | none => rfl
  | some v =>
    by_cases hcurrent : v.text = currentVersion
    · simp [Option.filter, hcurrent]
    · simp [Option.filter, hcurrent, v.text_ne_empty, v.ofString?_text]

/-- How a compiler cannot be set up from settings. -/
inductive Fails (disk : Disk) (settings : Settings) : Failure → Prop where
  /-- There is no directory for the side store. -/
  | noStore {why : Raised} (h : (opened disk settings).2 = some why) : Fails disk settings (.raised why)
  /-- There is no backend. -/
  | noBackend {f : Failure} (hstore : (opened disk settings).2 = none)
    (h : Catalogue.installed.find (some settings.backend) = .error f) : Fails disk settings f
  /-- There is a place that cannot be had. -/
  | noPlaces {b : Backend} {f : Failure} (hstore : (opened disk settings).2 = none)
    (hbackend : Catalogue.installed.find (some settings.backend) = .ok b)
    (h : (settle (opened disk settings).1 settings.resourcePath).failure = some f) : Fails disk settings f

/-- What a setting up does once there is a side store. -/
theorem run_fails_iff {setup : Setup} (hfirst : setup.placesFirst = false) (hchange : setup.change.refused? = none) :
    (∃ t, setup.run s = .error f t) ↔ (∃ t, choose setup.backend s = .error f t) ∨
      ∃ b u, choose setup.backend s = .ok b u ∧ ∃ t, openPlaces setup.places u = .error f t := by
  have hrun : setup.run = (do
      let b ← choose setup.backend
      openPlaces setup.places
      modify fun s => { s with verbose := setup.verbose }
      Compiler.configure setup.change
      pure b : Action Backend) := by
    unfold run
    simp [hfirst]
  rw [hrun]
  constructor
  · rintro ⟨t, h⟩
    rcases Action.bind_eq_error.1 h with hchoose | ⟨b, u, hchoose, h⟩
    · exact .inl ⟨t, hchoose⟩
    rcases Action.bind_eq_error.1 h with hplaces | ⟨_, v, hplaces, h⟩
    · exact .inr ⟨b, u, hchoose, t, hplaces⟩
    obtain ⟨_, w, hverbose, h⟩ := (Action.bind_eq_error.1 h).resolve_left (by rintro ⟨⟩)
    rw [Action.bind_ok (Compiler.configure_ok hchange w)] at h
    cases h
  · rintro (⟨t, hchoose⟩ | ⟨b, u, hchoose, t, hplaces⟩)
    · exact ⟨t, Action.bind_error hchoose⟩
    · exact ⟨t, (Action.bind_ok hchoose).trans (Action.bind_error hplaces)⟩

/-- A backend that is named is had unless the catalogue fails. -/
theorem choose_fails_iff {spec? : Option String} :
    (∃ t, choose (.named spec?) s = .error f t) ↔ Catalogue.installed.find spec? = .error f := by
  rw [choose, Catalogue.load]
  cases Catalogue.installed.find spec? with
  | error g =>
    rw [Action.bind_error (Action.ofExcept_error g s)]
    constructor
    · rintro ⟨t, ⟨⟩⟩
      rfl
    · rintro ⟨⟩
      exact ⟨s, rfl⟩
  | ok b =>
    rw [Action.bind_ok (Action.ofExcept_ok b s)]
    constructor
    · rintro ⟨t, h⟩
      cases hfound : Catalogue.installed.foundText? (spec?.getD "") b with
      | none =>
        rw [hfound] at h
        cases h
      | some text =>
        rw [hfound] at h
        cases h
    · rintro ⟨⟩

/-- It is what the catalogue has under its name, and only the log tells that it was looked for. -/
theorem exists_choose_of_find {spec? : Option String} (h : Catalogue.installed.find spec? = .ok b) (s : Session) :
    ∃ log, choose (.named spec?) s = .ok b { s with log } := by
  rw [choose, Catalogue.load, h, Action.bind_ok (Action.ofExcept_ok b s)]
  cases Catalogue.installed.foundText? (spec?.getD "") b with
  | none => exact ⟨s.log, rfl⟩
  | some text => exact ⟨_, rfl⟩

theorem choose_eq_ok {spec? : Option String} (h : choose (.named spec?) s = .ok b t) :
    Catalogue.installed.find spec? = .ok b ∧ t.disk = s.disk := by
  cases hfind : Catalogue.installed.find spec? with
  | error f =>
    obtain ⟨u, hfails⟩ := choose_fails_iff.2 hfind
    cases hfails.symm.trans h
  | ok found =>
    obtain ⟨log, hok⟩ := exists_choose_of_find hfind s
    cases hok.symm.trans h
    exact ⟨rfl, rfl⟩

/-- What settings ask for beside a side store. -/
def equipment (settings : Settings) : Setup where
  backend := .named (some settings.backend)
  places := settings.resourcePath
  verbose := if settings.verbose then some true else none
  change := settingsChange settings

/-- Once there is a directory for the side store, if there is to be one, the rest may fail. -/
theorem run_equipment_fails_iff (hdisk : s.disk = (opened disk settings).1)
    (hstore : (opened disk settings).2 = none) :
    (∃ t, (equipment settings).run s = .error f t) ↔ Fails disk settings f := by
  rw [run_fails_iff rfl (refused_settingsChange settings)]
  simp only [openPlaces_fails_iff]
  constructor
  · rintro (hchoose | ⟨b, u, hchoose, hplaces⟩)
    · exact .noBackend hstore (choose_fails_iff.1 hchoose)
    · obtain ⟨hfind, hsame⟩ := choose_eq_ok hchoose
      rw [hsame, hdisk] at hplaces
      exact .noPlaces hstore hfind hplaces
  · intro h
    cases h with
    | noStore h => cases hstore.symm.trans h
    | noBackend _ hfind => exact .inl (choose_fails_iff.2 hfind)
    | noPlaces _ hfind hplaces =>
      obtain ⟨log, hok⟩ := exists_choose_of_find hfind s
      rw [← hdisk] at hplaces
      exact .inr ⟨_, _, hok, hplaces⟩

/-- **A compiler cannot be set up in these ways only.** -/
theorem ofSettings_fails_iff : (∃ t, ofSettings settings none s = .error f t) ↔ Fails s.disk settings f := by
  unfold ofSettings
  cases hdirectory : settings.compileDirectory with
  | none => exact run_equipment_fails_iff (by rw [opened, hdirectory]) (by rw [opened, hdirectory])
  | some directory =>
    have hopened : opened s.disk settings = s.disk.madeDirectories directory := by rw [opened, hdirectory]
    obtain ⟨⟨made, outcome⟩, hmade⟩ : ∃ result, s.disk.madeDirectories directory = result := ⟨_, rfl⟩
    dsimp only
    cases outcome with
    | none =>
      rw [Action.bind_ok (openStore_ok hmade)]
      exact run_equipment_fails_iff (by rw [hopened, hmade]) (by rw [hopened, hmade])
    | some why =>
      rw [Action.bind_error (openStore_error hmade)]
      constructor
      · rintro ⟨t, h⟩
        cases h
        exact .noStore (by rw [hopened, hmade])
      · intro h
        cases h with
        | noStore h =>
          rw [hopened, hmade] at h
          cases h
          exact ⟨_, rfl⟩
        | noBackend hstore | noPlaces hstore =>
          rw [hopened, hmade] at hstore
          cases hstore

end UnitFoundry.Setup
