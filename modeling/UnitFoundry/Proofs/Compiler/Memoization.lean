import UnitFoundry.Proofs.Compiler.Reading
import UnitFoundry.Proofs.Session.Isolation
import UnitFoundry.Proofs.Session.Keys

/-!
# What was compiled once

A compilation that succeeds leaves a context active under the name, which holds the module that is handed
out. As nothing takes a module away from a context that holds one, it is handed out again and again: by loads
under the versioned name and under the canonical one, and by compilations under the versioned name, which
therefore need no backend and do not look at their source. What is done to other units in the meantime is of
no importance. This ends only when the slot leads elsewhere: when something else is published for the unit,
or the registry is cleared.

* `Remembers` — the module of a name is handed out, without a backend;
* `remembers_of_holds` — it is if the active context holds it;
* `memoized` — **what was compiled once is remembered**, as long as its slot is left alone.
-/

namespace UnitFoundry.Compiler

open Script Text Standard

variable {read : Reader} {name source : String} {s t : Session} {id : ContextId} {m : ModuleId}

/-- A module is handed out for a name by every load of the unit and by every compilation under this name.
Loads change nothing. Compilations invoke no backend, whatever their source is, and write to the log. -/
structure Remembers (name : String) (m : ModuleId) (s : Session) : Prop where
  load : loadActive name s = .ok m s
  loadCanonical : loadActive (UnitName.canonical name) s = .ok m s
  invocations : ∀ backend source, invocations backend name source s = []
  compile : ∀ backend source, ∃ log, compile backend name source s = .ok m { s with log }

/-- A load of the unit is one of the context that is found. -/
theorem loadActive_of_find? (hid : s.registry.find? name = some id) :
    loadActive name s = Loader.load id s := by
  rw [loadActive, Action.bind_ok (Action.find_apply name s), hid]

/-- A module is handed out if the context that is active under the name holds it. -/
theorem remembers_of_holds (hs : s.Reachable) (hname : '\n' ∉ name.toList) (hactive : Active s name id)
    (hheld : s.Holds id m) : Remembers name m s := by
  obtain ⟨c, hc, hm⟩ := hheld
  have hload : Loader.load id s = .ok m s := Loader.load_of_module hc hm
  have hserves : Serves s name := ⟨id, hactive, fun e t herror => by cases hload.symm.trans herror⟩
  constructor
  case load =>
    have hfound : s.registry.find? name = some id := (hs.keyed.find?_eq hname).trans hactive.1
    rw [loadActive_of_find? hfound, hload]
  case loadCanonical =>
    have hfound : s.registry.find? (UnitName.canonical name) = some id :=
      (hs.keyed.find?_canonical hname).trans hactive.1
    rw [loadActive_of_find? hfound, hload]
  case invocations =>
    intro backend source
    by_contra hinvoked
    exact (invocations_ne_nil_iff hs.sound).1 hinvoked hserves
  case compile =>
    intro backend source
    obtain ⟨log, hcached⟩ := cached_of_load hactive hload
    exact ⟨log, compile_of_cached backend source hcached⟩

/-- **What was compiled once is remembered.** After a compilation that gave a module the canonical name leads
to a context with the very name, and every other canonical name leads where it led before. Whatever is done
then, to other units or to this one, the same module is handed out for the name for as long as its slot leads
to this context. -/
theorem memoized (hs : s.Reachable) (hname : '\n' ∉ name.toList)
    (h : compile (.reading read) name source s = .ok m t) :
    (∃ id c, t.registry.lookup? (UnitName.canonical name) = some id ∧ t.contexts[id]? = some c ∧
      c.qualified = name) ∧
    (∀ canonical, canonical ≠ UnitName.canonical name →
      t.registry.lookup? canonical = s.registry.lookup? canonical) ∧
    ∀ operations, (t.performed operations).registry.lookup? (UnitName.canonical name) =
        t.registry.lookup? (UnitName.canonical name) →
      Remembers name m (t.performed operations) := by
  have ht : t.Reachable := by
    have hafter := hs.step (.compile (.reading read) name source)
    have hperform : Operation.perform (.compile (.reading read) name source) s = .ok ⟨⟩ t :=
      Action.bind_ok h
    rwa [Session.after, hperform] at hafter
  obtain ⟨⟨id, hactive, hheld⟩, hothers⟩ := accomplished_of_compile hs.sound h
  obtain ⟨hid, c, hc, hq⟩ := hactive
  refine ⟨⟨id, c, hid, hc, hq⟩, hothers, fun operations hslot => ?_⟩
  -- the context still holds the module, and is still the active one
  obtain ⟨d, hd, hm⟩ := hheld
  obtain rfl := Option.some.inj (hc.symm.trans hd)
  have hlater := (ht.isolated hc hm operations).1
  exact remembers_of_holds (ht.performed operations) hname ⟨hslot.trans hid, c, hlater, hq⟩
    ⟨c, hlater, hm⟩

/-! ## A unit that is compiled anew -/

/-- A session in which a generation of a unit is published. -/
def published : Session := Session.holdingUnits [("p.A_ts1", "x = 1\n")]

/-- What a compilation of the next generation leaves behind. -/
def renewed : Session := leftBy (compile .standard "p.A_ts2" "x = 2\n" published)

/-- One more generation is begun, and a unit that imports this one is compiled in vain. -/
def meanwhile : List Operation :=
  [.openOutput none .classOutput "p.A_ts3" .artifact none,
    .compile .standard "p.B_ts1" "import p.A as a\nraise Exception\n"]

theorem renewed_memoized : published.Reachable ∧ '\n' ∉ "p.A_ts2".toList ∧
    ∃ m, compile .standard "p.A_ts2" "x = 2\n" published = .ok m renewed ∧
      Remembers "p.A_ts2" m (renewed.performed meanwhile) := by
  have hreachable : published.Reachable := Session.holdingUnits_reachable _
  have hname : '\n' ∉ "p.A_ts2".toList := by decide
  have hgiven : (compile .standard "p.A_ts2" "x = 2\n").run' published = some 0 := by decide +kernel
  have hslot : (renewed.performed meanwhile).registry.lookup? (UnitName.canonical "p.A_ts2") =
      renewed.registry.lookup? (UnitName.canonical "p.A_ts2") := by decide +kernel
  obtain ⟨t, hcompile⟩ := Action.exists_of_run hgiven
  obtain rfl : renewed = t := congrArg leftBy hcompile
  have hremembers := (memoized hreachable hname hcompile).2.2 meanwhile hslot
  exact ⟨hreachable, hname, 0, hcompile, hremembers⟩

end UnitFoundry.Compiler
