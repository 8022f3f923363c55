import UnitFoundry.Compiler
import UnitFoundry.Proofs.Backends
import UnitFoundry.Proofs.Loader.Governed

/-!
# What compilations can do to a session

A compilation loads contexts, invokes a backend and writes to the log. So whatever is kept to by the making of
modules, by the log and by the invocations of a backend, is kept to by the compilations with this backend. What
allows the steps of scripts and the steps of emission is kept to by every compilation, with any backend.

* `Discipline.Serves` — a discipline that allows all that a compilation does around its invocations;
* `Serves.keeps_compile` — **compilations keep to it** if the invocations of their backend do;
* `Compiling` — a contract that allows the steps of emission, too;
* `Compiling.keeps_compile` — **all compilations keep to it** whose backend asks for what it allows, whatever they
  end with.
-/

namespace UnitFoundry

open Script Text

/-! ## The steps of an attempt -/

namespace Script.Discipline

variable {d : Discipline}

/-- A discipline that allows loads and log records, whatever is failed with. -/
structure Serves (d : Discipline) : Prop where
  materializes : d.Materializes
  logged : ∀ severity channel text, d.Keeps (Action.logged severity channel text)
  lenient : ∀ f, d.fails f

namespace Serves

variable {backend : Backend} {name source : String}

theorem keeps_load (h : d.Serves) (id : ContextId) : d.Keeps (Loader.load id) := h.materializes.keeps_load id

theorem keeps_served (h : d.Serves) (name : String) (result : Except Failure ModuleId) :
    d.Keeps (Compiler.served name result) := by
  unfold Compiler.served
  split
  · exact (h.logged ..).bind fun _ _ => .pure _
  · split
    · exact (h.logged ..).bind fun _ _ => .pure none
    · exact .throw (h.lenient _)
  · exact .throw (h.lenient _)

theorem keeps_cached (h : d.Serves) (name : String) : d.Keeps (Compiler.cached name) := by
  refine (keeps_lookup _).bind fun found _ => ?_
  cases found with
  | none => exact .pure none
  | some id =>
    refine (keeps_context id).bind fun c _ => ?_
    split
    · exact .pure none
    · exact (keeps_attempt (h.keeps_load id)).bind fun result _ => h.keeps_served name result

theorem keeps_loadPublished (h : d.Serves) (name : String) (published : List (String × ContextId)) :
    d.Keeps (Compiler.loadPublished name published) := by
  refine (keeps_lookup _).bind fun found _ => ?_
  cases found with
  | none => exact .throw (h.lenient _)
  | some active =>
    have hdone (chosen : ContextId) : d.Keeps (do
        Action.logged .debug .compiler ("[compile:done] " ++ name)
        Loader.load chosen) :=
      (h.logged ..).bind fun _ _ => h.keeps_load chosen
    show d.Keeps (if _ then _ else _)
    split
    · exact (keeps_context active).bind fun c _ => (h.logged ..).bind fun _ _ => hdone _
    · exact hdone _

theorem keeps_settle (h : d.Serves) (name source : String) (outcome : Outcome) :
    d.Keeps (Compiler.settle name source outcome) := by
  unfold Compiler.settle
  split
  · exact h.keeps_loadPublished ..
  · exact (h.logged ..).bind fun _ _ => .throw (h.lenient _)

/-! ## Compilations -/

theorem keeps_compileOnce (h : d.Serves) {options : Options}
    (hinvoke : d.Keeps (Compiler.invoke backend name source options)) :
    d.Keeps (Compiler.compileOnce backend name source options) := by
  refine (h.keeps_cached name).bind fun found _ => ?_
  cases found with
  | some m => exact .pure m
  | none => exact hinvoke.bind fun outcome _ => h.keeps_settle ..

/-- **Compilations keep to what the invocations of their backend keep to.** -/
theorem keeps_compile (h : d.Serves)
    (hinvoke : ∀ options, d.Keeps (Compiler.invoke backend name source options)) :
    d.Keeps (Compiler.compile backend name source) := by
  refine keeps_seeing (fun s => ?_) fun _ _ halike => by rw [halike.policy]
  refine (keeps_attempt (h.keeps_compileOnce (hinvoke _))).bind fun result _ => ?_
  split
  · exact .pure _
  · split
    · exact (h.logged ..).bind fun _ _ => h.keeps_compileOnce (hinvoke _)
    · exact .throw (h.lenient _)
  · exact .throw (h.lenient _)

theorem keeps_loadActive (h : d.Serves) (name : String) : d.Keeps (Compiler.loadActive name) := by
  refine (keeps_find name).bind fun found _ => ?_
  cases found with
  | none => exact .throw (h.lenient _)
  | some id => exact h.keeps_load id

end Serves

end Script.Discipline

/-! ## With any backend -/

/-- A contract that allows what scripts do and what is done when artifacts are emitted, and that the
making of modules keeps to. -/
structure Compiling extends Discipline, Emitting where
  materializes : toDiscipline.Materializes

namespace Compiling

variable {d : Compiling}

theorem serves (d : Compiling) : d.toDiscipline.Serves where
  materializes := d.materializes
  logged := d.toEmitting.keeps_logged
  lenient := d.lenient

theorem keeps_cached (name : String) : d.Keeps (Compiler.cached name) := d.serves.keeps_cached name

theorem keeps_invoke (backend : Backend) (name source : String) (options : Options)
    (hbackend : backend.Within d.toEmitting := by exact Emitting.IsFree.backend {} _) :
    d.Keeps (Compiler.invoke backend name source options) :=
  (d.toEmitting.keeps_putSource ..).bind fun _ _ => (d.serves.logged ..).bind fun _ _ =>
    d.toEmitting.keeps_invoke d.toEmitting.keeps_logDiagnostic hbackend ..

theorem keeps_compileOnce (backend : Backend) (name source : String) (options : Options)
    (hbackend : backend.Within d.toEmitting := by exact Emitting.IsFree.backend {} _) :
    d.Keeps (Compiler.compileOnce backend name source options) :=
  d.serves.keeps_compileOnce (keeps_invoke backend name source options hbackend)

/-- **Compilations keep to what allows their steps.** -/
theorem keeps_compile (backend : Backend) (name source : String)
    (hbackend : backend.Within d.toEmitting := by exact Emitting.IsFree.backend {} _) :
    d.Keeps (Compiler.compile backend name source) :=
  d.serves.keeps_compile fun options => keeps_invoke backend name source options hbackend

end Compiling

end UnitFoundry
