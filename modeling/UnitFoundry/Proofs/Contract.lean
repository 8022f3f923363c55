import UnitFoundry.Failure
import Mathlib.Tactic.Common

/-!
# What operations keep to

Many laws say that every operation of some kind respects one and the same thing: an invariant of the
state, a relation between the state before and the state after, a property of the failures it may
end with, a likeness of states that it does not tell apart. A `Contract` is such a thing, and
`Contract.Keeps` says that an operation respects it, whatever it ends with.

* `Contract`, `Contract.Keeps` — a contract, and the operations that keep to it;
* `Contract.Agree` — results that are the same, with states that are alike;
* `Contract.Gives` — the values that an operation can end with;
* `Keeps.bind` and its kind — operations put together from parts that keep to a contract keep to it.

The statements about how operations are put together are tagged for `grind`, which then follows the
shape of a definition by itself; what is left to say in a proof is why its parts keep to the contract.
-/

namespace UnitFoundry

/-- What operations keep to. Exceptions are failures that every contract allows. Most contracts are about one
run: there only equal states are alike. -/
structure Contract (σ : Type) where
  inv : σ → Prop
  rel : σ → σ → Prop
  fails : Failure → Prop
  /-- The states that operations are not to tell apart. -/
  alike : σ → σ → Prop := Eq
  refl : ∀ s, rel s s
  trans : ∀ {s t u}, rel s t → rel t u → rel s u
  raised : ∀ r, fails (.raised r)
  thrown : ∀ kind object, fails (.thrown kind object)

namespace Contract

variable {σ α β : Type} {c : Contract σ}

/-- Two results are the same value or the same failure, and the states they leave behind are alike. -/
inductive Agree (alike : σ → σ → Prop) :
    EStateM.Result Failure σ α → EStateM.Result Failure σ α → Prop where
  | ok {a : α} {s t : σ} (h : alike s t) : Agree alike (.ok a s) (.ok a t)
  | error {f : Failure} {s t : σ} (h : alike s t) : Agree alike (.error f s) (.error f t)

/-- Whatever an operation ends with, it kept to a contract, and from states that are alike it ends alike. -/
structure Keeps (c : Contract σ) (act : EStateM Failure σ α) : Prop where
  ok : ∀ {s a t}, c.inv s → act s = .ok a t → c.inv t ∧ c.rel s t
  error : ∀ {s f t}, c.inv s → act s = .error f t → c.inv t ∧ c.rel s t ∧ c.fails f
  agree : ∀ {s t}, c.inv s → c.inv t → c.alike s t → Agree c.alike (act s) (act t)

/-- Some start that satisfies the invariant makes an operation end with a value. -/
def Gives (c : Contract σ) (act : EStateM Failure σ α) (a : α) : Prop :=
  ∃ s t, c.inv s ∧ act s = .ok a t

attribute [grind ←] Contract.raised Contract.thrown

@[grind ←]
theorem fails_exception (kind message : String) : c.fails (.exception kind message) :=
  c.raised _

/-! ## Results that agree -/

theorem Agree.of_eq {alike : σ → σ → Prop} {r r' : EStateM.Result Failure σ α} (halike : alike = Eq)
    (h : r = r') : Agree alike r r' := by
  subst halike h
  cases r with
  | ok a s => exact .ok rfl
  | error f s => exact .error rfl

/-- Operations that agree go on from the same value and from states that are alike, or end with the same failure. -/
theorem Agree.bind {alike : σ → σ → Prop} {x : EStateM Failure σ α} {f : α → EStateM Failure σ β} {s t : σ}
    (h : Agree alike (x s) (x t))
    (hf : ∀ a u v, x s = .ok a u → x t = .ok a v → alike u v → Agree alike (f a u) (f a v)) :
    Agree alike ((x >>= f) s) ((x >>= f) t) := by
  simp only [Bind.bind, EStateM.bind]
  cases hs : x s with
  | ok a u =>
    cases ht : x t with
    | ok b v =>
      rw [hs, ht] at h
      cases h with
      | ok huv => exact hf a u v hs ht huv
    | error g v =>
      rw [hs, ht] at h
      cases h
  | error e u =>
    cases ht : x t with
    | ok b v =>
      rw [hs, ht] at h
      cases h
    | error g v =>
      rw [hs, ht] at h
      cases h with
      | error huv => exact .error huv

/-! ## Parts put together -/

/-- Where only equal states are alike, there is nothing to be said about two runs. -/
theorem Keeps.of_one {act : EStateM Failure σ α} (halike : c.alike = Eq)
    (ok : ∀ {s a t}, c.inv s → act s = .ok a t → c.inv t ∧ c.rel s t)
    (error : ∀ {s f t}, c.inv s → act s = .error f t → c.inv t ∧ c.rel s t ∧ c.fails f) :
    c.Keeps act where
  ok := ok
  error := error
  agree {s t} _ _ h := by
    rw [halike] at h
    exact .of_eq halike (congrArg act h)

/-- From states that are alike an operation ends with the same value or with the same failure. -/
theorem Keeps.both {act : EStateM Failure σ α} (h : c.Keeps act) {s t : σ} (hs : c.inv s) (ht : c.inv t)
    (hst : c.alike s t) :
    (∃ a u v, act s = .ok a u ∧ act t = .ok a v ∧ c.inv u ∧ c.inv v ∧ c.alike u v) ∨
      ∃ f u v, act s = .error f u ∧ act t = .error f v ∧ c.inv u ∧ c.inv v ∧ c.alike u v := by
  have hok {a u v} (hu : act s = .ok a u) (hv : act t = .ok a v) : c.inv u ∧ c.inv v :=
    ⟨(h.ok hs hu).1, (h.ok ht hv).1⟩
  have herror {f u v} (hu : act s = .error f u) (hv : act t = .error f v) : c.inv u ∧ c.inv v :=
    ⟨(h.error hs hu).1, (h.error ht hv).1⟩
  have hagree := h.agree hs ht hst
  generalize act s = r, act t = r' at hok herror hagree
  cases hagree with
  | @ok a u v huv => exact .inl ⟨a, u, v, rfl, rfl, (hok rfl rfl).1, (hok rfl rfl).2, huv⟩
  | @error f u v huv => exact .inr ⟨f, u, v, rfl, rfl, (herror rfl rfl).1, (herror rfl rfl).2, huv⟩

/-- An operation that leaves the state as it is and ends with what depends on nothing that is to be told apart. -/
theorem Keeps.of_look {act : EStateM Failure σ α} (look : σ → Except Failure α)
    (h : ∀ s, act s = (ofExcept (look s) : EStateM Failure σ α) s) (hfails : ∀ s f, look s = .error f → c.fails f)
    (hlook : ∀ {s t}, c.inv s → c.inv t → c.alike s t → look s = look t) : c.Keeps act where
  ok {s a t} hs ha := by
    rw [h] at ha
    cases hl : look s with
    | ok b =>
      rw [hl] at ha
      cases ha
      exact ⟨hs, c.refl s⟩
    | error g =>
      rw [hl] at ha
      cases ha
  error {s f t} hs ha := by
    rw [h] at ha
    cases hl : look s with
    | ok b =>
      rw [hl] at ha
      cases ha
    | error g =>
      rw [hl] at ha
      cases ha
      exact ⟨hs, c.refl s, hfails s f hl⟩
  agree {s t} hs ht hst := by
    rw [h, h, hlook hs ht hst]
    cases look t with
    | ok a => exact .ok hst
    | error g => exact .error hst

/-- An operation that always succeeds, by a change of the state that keeps to the contract and does the same to
states that are alike. -/
theorem Keeps.of_change {act : EStateM Failure σ α} (result : σ → α) (change : σ → σ)
    (h : ∀ s, act s = .ok (result s) (change s))
    (hc : ∀ s, c.inv s → c.inv (change s) ∧ c.rel s (change s))
    (hagree : ∀ s t, c.inv s → c.inv t → c.alike s t → result s = result t ∧ c.alike (change s) (change t)) :
    c.Keeps act where
  ok {s a t} hs ha := by
    cases (h s).symm.trans ha
    exact hc s hs
  error {s f t} hs ha := by cases (h s).symm.trans ha
  agree {s t} hs ht hst := by
    obtain ⟨hresult, hchange⟩ := hagree s t hs ht hst
    rw [h, h, hresult]
    exact .ok hchange

/-- An operation that always succeeds, by a change of the state that keeps to the contract. -/
theorem Keeps.of_ok {act : EStateM Failure σ α} (result : σ → α) (change : σ → σ)
    (h : ∀ s, act s = .ok (result s) (change s))
    (hc : ∀ s, c.inv s → c.inv (change s) ∧ c.rel s (change s)) (halike : c.alike = Eq := by rfl) :
    c.Keeps act :=
  .of_change result change h hc fun s t _ _ hst => by
    rw [halike] at hst ⊢
    exact hst ▸ ⟨rfl, rfl⟩

/-- An operation that, wherever it starts, has done something in accordance with the contract when it
goes on as an operation that keeps to the contract. -/
theorem Keeps.of_goes_on {act : EStateM Failure σ α}
    (h : ∀ s, c.inv s → ∃ t rest, c.inv t ∧ c.rel s t ∧ c.Keeps rest ∧ act s = rest t)
    (halike : c.alike = Eq := by rfl) : c.Keeps act := by
  refine .of_one halike (fun {s a u} hs ha => ?_) fun {s f u} hs ha => ?_
  · obtain ⟨t, rest, ht, hst, hrest, heq⟩ := h s hs
    obtain ⟨hu, htu⟩ := hrest.ok ht (heq ▸ ha)
    exact ⟨hu, c.trans hst htu⟩
  · obtain ⟨t, rest, ht, hst, hrest, heq⟩ := h s hs
    obtain ⟨hu, htu, hf⟩ := hrest.error ht (heq ▸ ha)
    exact ⟨hu, c.trans hst htu, hf⟩

/-- An operation that, wherever it starts, has done something in accordance with the contract when it goes on as an
operation that keeps to the contract. From states that are alike it has then done the same, and goes on alike. -/
theorem Keeps.of_goes_along {act : EStateM Failure σ α} (hsame : ∀ s, c.alike s s)
    (h : ∀ s, c.inv s → ∃ (change : σ → σ) (rest : EStateM Failure σ α), c.Keeps rest ∧
      ∀ t, c.inv t → c.alike s t → act t = rest (change t) ∧ c.inv (change t) ∧ c.rel t (change t) ∧
        c.alike (change s) (change t)) : c.Keeps act where
  ok {s a u} hs ha := by
    obtain ⟨change, rest, hrest, h⟩ := h s hs
    obtain ⟨heq, ht, hst, -⟩ := h s hs (hsame s)
    obtain ⟨hu, htu⟩ := hrest.ok ht (heq ▸ ha)
    exact ⟨hu, c.trans hst htu⟩
  error {s f u} hs ha := by
    obtain ⟨change, rest, hrest, h⟩ := h s hs
    obtain ⟨heq, ht, hst, -⟩ := h s hs (hsame s)
    obtain ⟨hu, htu, hf⟩ := hrest.error ht (heq ▸ ha)
    exact ⟨hu, c.trans hst htu, hf⟩
  agree {s t} hs ht hst := by
    obtain ⟨change, rest, hrest, h⟩ := h s hs
    obtain ⟨hgoes, hinv, -⟩ := h s hs (hsame s)
    obtain ⟨hgoes', hinv', -, hchange⟩ := h t ht hst
    rw [hgoes, hgoes']
    exact hrest.agree hinv hinv' hchange

@[grind ←]
theorem Keeps.pure (a : α) : c.Keeps (pure a : EStateM Failure σ α) :=
  .of_look (fun _ => .ok a) (fun _ => rfl) (fun _ _ h => nomatch h) fun _ _ _ => rfl

@[grind ←]
theorem Keeps.throw {f : Failure} (h : c.fails f) :
    c.Keeps (throw f : EStateM Failure σ α) where
  ok {s a t} _ ha := by cases ha
  error {s g t} hs ha := by
    cases ha
    exact ⟨hs, c.refl s, h⟩
  agree _ _ hst := .error hst

/-- The second part is asked about only for what the first part can give. -/
@[grind ←]
theorem Keeps.bind {x : EStateM Failure σ α} {f : α → EStateM Failure σ β} (hx : c.Keeps x)
    (hf : ∀ a, c.Gives x a → c.Keeps (f a)) : c.Keeps (x >>= f) where
  ok {s b u} hs h := by
    cases hr : x s with
    | ok a t =>
      simp only [Bind.bind, EStateM.bind, hr] at h
      have first := hx.ok hs hr
      have second := (hf a ⟨s, t, hs, hr⟩).ok first.1 h
      exact ⟨second.1, c.trans first.2 second.2⟩
    | error e t => simp [Bind.bind, EStateM.bind, hr] at h
  error {s e u} hs h := by
    cases hr : x s with
    | ok a t =>
      simp only [Bind.bind, EStateM.bind, hr] at h
      have first := hx.ok hs hr
      have second := (hf a ⟨s, t, hs, hr⟩).error first.1 h
      exact ⟨second.1, c.trans first.2 second.2.1, second.2.2⟩
    | error e t =>
      simp only [Bind.bind, EStateM.bind, hr, EStateM.Result.error.injEq] at h
      obtain ⟨rfl, rfl⟩ := h
      exact hx.error hs hr
  agree {s t} hs ht hst := (hx.agree hs ht hst).bind fun a u v hu hv huv =>
    (hf a ⟨s, u, hs, hu⟩).agree (hx.ok hs hu).1 (hx.ok ht hv).1 huv

@[grind ←]
theorem Keeps.map {x : EStateM Failure σ α} {f : α → β} (hx : c.Keeps x) : c.Keeps (f <$> x) :=
  Keeps.bind hx fun a _ => Keeps.pure (f a)

theorem Keeps.of_except {e : Except Failure α} (h : ∀ f, e = .error f → c.fails f) :
    c.Keeps (ofExcept e : EStateM Failure σ α) := by
  cases e with
  | ok a => exact Keeps.pure a
  | error f => exact Keeps.throw (h f rfl)

/-! ## Results that are exceptions at worst -/

/-- A result that is an exception if it is a failure. -/
def Raises (e : Except Failure α) : Prop := ∀ f, e = .error f → ∃ r, f = .raised r

@[grind ←]
theorem Raises.ok (a : α) : Raises (.ok a) := by rintro f ⟨⟩

@[grind ←]
theorem Raises.pure (a : α) : Raises (pure a : Except Failure α) := .ok a

@[grind ←]
theorem Raises.error (kind message : String) :
    Raises (.error (.exception kind message) : Except Failure α) := by
  rintro f ⟨⟩
  exact ⟨_, rfl⟩

@[grind ←]
theorem Raises.bind {e : Except Failure α} {f : α → Except Failure β} (he : Raises e)
    (hf : ∀ a, Raises (f a)) : Raises (e >>= f) := by
  cases e with
  | ok a => exact hf a
  | error g =>
    rintro h ⟨⟩
    exact he g rfl

@[grind ←]
theorem Keeps.of_raises {e : Except Failure α} (h : Raises e) :
    c.Keeps (ofExcept e : EStateM Failure σ α) := by
  refine Keeps.of_except fun f hf => ?_
  obtain ⟨r, rfl⟩ := h f hf
  exact c.raised r

/-! ## Lists -/

@[grind ←]
theorem Keeps.mapM {l : List α} {f : α → EStateM Failure σ β} (h : ∀ a ∈ l, c.Keeps (f a)) :
    c.Keeps (l.mapM f) := by
  induction l with
  | nil => exact Keeps.pure []
  | cons a l ih =>
    rw [List.mapM_cons]
    exact (h a (by simp)).bind fun b _ =>
      (ih fun a ha => h a (by simp [ha])).bind fun bs _ => Keeps.pure _

@[grind ←]
theorem Keeps.foldlM {l : List α} {f : β → α → EStateM Failure σ β} {b : β}
    (h : ∀ b, ∀ a ∈ l, c.Keeps (f b a)) : c.Keeps (l.foldlM f b) := by
  induction l generalizing b with
  | nil => exact Keeps.pure b
  | cons a l ih =>
    rw [List.foldlM_cons]
    exact (h b a (by simp)).bind fun b _ => ih fun b a ha => h b a (by simp [ha])

@[grind ←]
theorem Keeps.foldrM {l : List α} {f : α → β → EStateM Failure σ β} {b : β}
    (h : ∀ b, ∀ a ∈ l, c.Keeps (f a b)) : c.Keeps (l.foldrM f b) := by
  rw [← List.foldlM_reverse]
  exact Keeps.foldlM fun b a ha => h b a (List.mem_reverse.1 ha)

@[grind ←]
theorem Keeps.forM {l : List α} {f : α → EStateM Failure σ PUnit} (h : ∀ a ∈ l, c.Keeps (f a)) :
    c.Keeps (l.forM f) := by
  induction l with
  | nil => exact Keeps.pure _
  | cons a l ih => exact (h a (by simp)).bind fun _ _ => ih fun a ha => h a (by simp [ha])

@[grind ←]
theorem Keeps.anyM {l : List α} {f : α → EStateM Failure σ Bool} (h : ∀ a ∈ l, c.Keeps (f a)) :
    c.Keeps (l.anyM f) := by
  induction l with
  | nil => exact Keeps.pure _
  | cons a l ih =>
    have rest := ih fun a ha => h a (by simp [ha])
    refine (h a (by simp)).bind fun b _ => ?_
    cases b with
    | true => exact Keeps.pure true
    | false => exact rest

@[grind ←]
theorem Keeps.allM {l : List α} {f : α → EStateM Failure σ Bool} (h : ∀ a ∈ l, c.Keeps (f a)) :
    c.Keeps (l.allM f) := by
  induction l with
  | nil => exact Keeps.pure _
  | cons a l ih =>
    have rest := ih fun a ha => h a (by simp [ha])
    refine (h a (by simp)).bind fun b _ => ?_
    cases b with
    | true => exact rest
    | false => exact Keeps.pure false

@[grind ←]
theorem Keeps.filterM {l : List α} {f : α → EStateM Failure σ Bool} (h : ∀ a ∈ l, c.Keeps (f a)) :
    c.Keeps (l.filterM f) := by
  have go : ∀ (l kept : List α), (∀ a ∈ l, c.Keeps (f a)) →
      c.Keeps (List.filterAuxM f l kept) := by
    intro l
    induction l with
    | nil => exact fun kept _ => Keeps.pure kept
    | cons a l ih =>
      intro kept h
      exact (h a (by simp)).bind fun b _ => ih _ fun a ha => h a (by simp [ha])
  exact (go l [] h).bind fun kept _ => Keeps.pure _

end Contract

end UnitFoundry
