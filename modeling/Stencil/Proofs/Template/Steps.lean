import Stencil.Template.Scope

/-! Steps of an expansion, told apart from the trace that they leave. What a step ensures holds of each of
its results; two steps are alike if from every trace they fail with one error or succeed with related
results, and leave the same trace. -/
namespace Stencil.Template

/-- A library of texts that are given outright, each under its kind and name. -/
def Library.ofTexts (texts : List ((TemplateKind × String) × String)) : Library where
  resolve kind name :=
    match texts.lookup (kind, name) with
    | some _ => .ok ⟨"", [kind.name, name]⟩
    | none => .error (.templateNotFound kind name [])
  read path :=
    match texts.find? fun text => path == ⟨"", [text.1.1.name, text.1.2]⟩ with
    | some text => .ok text.2.toList
    | none => .error (.noFile path.text)

theorem path_eq_of_beq {p q : Path} (h : (p == q) = true) : p = q := by
  cases p
  cases q
  change (_ && _) = true at h
  simpa using h

/-- Only the given texts are read. -/
theorem Library.exists_text_of_read {texts : List ((TemplateKind × String) × String)} {path : Path}
    {source : List Char} (h : (ofTexts texts).read path = .ok source) :
    ∃ text ∈ texts, path = ⟨"", [text.1.1.name, text.1.2]⟩ ∧ source = text.2.toList := by
  simp only [ofTexts] at h
  split at h
  · next text hfind =>
    cases h
    have hpath := List.find?_some hfind
    exact ⟨text, List.mem_of_find?_eq_some hfind, path_eq_of_beq hpath, rfl⟩
  · cases h

/-- The result of a step, if it has one. -/
def Expansion.result? {α : Type} (x : Expansion α) (t : Trace) : Option α :=
  match x t with
  | .ok a _ => some a
  | .error _ _ => none

/-- Whether a step has a result. -/
def Expansion.succeeds {α : Type} (x : Expansion α) (t : Trace) : Bool :=
  match x t with
  | .ok _ _ => true
  | .error _ _ => false

/-- Whether every result of a step has a property. -/
def Expansion.Ensures {α : Type} (x : Expansion α) (P : α → Prop) : Prop :=
  ∀ ⦃t a t'⦄, x t = .ok a t' → P a

/-- Whether a step succeeds from every trace, with a result that has a property. -/
def Expansion.Yields {α : Type} (x : Expansion α) (P : α → Prop) : Prop :=
  ∀ t, ∃ a t', x t = .ok a t' ∧ P a

/-- Whether a step fails from every trace, with one and the same error. -/
def Expansion.Fails {α : Type} (x : Expansion α) (e : Error) : Prop :=
  ∀ t, ∃ t', x t = .error e t'

/-- Whether a step, from every trace, has a result with one property or fails with an error of another. -/
def Expansion.Ends {α : Type} (x : Expansion α) (P : α → Prop) (E : Error → Prop) : Prop :=
  ∀ t, match x t with
    | .ok a _ => P a
    | .error e _ => E e

/-- Two outcomes with the same trace: one error, or related results. -/
inductive AlikeOutcomes {α β : Type} (R : α → β → Prop) :
    EStateM.Result Error Trace α → EStateM.Result Error Trace β → Prop
  | ok {a : α} {b : β} (t : Trace) (h : R a b) : AlikeOutcomes R (.ok a t) (.ok b t)
  | error (e : Error) (t : Trace) : AlikeOutcomes R (.error e t) (.error e t)

/-- Whether two steps differ in nothing but related results. -/
def Expansion.Alike {α β : Type} (R : α → β → Prop) (x : Expansion α) (y : Expansion β) : Prop :=
  ∀ t, AlikeOutcomes R (x t) (y t)

/-- The same for steps that cannot fail. -/
def Tracing.Alike {α β : Type} (R : α → β → Prop) (x : Tracing α) (y : Tracing β) : Prop :=
  ∀ t, R (x t).1 (y t).1 ∧ (x t).2 = (y t).2

namespace Expansion

variable {α β γ δ : Type}

/-- A step that cannot fail, as part of an expansion. -/
theorem lift_apply (x : Tracing α) (t : Trace) :
    (monadLift x : Expansion α) t = .ok (x t).1 (x t).2 := rfl

theorem exists_ok_of_succeeds {x : Expansion α} {t : Trace} (h : x.succeeds t = true) :
    ∃ a t', x t = .ok a t' := by
  unfold succeeds at h
  split at h
  · next a t' hx => exact ⟨a, t', hx⟩
  · cases h

/-- A successful run of two steps in a row is a run of the first and then of the second. -/
theorem bind_eq_ok {x : Expansion α} {f : α → Expansion β} {t t' : Trace} {b : β}
    (h : (x >>= f) t = .ok b t') : ∃ a t₁, x t = .ok a t₁ ∧ f a t₁ = .ok b t' := by
  change EStateM.bind x f t = .ok b t' at h
  unfold EStateM.bind at h
  cases hx : x t with
  | ok a t₁ => rw [hx] at h; exact ⟨a, t₁, rfl, h⟩
  | error e t₁ => rw [hx] at h; cases h

theorem ensures_pure {P : α → Prop} {a : α} (h : P a) : (pure a : Expansion α).Ensures P := by
  intro t b t' hb
  cases hb
  exact h

theorem ensures_throw {P : α → Prop} (e : Error) : (throw e : Expansion α).Ensures P := by
  intro t b t' hb
  cases hb

theorem ensures_lift {P : α → Prop} {x : Tracing α} (h : ∀ t, P (x t).1) :
    (monadLift x : Expansion α).Ensures P := by
  intro t b t' hb
  cases hb
  exact h t

theorem ensures_true (x : Expansion α) : x.Ensures fun _ => True := fun _ _ _ _ => trivial

theorem Ensures.bind {P : α → Prop} {Q : β → Prop} {x : Expansion α} {f : α → Expansion β}
    (hx : x.Ensures P) (hf : ∀ a, P a → (f a).Ensures Q) : (x >>= f).Ensures Q := by
  intro t b t' hb
  obtain ⟨a, t₁, ha, hb⟩ := bind_eq_ok hb
  exact hf a (hx ha) hb

theorem ensures_bind {Q : β → Prop} {x : Expansion α} {f : α → Expansion β}
    (hf : ∀ a, (f a).Ensures Q) : (x >>= f).Ensures Q :=
  (ensures_true x).bind fun a _ => hf a

/-- Two steps in a row, of which only what the first ensures counts for the second. -/
theorem bind_congr {P : α → Prop} {x : Expansion α} {f g : α → Expansion β} (hx : x.Ensures P)
    (hf : ∀ a, P a → f a = g a) : x >>= f = x >>= g := by
  funext t
  change EStateM.bind x f t = EStateM.bind x g t
  unfold EStateM.bind
  cases hout : x t with
  | ok a t' => exact congrFun (hf a (hx hout)) t'
  | error e t' => rfl

theorem yields_pure {P : α → Prop} {a : α} (h : P a) : (pure a : Expansion α).Yields P :=
  fun t => ⟨a, t, rfl, h⟩

theorem yields_lift {P : α → Prop} {x : Tracing α} (h : ∀ t, P (x t).1) :
    (monadLift x : Expansion α).Yields P := fun t => ⟨_, _, rfl, h t⟩

theorem Yields.imp {P Q : α → Prop} {x : Expansion α} (hx : x.Yields P) (h : ∀ a, P a → Q a) :
    x.Yields Q := by
  intro t
  obtain ⟨a, t', ha, hP⟩ := hx t
  exact ⟨a, t', ha, h a hP⟩

theorem Yields.bind {P : α → Prop} {Q : β → Prop} {x : Expansion α} {f : α → Expansion β}
    (hx : x.Yields P) (hf : ∀ a, P a → (f a).Yields Q) : (x >>= f).Yields Q := by
  intro t
  obtain ⟨a, t₁, ha, hP⟩ := hx t
  obtain ⟨b, t₂, hb, hQ⟩ := hf a hP t₁
  refine ⟨b, t₂, ?_, hQ⟩
  change EStateM.bind x f t = _
  unfold EStateM.bind
  rw [ha]
  exact hb

/-- A step that cannot fail, before one that may. -/
theorem yields_lift_bind {Q : β → Prop} {x : Tracing α} {f : α → Expansion β}
    (hf : ∀ a, (f a).Yields Q) : ((monadLift x : Expansion α) >>= f).Yields Q :=
  (yields_lift (P := fun _ => True) fun _ => trivial).bind fun a _ => hf a

theorem fails_throw (e : Error) : (throw e : Expansion α).Fails e := fun t => ⟨t, rfl⟩

theorem Yields.bind_fails {P : α → Prop} {e : Error} {x : Expansion α} {f : α → Expansion β}
    (hx : x.Yields P) (hf : ∀ a, P a → (f a).Fails e) : (x >>= f).Fails e := by
  intro t
  obtain ⟨a, t₁, ha, hP⟩ := hx t
  obtain ⟨t₂, hb⟩ := hf a hP t₁
  refine ⟨t₂, ?_⟩
  change EStateM.bind x f t = _
  unfold EStateM.bind
  rw [ha]
  exact hb

theorem fails_lift_bind {e : Error} {x : Tracing α} {f : α → Expansion β}
    (hf : ∀ a, (f a).Fails e) : ((monadLift x : Expansion α) >>= f).Fails e :=
  (yields_lift (P := fun _ => True) fun _ => trivial).bind_fails fun a _ => hf a

theorem Fails.bind {e : Error} {x : Expansion α} (hx : x.Fails e) (f : α → Expansion β) :
    (x >>= f).Fails e := by
  intro t
  obtain ⟨t', ht⟩ := hx t
  refine ⟨t', ?_⟩
  change EStateM.bind x f t = _
  unfold EStateM.bind
  rw [ht]

section

variable {P : α → Prop} {Q : β → Prop} {E : Error → Prop}

theorem ends_pure {a : α} (h : P a) : (pure a : Expansion α).Ends P E := fun _ => h

theorem ends_throw {e : Error} (h : E e) : (throw e : Expansion α).Ends P E := fun _ => h

theorem ends_ofExcept {r : Except Error α} (hok : ∀ a, r = .ok a → P a)
    (herror : ∀ e, r = .error e → E e) : (ofExcept r).Ends P E := by
  cases r with
  | ok a => exact ends_pure (hok a rfl)
  | error e => exact ends_throw (herror e rfl)

theorem ends_lift {x : Tracing α} (h : ∀ t, P (x t).1) :
    (monadLift x : Expansion α).Ends P E := h

theorem Ends.bind {x : Expansion α} {f : α → Expansion β} (hx : x.Ends P E)
    (hf : ∀ a, P a → (f a).Ends Q E) : (x >>= f).Ends Q E := by
  intro t
  have h := hx t
  change match EStateM.bind x f t with | .ok b _ => Q b | .error e _ => E e
  unfold EStateM.bind
  cases hout : x t with
  | ok a t₁ =>
    rw [hout] at h
    exact hf a h t₁
  | error e t₁ =>
    rw [hout] at h
    exact h

theorem ends_lift_bind {x : Tracing α} {f : α → Expansion β} (hf : ∀ a, (f a).Ends Q E) :
    ((monadLift x : Expansion α) >>= f).Ends Q E :=
  (ends_lift (P := fun _ => True) fun _ => trivial).bind fun a _ => hf a

theorem Ends.imp {R : α → Prop} {x : Expansion α} (hx : x.Ends P E) (h : ∀ a, P a → R a) :
    x.Ends R E := by
  intro t
  have hend := hx t
  cases hout : x t with
  | ok a t' =>
    rw [hout] at hend
    exact h a hend
  | error e t' =>
    rw [hout] at hend
    exact hend

/-- A step that succeeds ends well. -/
theorem Yields.toEnds {x : Expansion α} (hx : x.Yields P) : x.Ends P E := by
  intro t
  obtain ⟨a, t', ha, hP⟩ := hx t
  rw [ha]
  exact hP

theorem Ends.toEnsures {x : Expansion α} (hx : x.Ends P E) : x.Ensures P := by
  intro t a t' ha
  have hend := hx t
  rw [ha] at hend
  exact hend

/-- What a step ensures it also ends with. -/
theorem Ends.ensures {R : α → Prop} {x : Expansion α} (hx : x.Ends P E) (h : x.Ensures R) :
    x.Ends R E := by
  intro t
  have hend := hx t
  cases hout : x t with
  | ok a t' => exact h hout
  | error e t' =>
    rw [hout] at hend
    exact hend

end

theorem alike_pure {R : α → β → Prop} {a : α} {b : β} (h : R a b) :
    Alike R (pure a) (pure b) := fun t => .ok t h

theorem alike_throw {R : α → β → Prop} (e : Error) :
    Alike R (throw e : Expansion α) (throw e : Expansion β) := fun t => .error e t

theorem alike_refl {R : α → α → Prop} (hR : ∀ a, R a a) (x : Expansion α) : Alike R x x := by
  intro t
  cases x t with
  | ok a t' => exact .ok t' (hR a)
  | error e t' => exact .error e t'

theorem alike_lift {R : α → β → Prop} {x : Tracing α} {y : Tracing β} (h : Tracing.Alike R x y) :
    Alike R (monadLift x : Expansion α) (monadLift y : Expansion β) := by
  intro t
  rw [lift_apply, lift_apply, (h t).2]
  exact .ok _ (h t).1

/-- Steps that have the same results are the same. -/
theorem Alike.eq {x y : Expansion α} (h : Alike Eq x y) : x = y := by
  funext t
  have ht := h t
  generalize x t = r at ht ⊢
  generalize y t = r' at ht ⊢
  cases ht with
  | ok t' hsame => rw [hsame]
  | error e t' => rfl

theorem Alike.bind {R : α → β → Prop} {S : γ → δ → Prop} {x : Expansion α} {y : Expansion β}
    {f : α → Expansion γ} {g : β → Expansion δ} (hx : Alike R x y)
    (hf : ∀ a b, R a b → Alike S (f a) (g b)) : Alike S (x >>= f) (y >>= g) := by
  intro t
  change AlikeOutcomes S (EStateM.bind x f t) (EStateM.bind y g t)
  unfold EStateM.bind
  have h := hx t
  generalize x t = outcome at h ⊢
  generalize y t = outcome' at h ⊢
  cases h with
  | ok t' h => exact hf _ _ h t'
  | error e t' => exact .error e t'

end Expansion

namespace Tracing

variable {α β γ δ : Type}

theorem alike_pure {R : α → β → Prop} {a : α} {b : β} (h : R a b) :
    Alike R (pure a) (pure b) := fun _ => ⟨h, rfl⟩

theorem alike_refl {R : α → α → Prop} (hR : ∀ a, R a a) (x : Tracing α) : Alike R x x :=
  fun t => ⟨hR (x t).1, rfl⟩

theorem Alike.bind {R : α → β → Prop} {S : γ → δ → Prop} {x : Tracing α} {y : Tracing β}
    {f : α → Tracing γ} {g : β → Tracing δ} (hx : Alike R x y)
    (hf : ∀ a b, R a b → Alike S (f a) (g b)) : Alike S (x >>= f) (y >>= g) := by
  intro t
  obtain ⟨hR, ht⟩ := hx t
  have := hf _ _ hR (x t).2
  change S (f (x t).1 (x t).2).1 (g (y t).1 (y t).2).1 ∧
    (f (x t).1 (x t).2).2 = (g (y t).1 (y t).2).2
  rw [← ht]
  exact this

end Tracing

end Stencil.Template
