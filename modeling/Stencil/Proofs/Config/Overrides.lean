import Stencil.Proofs.Json.Trees
import Stencil.Proofs.Value.GraphWays
import Stencil.Proofs.Value.Layers

/-! Overrides put into a layer one after the other. What stands at a place stays while values are put apart from
it, unless a mapping on the way to it stands in another place as well, and is on the way to one of them there. -/
namespace Stencil

variable {base l l' : Layer} {p q : List String} {v w : Value}

namespace Config

/-! ### What variables stand for -/

theorem hasKnot_readEnclosed {s : List Char} (h : readEnclosed s = .ok (some v)) : v.hasKnot = false := by
  unfold readEnclosed at h
  split at h
  · split at h
    · next u hparse =>
      cases h
      exact Json.hasKnot_parse hparse
    · cases h
    · cases h
  · cases h

/-- The value of a text is a tree. -/
theorem hasKnot_coerce {text : List Char} (h : coerce text = .ok v) : v.hasKnot = false := by
  unfold coerce at h
  dsimp only at h
  split at h
  · cases h
    rfl
  · split at h
    · cases h
      rfl
    · split at h
      · cases hint : Value.intOfText text with
        | error e =>
          rw [hint] at h
          cases h
        | ok n =>
          rw [hint] at h
          cases h
          rfl
      · split at h
        · cases h
          rfl
        · split at h
          · cases h
          · next u hread =>
            cases h
            exact hasKnot_readEnclosed hread
          · cases h
            rfl

theorem splitSegments_ne_nil (s : List Char) : splitSegments s ≠ [] := by
  rw [splitSegments.eq_def]
  split
  · nofun
  · nofun
  · split <;> nofun

/-- An override is a place below the root and a tree. -/
theorem readOverride_tree {name value : String} {o : List String × Value} (h : readOverride name value = .ok o) :
    o.1 ≠ [] ∧ o.2.hasKnot = false := by
  unfold readOverride at h
  dsimp only at h
  split at h
  · cases h
  · split at h
    · cases h
    · next path hpath =>
      have hne : path ≠ [] := by
        unfold parseKey at hpath
        dsimp only at hpath
        split at hpath
        · cases hpath
        · cases hpath
          exact fun hnil => splitSegments_ne_nil _ (List.map_eq_nil_iff.mp hnil)
      cases hvalue : coerce value.toList with
      | error e =>
        rw [hvalue] at h
        cases h
      | ok v =>
        rw [hvalue] at h
        cases h
        exact ⟨hne, hasKnot_coerce hvalue⟩

/-! ### One override -/

theorem setInLayer_plain {m : Mapping} (h : setInLayer q w (.plain m) = .ok l') :
    ∃ m', setNested q q m w = .ok m' ∧ l' = .plain m' := by
  change (setNested q q m w).map Layer.plain = .ok l' at h
  cases hset : setNested q q m w with
  | error e =>
    rw [hset] at h
    cases h
  | ok m' =>
    rw [hset] at h
    cases h
    exact ⟨m', rfl, rfl⟩

theorem setInLayer_shared {g : Graph} {n : Nat} (h : setInLayer q w (.shared g n) = .ok l') :
    ∃ g', (g.addValue w).2.setAt n q (g.addValue w).1 = .ok g' ∧ l' = .shared g' n := by
  unfold setInLayer at h
  dsimp only at h
  split at h
  · next g' hset =>
    cases h
    exact ⟨g', hset, rfl⟩
  · cases h

end Config

namespace Layer

open Config (setInLayer setInLayer_plain setInLayer_shared)

/-- Whether no mapping is on the ways to two places, but where the two ways are one. The parts of a mapping by
itself stand in one place each. -/
def Alone : Layer → List String → List String → Prop
  | plain _, _, _ => True
  | shared g n, p, q => g.Alone n p q

instance : (l : Layer) → (p q : List String) → Decidable (l.Alone p q)
  | plain _, _, _ => instDecidableTrue
  | shared g n, p, q => inferInstanceAs (Decidable (g.Alone n p q))

/-- Whether a layer came from another one by putting values at places. -/
inductive Overlaid : (base l : Layer) → Prop
  | plain {m m' : Mapping} : Overlaid (.plain m) (.plain m')
  | shared {g₀ g : Graph} {n : Nat} {pairs : List (Nat × Nat)} (grafted : Graph.Grafted g₀ g)
      (old : n < g₀.size) (root : g.cell n = .dict pairs) : Overlaid (.shared g₀ n) (.shared g n)

/-- Whether a value that was put at a place is there, as it was put. -/
inductive Bears : (base l : Layer) → List String → Value → Prop
  | plain {m m' : Mapping} {p : List String} {v : Value} (at_ : (Value.dict m').at? p = some v) :
      Bears (.plain m) (.plain m') p v
  | shared {g₀ g : Graph} {n : Nat} {p : List String} {v : Value} (bears : g₀.Bears g n p v) :
      Bears (.shared g₀ n) (.shared g n) p v

theorem Bears.at? (h : Bears base l p v) : l.at? p = some v := by
  cases h with
  | plain h => exact h
  | shared h => exact h.opened

theorem IsWhole.overlaid (h : l.IsWhole) : Overlaid l l := by
  cases h with
  | plain => exact .plain
  | shared closed root => exact .shared (.refl closed) (Graph.lt_size_of_dict root) root

namespace Overlaid

variable (hl : Overlaid base l) (hw : w.hasKnot = false) (hset : setInLayer q w l = .ok l')
include hl hw hset

theorem put : Overlaid base l' := by
  cases hl with
  | plain =>
    obtain ⟨m', -, rfl⟩ := setInLayer_plain hset
    exact .plain
  | shared grafted old root =>
    obtain ⟨g', hput, rfl⟩ := setInLayer_shared hset
    obtain ⟨new, hf⟩ := Graph.fresh_addValue _ w hw
    have hroot := (hf.extends_.cell_eq _ (Graph.lt_size_of_dict root)).trans root
    obtain ⟨hle, hlt⟩ := hf.mem_tops List.mem_cons_self
    have hgrafted := (grafted.fresh hf).setAt hroot (hf.isOrphan grafted.closed List.mem_cons_self)
      (Nat.le_trans grafted.size_le hle) hlt hput
    obtain ⟨pairs, hroot'⟩ := (grafted.fresh hf).exists_dict_setAt hroot hlt hput
    exact .shared hgrafted old hroot'

/-- A leaf stays if the value is put apart from it. -/
theorem hasLeaf (halone : base.Alone p q) (hapart : Apart p q) (hv : l.HasLeaf p v) : l'.HasLeaf p v := by
  cases hl with
  | plain =>
    obtain ⟨m', hput, rfl⟩ := setInLayer_plain hset
    cases hv with
    | plain hv hleaf htuple => exact .plain ((Config.at?_setNested_of_apart hapart hput).trans hv) hleaf htuple
  | shared grafted old root =>
    obtain ⟨g', hput, rfl⟩ := setInLayer_shared hset
    obtain ⟨new, hf⟩ := Graph.fresh_addValue _ w hw
    have hroot := (hf.extends_.cell_eq _ (Graph.lt_size_of_dict root)).trans root
    cases hv with
    | shared hv =>
      refine .shared ((grafted.fresh hf).leafAt?_setAt_of_apart old hroot (hf.mem_tops List.mem_cons_self).2 halone
        hapart hput ?_)
      rw [hf.extends_.leafAt? grafted.closed (Graph.lt_size_of_dict root), hv]

/-- The value is there. -/
theorem bears (halone : base.Alone q q) (hq : q ≠ []) : Bears base l' q w := by
  cases hl with
  | plain =>
    obtain ⟨m', hput, rfl⟩ := setInLayer_plain hset
    exact .plain (Config.at?_setNested hq hput)
  | shared grafted old root =>
    obtain ⟨g', hput, rfl⟩ := setInLayer_shared hset
    exact .shared (Graph.bears_setAt grafted old root hw halone hq hput)

/-- A value that was put there before stays if this one is put apart from it. -/
theorem bears_of_apart (hv : Bears base l p v) (halone : base.Alone p q) (hapart : Apart p q) :
    Bears base l' p v := by
  cases hl with
  | plain =>
    obtain ⟨m', hput, rfl⟩ := setInLayer_plain hset
    cases hv with
    | plain hv => exact .plain ((Config.at?_setNested_of_apart hapart hput).trans hv)
  | shared grafted old root =>
    obtain ⟨g', hput, rfl⟩ := setInLayer_shared hset
    cases hv with
    | shared hv => exact .shared (Graph.Bears.setAt grafted old root hw hv halone hapart hput)

end Overlaid

end Layer

/-! ### All overrides -/

namespace Config

/-- Values put at their places one after the other. -/
def setAll (l : Layer) (overrides : List (List String × Value)) : Except Error Layer :=
  overrides.foldlM (fun l o => setInLayer o.1 o.2 l) l

variable {o : List String × Value} {overrides : List (List String × Value)}

theorem setAll_cons_eq_ok_iff :
    setAll l (o :: overrides) = .ok l' ↔ ∃ next, setInLayer o.1 o.2 l = .ok next ∧ setAll next overrides = .ok l' := by
  unfold setAll
  rw [List.foldlM_cons]
  exact bind_eq_ok_iff

/-- To apply variables is to put in the value that each stands for at its place, one after the other. -/
theorem applyOverrides_eq_ok_iff {vars : List (String × String)} : (applyOverrides l vars).2 = .ok l' ↔
    ∃ overrides, List.Forall₂ (fun x o => readOverride x.1 x.2 = .ok o) vars overrides ∧
      setAll l overrides = .ok l' := by
  induction vars generalizing l with
  | nil =>
    constructor
    · intro h
      exact ⟨[], .nil, h⟩
    · rintro ⟨overrides, hall, h⟩
      cases hall
      exact h
  | cons x vars ih =>
    obtain ⟨name, value⟩ := x
    rw [applyOverrides]
    constructor
    · intro h
      split at h
      · cases h
      · next path v hread =>
        split at h
        · cases h
        · next next hset =>
          obtain ⟨overrides, hall, hrest⟩ := ih.mp h
          exact ⟨(path, v) :: overrides, .cons hread hall, setAll_cons_eq_ok_iff.mpr ⟨next, hset, hrest⟩⟩
    · rintro ⟨overrides, hall, h⟩
      cases hall with
      | @cons _ o _ overrides hread hall =>
        obtain ⟨next, hset, hrest⟩ := setAll_cons_eq_ok_iff.mp h
        simp only [hread, hset]
        exact ih.mpr ⟨overrides, hall, hrest⟩

/-- What each override keeps is kept by all of them. -/
theorem keeps_setAll {P : Layer → Prop} (hl : Layer.Overlaid base l) (htrees : ∀ o ∈ overrides, o.2.hasKnot = false)
    (hstep : ∀ o ∈ overrides, ∀ l l', Layer.Overlaid base l → setInLayer o.1 o.2 l = .ok l' → P l → P l')
    (hp : P l) (h : setAll l overrides = .ok l') : P l' := by
  induction overrides generalizing l with
  | nil =>
    cases h
    exact hp
  | cons o overrides ih =>
    obtain ⟨next, hset, h⟩ := setAll_cons_eq_ok_iff.mp h
    exact ih (hl.put (htrees o List.mem_cons_self) hset) (fun o ho => htrees o (List.mem_cons_of_mem _ ho))
      (fun o ho => hstep o (List.mem_cons_of_mem _ ho)) (hstep o List.mem_cons_self l next hl hset hp) h

/-- A leaf stays if no override is at its place, above or below it, or shares a mapping on the way with it. -/
theorem hasLeaf_setAll (hl : Layer.Overlaid base l) (htrees : ∀ o ∈ overrides, o.2.hasKnot = false)
    (hall : ∀ o ∈ overrides, Apart p o.1 ∧ base.Alone p o.1) (hv : l.HasLeaf p v)
    (h : setAll l overrides = .ok l') : l'.HasLeaf p v :=
  keeps_setAll hl htrees (fun o ho _ _ hl hset => hl.hasLeaf (htrees o ho) hset (hall o ho).2 (hall o ho).1) hv h

theorem bears_setAll (hl : Layer.Overlaid base l) (htrees : ∀ o ∈ overrides, o.2.hasKnot = false)
    (hall : ∀ o ∈ overrides, Apart p o.1 ∧ base.Alone p o.1) (hv : Layer.Bears base l p v)
    (h : setAll l overrides = .ok l') : Layer.Bears base l' p v :=
  keeps_setAll hl htrees
    (fun o ho _ _ hl hset hv => hl.bears_of_apart (htrees o ho) hset hv (hall o ho).2 (hall o ho).1) hv h

/-- An override is there in the end if no later one is at its place, above or below it. -/
theorem bears_setAll_of_mem {before after : List (List String × Value)} (hl : Layer.Overlaid base l)
    (htrees : ∀ o' ∈ before ++ o :: after, o'.1 ≠ [] ∧ o'.2.hasKnot = false)
    (hself : base.Alone o.1 o.1) (hafter : ∀ o' ∈ after, Apart o.1 o'.1 ∧ base.Alone o.1 o'.1)
    (h : setAll l (before ++ o :: after) = .ok l') : Layer.Bears base l' o.1 o.2 := by
  induction before generalizing l with
  | nil =>
    obtain ⟨next, hset, h⟩ := setAll_cons_eq_ok_iff.mp h
    obtain ⟨hne, hw⟩ := htrees o List.mem_cons_self
    exact bears_setAll (hl.put hw hset) (fun o ho => (htrees o (List.mem_cons_of_mem _ ho)).2) hafter
      (hl.bears hw hset hself hne) h
  | cons first before ih =>
    obtain ⟨next, hset, h⟩ := setAll_cons_eq_ok_iff.mp h
    exact ih (hl.put (htrees first List.mem_cons_self).2 hset)
      (fun o ho => htrees o (List.mem_cons_of_mem _ ho)) h

end Config

end Stencil
