import Mathlib.Data.List.Induction
import Mathlib.Data.List.Infix
import Stencil.Proofs.Value.GraphSet

/-! What stands at a place of a graph while values are put at other places. It stays if no mapping on the way to
it is also on the way to one of the others, but where the two ways are one. -/
namespace Stencil

/-- Whether one place is on the way to another one. -/
structure IsAbove (q p : List String) : Prop where
  isPrefix : q <+: p
  ne : q ≠ p

theorem isAbove_append (front : List String) (name : String) (behind : List String) :
    IsAbove front (front ++ name :: behind) where
  isPrefix := List.prefix_append _ _
  ne h := by simpa using congrArg List.length h

theorem IsAbove.of_concat {q p : List String} {name : String} (h : q ++ [name] <+: p) : IsAbove q p := by
  obtain ⟨rest, rfl⟩ := h
  rw [List.append_assoc]
  exact isAbove_append q name rest

theorem IsAbove.trans_left {f q p : List String} (h : IsAbove q p) (hf : f <+: q) : IsAbove f p where
  isPrefix := hf.trans h.isPrefix
  ne := by
    rintro rfl
    exact h.ne (h.isPrefix.eq_of_length_le hf.length_le)

namespace Graph

variable {g g₀ g₁ g' gᵢ : Graph} {n k t : Nat} {pairs : List (Nat × Nat)} {p q : List String} {v w : Value}

/-- Whether the ways to two places are at the same part only where they are one way. -/
def Alone (g : Graph) (n : Nat) (p q : List String) : Prop :=
  ∀ p' q' k, IsAbove p' p → IsAbove q' q → g.part? n p' = some k → g.part? n q' = some k → p' = q'

/-- The ways to a place are its beginnings. -/
theorem alone_iff : g.Alone n p q ↔ ∀ p' ∈ p.inits, ∀ q' ∈ q.inits, p' ≠ p → q' ≠ q →
    (g.part? n p').isSome = true → g.part? n p' = g.part? n q' → p' = q' := by
  constructor
  · intro h p' hp q' hq hne hne' hsome heq
    obtain ⟨k, hk⟩ := Option.isSome_iff_exists.mp hsome
    exact h p' q' k ⟨(List.mem_inits p' p).mp hp, hne⟩ ⟨(List.mem_inits q' q).mp hq, hne'⟩ hk (heq ▸ hk)
  · intro h p' q' k hp hq hkp hkq
    exact h p' ((List.mem_inits p' p).mpr hp.isPrefix) q' ((List.mem_inits q' q).mpr hq.isPrefix) hp.ne hq.ne
      (Option.isSome_iff_exists.mpr ⟨k, hkp⟩) (hkp.trans hkq.symm)

instance : Decidable (g.Alone n p q) := decidable_of_iff' _ alone_iff

theorem part?_concat (g : Graph) (n : Nat) (p : List String) (name : String) :
    g.part? n (p ++ [name]) = (g.part? n p).bind fun m => g.find? m (.str name) := by
  rw [part?_append]
  refine congrArg (Option.bind _) (funext fun m => ?_)
  rw [part?_cons]
  cases g.find? m (.str name) <;> rfl

namespace Grafted

/-- A way to an old part was the way there before. -/
theorem part?_old (hg : Grafted g₀ g) (hk : g.part? n p = some k) (hlt : k < g₀.size) :
    g₀.part? n p = some k := by
  induction p using List.reverseRecOn generalizing k with
  | nil => exact hk
  | append_singleton p name ih =>
    rw [part?_concat] at hk ⊢
    obtain ⟨m, hm, hk⟩ := Option.bind_eq_some_iff.mp hk
    obtain ⟨hm', hk'⟩ := hg.old m name k hk hlt
    rw [ih hm hm']
    exact hk'

/-- The last step to a new part is one and the same on all ways. -/
theorem last_eq (hg : Grafted g₀ g) (hn : n < g₀.size) (hk : g₀.size ≤ k) (hp : g.part? n p = some k)
    (hq : g.part? n q = some k) : ∃ p' q' name m, p = p' ++ [name] ∧ q = q' ++ [name] ∧
      g.part? n p' = some m ∧ g.part? n q' = some m := by
  have hsplit (p : List String) (hp : g.part? n p = some k) : ∃ p' name m, p = p' ++ [name] ∧
      g.part? n p' = some m ∧ g.find? m (.str name) = some k := by
    rcases List.eq_nil_or_concat' p with rfl | ⟨p', name, rfl⟩
    · cases hp
      omega
    · rw [part?_concat] at hp
      obtain ⟨m, hm, hk⟩ := Option.bind_eq_some_iff.mp hp
      exact ⟨p', name, m, rfl, hm, hk⟩
  obtain ⟨p', name, m, rfl, hm, hname⟩ := hsplit p hp
  obtain ⟨q', other, m', rfl, hm', hother⟩ := hsplit q hq
  obtain rfl := hg.once k hk m m' (mem_parts_of_find? hname) (mem_parts_of_find? hother)
  obtain rfl := hg.single k hk m name other hname hother
  exact ⟨p', q', name, m, rfl, rfl, hm, hm'⟩

/-- New parts do not bring the ways to two places together. -/
theorem eq_of_part? (hg : Grafted g₀ g) (hn : n < g₀.size) (halone : g₀.Alone n p q) {p' q' : List String}
    (hp : IsAbove p' p) (hq : IsAbove q' q) (hkp : g.part? n p' = some k) (hkq : g.part? n q' = some k) :
    p' = q' := by
  induction p' using List.reverseRecOn generalizing q' k with
  | nil =>
    cases hkp
    exact halone [] q' n hp hq rfl (hg.part?_old hkq hn)
  | append_singleton p' name ih =>
    rcases Nat.lt_or_ge k g₀.size with hlt | hge
    · exact halone _ _ k hp hq (hg.part?_old hkp hlt) (hg.part?_old hkq hlt)
    · obtain ⟨p₁, q₁, last, m, hp₁, rfl, hmp, hmq⟩ := hg.last_eq hn hge hkp hkq
      obtain ⟨rfl, hlast⟩ := List.append_inj' hp₁ rfl
      rw [hlast, ih (hp.trans_left (List.prefix_append _ _)) (hq.trans_left (List.prefix_append _ _)) hmp hmq]

/-! ### Putting a value at a place -/

variable (hg : Grafted g₀ g) (hn : n < g₀.size) (hc : g.cell n = .dict pairs) (hk : k < g.size)
include hg hn hc hk

/-- One mapping on the way to the place changes, and what stands apart from the place stays where it stands. -/
theorem setAt_of_apart (halone : g₀.Alone n p q) (hapart : Apart p q) (hset : g.setAt n q k = .ok g') :
    ∃ front name at_ top, IsAbove front q ∧ g.part? n front = some at_ ∧ (∃ pairs, g.cell at_ = .dict pairs) ∧
      Relinked g g' at_ name top ∧ ∀ t, g.part? n p = some t → g'.part? n p = some t := by
  have hq : q ≠ [] := by
    rintro rfl
    exact Apart.not_nil hapart.symm
  obtain ⟨front, name, behind, at_, top, rfl, hfront, hdict, hr, -, hnew⟩ :=
    setAt_relinks hg.closed hc hk hq hset
  refine ⟨front, name, at_, top, isAbove_append front name behind, hfront, hdict, hr, fun t ht => ?_⟩
  rw [hr.part? hg.closed (lt_size_of_dict hc) fun f hf hat => ?_, ht]
  -- the way takes the name that leads elsewhere now, so it comes as far as the other one
  obtain rfl := hg.eq_of_part? hn halone (.of_concat hf) (isAbove_append front name behind) hat hfront
  obtain ⟨rest, rfl⟩ := hf
  rw [List.append_assoc, part?_append, hfront] at ht
  change g.part? at_ (name :: rest) = some t at ht
  obtain ⟨inner, hinner, ht⟩ := Option.bind_eq_some_iff.mp ht
  rcases List.eq_nil_or_concat' behind with rfl | ⟨_, _, rfl⟩
  · exact hapart.notDown ⟨rest, rfl⟩
  · cases rest with
    | nil => exact hapart.notUp ⟨_, by rw [List.append_assoc, List.append_assoc]; rfl⟩
    | cons next rest =>
      obtain ⟨deep, hdeep, -⟩ := Option.bind_eq_some_iff.mp ht
      obtain ⟨inner', hinner'⟩ := exists_dict_of_find? hdeep
      exact hnew (by simp) inner inner' hinner hinner'

/-- A leaf that stands apart from the place stays. -/
theorem leafAt?_setAt_of_apart (halone : g₀.Alone n p q) (hapart : Apart p q)
    (hset : g.setAt n q k = .ok g') (hv : g.leafAt? n p = some v) : g'.leafAt? n p = some v := by
  obtain ⟨_, _, at_, _, _, _, ⟨inner, hdict⟩, hr, hway⟩ := hg.setAt_of_apart hn hc hk halone hapart hset
  obtain ⟨t, ht, hleaf⟩ := Option.bind_eq_some_iff.mp hv
  have htlt := hg.closed.part?_lt (lt_size_of_dict hc) ht
  have hne : t ≠ at_ := by
    rintro rfl
    rw [leaf?_of_dict hdict] at hleaf
    cases hleaf
  refine Option.bind_eq_some_iff.mpr ⟨t, hway t ht, ?_⟩
  unfold leaf? at hleaf ⊢
  rw [hr.cell_eq t htlt hne]
  split at hleaf
  · exact hleaf
  · next items hitems =>
    have hkeys : items.map g'.scalarAt = items.map g.scalarAt :=
      List.map_congr_left fun i hi => hr.scalarAt_eq i (hg.closed t i (by rw [hitems]; exact hi))
    rw [hkeys]
    exact hleaf
  · cases hleaf

/-- What is put at a place stands there. -/
theorem part?_setAt_self (halone : g₀.Alone n p p) (hp : p ≠ []) (hset : g.setAt n p k = .ok g') :
    g'.part? n p = some k := by
  obtain ⟨front, name, behind, at_, top, rfl, hfront, -, hr, htop, -⟩ := setAt_relinks hg.closed hc hk hp hset
  have hway : g'.part? n front = some at_ := by
    rw [hr.part? hg.closed (lt_size_of_dict hc) fun f hf hat => ?_, hfront]
    have habove : IsAbove f (front ++ name :: behind) :=
      (isAbove_append front name behind).trans_left (IsAbove.of_concat hf).isPrefix
    exact (IsAbove.of_concat hf).ne
      (hg.eq_of_part? hn halone habove (isAbove_append front name behind) hat hfront)
  rw [part?_append, hway]
  change (g'.find? at_ (.str name)).bind _ = _
  rw [hr.find?_self]
  exact htop

omit hn hk in
/-- The mapping at the root stays a mapping. -/
theorem exists_dict_setAt (hk : k < g.size) (hset : g.setAt n p k = .ok g') : ∃ pairs, g'.cell n = .dict pairs := by
  rcases eq_or_ne p [] with rfl | hp
  · cases hset
    exact ⟨pairs, hc⟩
  · obtain ⟨_, name, _, at_, top, _, _, _, hr, _, _⟩ := setAt_relinks hg.closed hc hk hp hset
    by_cases hne : n = at_
    · exact exists_dict_of_find? (hne ▸ hr.find?_self)
    · exact ⟨pairs, (hr.cell_eq n (lt_size_of_dict hc) hne).trans hc⟩

end Grafted

/-! ### Values at places -/

/-- Whether a value that was put at a place is still there, as it was put. -/
structure Bears (g₀ g : Graph) (n : Nat) (p : List String) (v : Value) : Prop where
  exists_cells : ∃ gᵢ g₁ new k, Fresh gᵢ g₁ new [k] ∧ g₀.size ≤ gᵢ.size ∧ g₁.size ≤ g.size ∧
    AgreeOn (fun j => gᵢ.size ≤ j ∧ j < g₁.size) g₁ g ∧ g₁.tree? (k + 1) k = some v ∧
    g.part? n p = some k

/-- The value that the place opens to. -/
theorem Bears.opened (hb : Bears g₀ g n p v) : (g.part? n p).map g.opened = some v := by
  obtain ⟨gᵢ, g₁, new, k, hf, -, hle, hagree, hv, hk⟩ := hb.exists_cells
  have hregion := hf.mem_tops List.mem_cons_self
  rw [hk, Option.map_some, opened_of_tree? (by omega) (hagree.tree? (Nat.le_refl _) hregion hv)]

/-- A way to a cell of a value that stands at a place goes through that place. -/
theorem exists_on_way {new : List Cell} (hg : Grafted g₀ g) (hn : n < g₀.size) (hf : Fresh gᵢ g₁ new [k])
    (hle : g₀.size ≤ gᵢ.size) (hagree : AgreeOn (fun j => gᵢ.size ≤ j ∧ j < g₁.size) g₁ g) {j : Nat}
    (hj : gᵢ.size ≤ j ∧ j < g₁.size) (hq : g.part? n q = some j) : ∃ f, f <+: q ∧ g.part? n f = some k := by
  induction q using List.reverseRecOn generalizing j with
  | nil =>
    cases hq
    omega
  | append_singleton q name ih =>
    rcases hf.mem_tops_or hj.1 hj.2 with htop | ⟨m, hm, hpart⟩
    · obtain rfl := List.mem_singleton.mp htop
      exact ⟨_, List.prefix_rfl, hq⟩
    · have hmlt : m < g₁.size := by
        rcases Nat.lt_or_ge m g₁.size with hlt | hge
        · exact hlt
        · rw [cell_of_size_le hge] at hpart
          cases hpart
      rw [part?_concat] at hq
      obtain ⟨m', hm', hname⟩ := Option.bind_eq_some_iff.mp hq
      have hpart' : j ∈ (g.cell m).parts := by
        rw [hagree.cell m ⟨hm, hmlt⟩]
        exact hpart
      obtain rfl := hg.once j (by omega) m m' hpart' (mem_parts_of_find? hname)
      obtain ⟨f, hf', hfk⟩ := ih ⟨hm, hmlt⟩ hm'
      exact ⟨f, hf'.trans (List.prefix_append _ _), hfk⟩

section

variable (hg : Grafted g₀ g) (hn : n < g₀.size) (hc : g.cell n = .dict pairs) (hknot : w.hasKnot = false)
include hg hn hc hknot

/-- A value put at a place is there. -/
theorem bears_setAt (halone : g₀.Alone n p p) (hp : p ≠ [])
    (hset : (g.addValue w).2.setAt n p (g.addValue w).1 = .ok g') : Bears g₀ g' n p w := by
  obtain ⟨new, hf⟩ := fresh_addValue g w hknot
  have hg₁ := hg.fresh hf
  have hc₁ := (hf.extends_.cell_eq n (lt_size_of_dict hc)).trans hc
  have hk := (hf.mem_tops List.mem_cons_self).2
  have hself := hg₁.part?_setAt_self hn hc₁ hk halone hp hset
  obtain ⟨front, _, _, at_, _, rfl, hfront, _, hr, _, _⟩ := setAt_relinks hg₁.closed hc₁ hk hp hset
  -- the mapping that changes was there before the value
  rw [hf.extends_.part? hg.closed (lt_size_of_dict hc)] at hfront
  have hat := hg.closed.part?_lt (lt_size_of_dict hc) hfront
  refine ⟨g, _, new, _, hf, hg.size_le, hr.size_le, ⟨fun j hj => ?_, fun j hj i hi => ?_⟩,
    tree?_addValue g w hknot, hself⟩
  · exact hr.cell_eq j hj.2 (by omega)
  · obtain ⟨hle, hlt⟩ := hf.mem_parts hj.1 hi
    exact ⟨hle, Nat.lt_trans hlt hj.2⟩

/-- It is there still when another value was put at a place apart from it. -/
theorem Bears.setAt (hb : Bears g₀ g n p v) (halone : g₀.Alone n p q) (hapart : Apart p q)
    (hset : (g.addValue w).2.setAt n q (g.addValue w).1 = .ok g') : Bears g₀ g' n p v := by
  obtain ⟨gᵢ, g₁, new, k, hf, hle, hle₁, hagree, hv, hk⟩ := hb.exists_cells
  obtain ⟨new', hf'⟩ := fresh_addValue g w hknot
  have hg' := hg.fresh hf'
  have hc' := (hf'.extends_.cell_eq n (lt_size_of_dict hc)).trans hc
  have hlt := (hf'.mem_tops List.mem_cons_self).2
  have hk' : (g.addValue w).2.part? n p = some k := by
    rw [hf'.extends_.part? hg.closed (lt_size_of_dict hc), hk]
  have hagree' : AgreeOn (fun j => gᵢ.size ≤ j ∧ j < g₁.size) g₁ (g.addValue w).2 :=
    ⟨fun j hj => (hf'.extends_.cell_eq j (by omega)).trans (hagree.cell j hj), hagree.part⟩
  obtain ⟨front, name, at_, top, habove, hfront, -, hr, hway⟩ :=
    hg'.setAt_of_apart hn hc' hlt halone hapart hset
  have hsize := hf'.extends_.size_le
  refine ⟨gᵢ, g₁, new, k, hf, hle, by have := hr.size_le; omega, ⟨fun j hj => ?_, hagree.part⟩, hv, hway k hk'⟩
  rw [hr.cell_eq j (by omega) ?_, hagree'.cell j hj]
  rintro rfl
  -- else the way to the other place would go through this one
  obtain ⟨f, hfront', hfk⟩ := exists_on_way hg' hn hf hle hagree' hj hfront
  obtain ⟨p', f', last, m, rfl, rfl, hm, hm'⟩ :=
    hg'.last_eq hn (by have := (hf.mem_tops List.mem_cons_self).1; omega) hk' hfk
  have hf'above : IsAbove f' q := .of_concat (hfront'.trans habove.isPrefix)
  obtain rfl := hg'.eq_of_part? hn halone (.of_concat List.prefix_rfl) hf'above hm hm'
  exact hapart.notUp (hfront'.trans habove.isPrefix)

end

end Graph

end Stencil
