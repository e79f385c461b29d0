import Mathlib.Data.List.Forall2
import Stencil.Proofs.Value.Planted

/-! Places in layers. A leaf of a layer comes through every merge with later layers that say nothing of its
place, whether the layers are mappings by themselves or parts of graphs. -/
namespace Stencil

theorem exists_of_mem_forall₂ {α β : Type} {R : α → β → Prop} {as : List α} {bs : List β}
    (h : List.Forall₂ R as bs) {b : β} (hb : b ∈ bs) : ∃ a ∈ as, R a b := by
  induction h with
  | nil => cases hb
  | cons hstep _ ih =>
    rcases List.mem_cons.mp hb with rfl | hb
    · exact ⟨_, List.mem_cons_self, hstep⟩
    · obtain ⟨a, ha, hf⟩ := ih hb
      exact ⟨a, List.mem_cons_of_mem _ ha, hf⟩

namespace Layer

variable {l base later : Layer} {p : List String} {v : Value}

/-- The value at a place of a layer, with its structure laid open. -/
def at? : Layer → List String → Option Value
  | plain m, p => (Value.dict m).at? p
  | shared g n, p => (g.part? n p).map g.opened

/-- Whether a layer says nothing of a place: it does not contain the place, and all that it has on the way there
are mappings. -/
structure Spares (l : Layer) (p : List String) : Prop where
  none : l.at? p = none
  mapping : ∀ q w, q <+: p → l.at? q = some w → ∃ m, w = .dict m

/-- Whether a layer is a mapping of which no part is missing. -/
inductive IsWhole : Layer → Prop
  | plain {m : Mapping} (proper : (Value.dict m).IsProper) : IsWhole (.plain m)
  | shared {g : Graph} {n : Nat} (closed : g.Closed) {pairs : List (Nat × Nat)}
      (root : g.cell n = .dict pairs) : IsWhole (.shared g n)

/-- Whether a layer is a proper mapping. -/
inductive IsProper : Layer → Prop
  | plain {m : Mapping} (proper : (Value.dict m).IsProper) : IsProper (.plain m)
  | shared {g : Graph} {n : Nat} (proper : g.IsProper) {pairs : List (Nat × Nat)}
      (root : g.cell n = .dict pairs) : IsProper (.shared g n)

theorem IsProper.isWhole (h : l.IsProper) : l.IsWhole := by
  cases h with
  | plain proper => exact .plain proper
  | shared proper root => exact .shared proper.closed root

/-- A leaf at a place. -/
inductive HasLeaf : Layer → List String → Value → Prop
  | plain {m : Mapping} {p : List String} {v : Value} (at_ : (Value.dict m).at? p = some v)
      (leaf : v.isLeaf = true) (noTuple : ∀ items, v ≠ .tuple items) : HasLeaf (.plain m) p v
  | shared {g : Graph} {n : Nat} {p : List String} {v : Value} (leaf : g.leafAt? n p = some v) :
      HasLeaf (.shared g n) p v

theorem HasLeaf.at? (h : l.HasLeaf p v) : l.at? p = some v := by
  cases h with
  | plain h => exact h
  | shared h =>
    obtain ⟨k, hk, hv⟩ := Option.bind_eq_some_iff.mp h
    exact Option.map_eq_some_iff.mpr ⟨k, hk, Graph.opened_eq_of_leaf? hv⟩

/-- What is neither a list nor a mapping is a leaf in a proper layer. -/
theorem IsProper.hasLeaf (h : l.IsProper) (hv : l.at? p = some v) (hleaf : v.isLeaf = true) :
    l.HasLeaf p v := by
  cases h with
  | plain proper => exact .plain hv hleaf (proper.ne_tuple hv)
  | @shared g n proper pairs root =>
    obtain ⟨k, hk, rfl⟩ := Option.map_eq_some_iff.mp hv
    have htuple := proper.cell_ne_tuple root hk
    refine .shared (Option.bind_eq_some_iff.mpr ⟨k, hk, ?_⟩)
    unfold Graph.opened at hleaf ⊢
    unfold Graph.leaf?
    cases hc : g.cell k with
    | scalar s => rfl
    | set items => rfl
    | tuple items => exact absurd hc (htuple items)
    | list items => rw [hc] at hleaf; cases hleaf
    | dict pairs => rw [hc] at hleaf; cases hleaf

/-! ### In a graph -/

theorem IsWhole.closed (h : l.IsWhole) : l.toGraph.2.Closed := by
  cases h with
  | plain proper => exact (Graph.isPlanted proper {} Graph.closed_empty).closed
  | shared closed => exact closed

theorem IsWhole.exists_dict (h : l.IsWhole) :
    ∃ pairs, l.toGraph.2.cell l.toGraph.1 = .dict pairs := by
  cases h with
  | plain => exact ⟨_, Graph.cell_addValue_dict _ _⟩
  | shared _ root => exact ⟨_, root⟩

theorem IsWhole.leafAt? (h : l.IsWhole) (hv : l.HasLeaf p v) :
    l.toGraph.2.leafAt? l.toGraph.1 p = some v := by
  cases hv with
  | plain hv hleaf htuple =>
    cases h with
    | plain proper => exact Graph.leafAt?_addValue proper Graph.closed_empty hv hleaf htuple
  | shared hv => exact hv

theorem IsProper.keysOnce (h : l.IsProper) : l.toGraph.2.KeysOnce l.toGraph.1 := by
  cases h with
  | plain proper => exact Graph.keysOnce_addValue proper Graph.closed_empty
  | shared proper => exact proper.keysOnce _

theorem Spares.value {m : Mapping} (h : (plain m).Spares p) : (Value.dict m).Spares p := ⟨h.none, h.mapping⟩

theorem Spares.graph {g : Graph} {n : Nat} (h : (shared g n).Spares p) : g.Spares n p where
  none := Option.map_eq_none_iff.mp h.none
  mapping q k hq hk := by
    obtain ⟨m, hm⟩ := h.mapping q (g.opened k) hq (Option.map_eq_some_iff.mpr ⟨k, hk, rfl⟩)
    unfold Graph.opened at hm
    split at hm
    · cases hm
    · cases hm
    · cases hm
    · next pairs hc => exact ⟨pairs, hc⟩
    · cases hm

theorem IsProper.spares (h : l.IsProper) (hs : l.Spares p) : l.toGraph.2.Spares l.toGraph.1 p := by
  cases h with
  | plain proper => exact Graph.spares_addValue proper Graph.closed_empty hs.value
  | shared => exact hs.graph

/-! ### Merging -/

/-- The graph of two layers, one behind the other. -/
def bothIn (base later : Layer) : Graph := base.toGraph.2.append later.toGraph.2

/-- Two mappings by themselves are merged as such, and all others as parts of a graph. -/
theorem merge_cases (h : base.merge later = some l) :
    (∃ m n, base = plain m ∧ later = plain n ∧ l = plain (mergeOver m n)) ∨
    ∃ k g, Graph.mergeValue Graph.deepestMerge (bothIn base later) base.toGraph.1
      (later.toGraph.1 + base.toGraph.2.size) = some (k, g) ∧ l = shared g k := by
  have hgraph (h : ((Graph.mergeValue Graph.deepestMerge (bothIn base later) base.toGraph.1
      (later.toGraph.1 + base.toGraph.2.size)).bind fun r => some (shared r.2 r.1)) = some l) :
      ∃ k g, Graph.mergeValue Graph.deepestMerge (bothIn base later)
        base.toGraph.1 (later.toGraph.1 + base.toGraph.2.size) = some (k, g) ∧ l = shared g k := by
    obtain ⟨⟨k, g⟩, hmerge, h⟩ := Option.bind_eq_some_iff.mp h
    cases h
    exact ⟨k, g, hmerge, rfl⟩
  cases base with
  | plain m =>
    cases later with
    | plain n =>
      cases h
      exact .inl ⟨m, n, rfl, rfl, rfl⟩
    | shared => exact .inr (hgraph h)
  | shared => exact .inr (hgraph h)

theorem IsWhole.lt_bothIn (hbase : base.IsWhole) (later : Layer) :
    base.toGraph.1 < (bothIn base later).size := by
  obtain ⟨pairs, hc⟩ := hbase.exists_dict
  exact Nat.lt_of_lt_of_le (Graph.lt_size_of_dict hc) (Graph.extends_append _ _).size_le

theorem IsWhole.add_lt_bothIn (hlater : later.IsWhole) (base : Layer) :
    later.toGraph.1 + base.toGraph.2.size < (bothIn base later).size := by
  obtain ⟨pairs, hc⟩ := hlater.exists_dict
  have hlt := Graph.lt_size_of_dict hc
  rw [bothIn, Graph.size_append]
  omega

section

variable (hbase : base.IsWhole) (hlater : later.IsProper)
include hbase hlater

theorem bothIn_closed : (bothIn base later).Closed := hbase.closed.append hlater.isWhole.closed

/-- A merge of two mappings of which no part is missing is one, too. -/
theorem isWhole_merge (h : base.merge later = some l) : l.IsWhole := by
  rcases merge_cases h with ⟨m, n, rfl, rfl, rfl⟩ | ⟨k, g, hmerge, rfl⟩
  · cases hbase with
    | plain proper =>
      cases hlater with
      | plain proper' => exact .plain (proper.mergeOver proper')
  · have hclosed := bothIn_closed hbase hlater
    obtain ⟨pairs, hc⟩ := hbase.exists_dict
    obtain ⟨pairs', hc'⟩ := hlater.isWhole.exists_dict
    have hold : (bothIn base later).cell base.toGraph.1 = .dict pairs := by
      rw [bothIn, (Graph.extends_append _ _).cell_eq _ (Graph.lt_size_of_dict hc), hc]
    have hnew : (bothIn base later).cell (later.toGraph.1 + base.toGraph.2.size) =
        Graph.shiftCell base.toGraph.2.size (.dict pairs') := by
      rw [bothIn, Graph.cell_append, hc']
    obtain ⟨-, hg, -⟩ := (Graph.adds_mergeValue _).adds hclosed (hbase.lt_bothIn later)
      (hlater.isWhole.add_lt_bothIn base) hmerge
    obtain ⟨merged, hroot⟩ := Graph.exists_dict_mergeValue hold hnew hmerge
    exact .shared hg hroot

/-- A leaf of the later layer takes the place of what was there. -/
theorem hasLeaf_merge_of_leaf (h : base.merge later = some l) (hv : later.HasLeaf p v) : l.HasLeaf p v := by
  rcases merge_cases h with ⟨m, n, rfl, rfl, rfl⟩ | ⟨k, g, hmerge, rfl⟩
  · cases hlater with
    | plain proper =>
      cases hv with
      | plain hv hleaf htuple =>
        refine .plain ?_ hleaf htuple
        rw [← Value.mergeValue_dict_dict]
        exact Value.at?_mergeValue_of_leaf proper.keysOnce hv hleaf
  · refine .shared (Graph.leafAt?_mergeValue_of_leaf (bothIn_closed hbase hlater) (hbase.lt_bothIn later)
      (hlater.isWhole.add_lt_bothIn base) (hlater.keysOnce.append _) ?_ hmerge)
    rw [bothIn, Graph.leafAt?_append_right]
    exact hlater.isWhole.leafAt? hv

/-- A leaf of the earlier layer stays where the later one says nothing of its place. -/
theorem hasLeaf_merge_of_spares (h : base.merge later = some l) (hv : base.HasLeaf p v)
    (hs : later.Spares p) : l.HasLeaf p v := by
  rcases merge_cases h with ⟨m, n, rfl, rfl, rfl⟩ | ⟨k, g, hmerge, rfl⟩
  · cases hlater with
    | plain proper =>
      cases hv with
      | plain hv hleaf htuple =>
        refine .plain ?_ hleaf htuple
        rw [← Value.mergeValue_dict_dict]
        exact Value.at?_mergeValue_of_spares proper.keysOnce hv hs.value
  · obtain ⟨pairs, hc⟩ := hbase.exists_dict
    refine .shared (Graph.leafAt?_mergeValue_of_spares (bothIn_closed hbase hlater) (hbase.lt_bothIn later)
      (hlater.isWhole.add_lt_bothIn base) (hlater.keysOnce.append _) ?_ ((hlater.spares hs).append _) hmerge)
    rw [bothIn, (Graph.extends_append _ _).leafAt? hbase.closed (Graph.lt_size_of_dict hc)]
    exact hbase.leafAt? hv

end

/-! ### Layers over layers -/

/-- Layers merged one after the other. -/
def mergeAll (base : Layer) (layers : List Layer) : Option Layer := layers.foldlM merge base

theorem mergeAll_cons_eq_some {layers : List Layer} :
    mergeAll base (later :: layers) = some l ↔
      ∃ merged, base.merge later = some merged ∧ mergeAll merged layers = some l :=
  Option.bind_eq_some_iff

theorem isWhole_mergeAll {layers : List Layer} (hbase : base.IsWhole) (hlayers : ∀ k ∈ layers, k.IsProper)
    (h : mergeAll base layers = some l) : l.IsWhole := by
  induction layers generalizing base with
  | nil => exact Option.some.inj h ▸ hbase
  | cons later layers ih =>
    obtain ⟨merged, hmerge, h⟩ := mergeAll_cons_eq_some.mp h
    exact ih (isWhole_merge hbase (hlayers later List.mem_cons_self) hmerge)
      (fun k hk => hlayers k (List.mem_cons_of_mem _ hk)) h

/-- A leaf stays through all layers that say nothing of its place. -/
theorem hasLeaf_mergeAll_of_spares {layers : List Layer} (hbase : base.IsWhole)
    (hlayers : ∀ k ∈ layers, k.IsProper) (h : mergeAll base layers = some l) (hv : base.HasLeaf p v)
    (hs : ∀ k ∈ layers, k.Spares p) : l.HasLeaf p v := by
  induction layers generalizing base with
  | nil => exact Option.some.inj h ▸ hv
  | cons later layers ih =>
    obtain ⟨merged, hmerge, h⟩ := mergeAll_cons_eq_some.mp h
    have hlater := hlayers later List.mem_cons_self
    exact ih (isWhole_merge hbase hlater hmerge) (fun k hk => hlayers k (List.mem_cons_of_mem _ hk)) h
      (hasLeaf_merge_of_spares hbase hlater hmerge hv (hs later List.mem_cons_self))
      fun k hk => hs k (List.mem_cons_of_mem _ hk)

/-- The last layer that says something of a place says what stands there, if that is a leaf. -/
theorem hasLeaf_mergeAll {before after : List Layer} (hbase : base.IsWhole)
    (hlayers : ∀ k ∈ before ++ later :: after, k.IsProper)
    (h : mergeAll base (before ++ later :: after) = some l) (hv : later.HasLeaf p v)
    (hs : ∀ k ∈ after, k.Spares p) : l.HasLeaf p v := by
  induction before generalizing base with
  | nil =>
    obtain ⟨merged, hmerge, h⟩ := mergeAll_cons_eq_some.mp h
    have hlater := hlayers later List.mem_cons_self
    exact hasLeaf_mergeAll_of_spares (isWhole_merge hbase hlater hmerge)
      (fun k hk => hlayers k (List.mem_cons_of_mem _ hk)) h
      (hasLeaf_merge_of_leaf hbase hlater hmerge hv) hs
  | cons first before ih =>
    obtain ⟨merged, hmerge, h⟩ := mergeAll_cons_eq_some.mp h
    exact ih (isWhole_merge hbase (hlayers first List.mem_cons_self) hmerge)
      (fun k hk => hlayers k (List.mem_cons_of_mem _ hk)) h

end Layer

end Stencil
