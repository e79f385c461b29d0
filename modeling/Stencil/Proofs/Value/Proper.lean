import Stencil.Proofs.Value.GraphMerge

/-! Proper values and graphs: each mapping lists a key once, a tuple stands under no key, and no part is
missing. The values of a proper graph are proper, and so are values that were merged. -/
namespace Stencil

/-- Whether no part of a graph is missing, each mapping lists each key once, and none holds a tuple. -/
structure Graph.IsProper (g : Graph) : Prop where
  closed : g.Closed
  keys : ∀ n pairs, g.cell n = .dict pairs → (g.keys pairs).Nodup
  noTuple : ∀ n pairs, g.cell n = .dict pairs → ∀ p ∈ pairs, ∀ items, g.cell p.2 ≠ .tuple items

/-- The same of a value and its parts. -/
inductive Value.IsProper : Value → Prop
  | scalar (s : Scalar) : IsProper (.scalar s)
  | set (items : List Scalar) : IsProper (.set items)
  | list {items : List Value} (parts : ∀ v ∈ items, IsProper v) : IsProper (.list items)
  | tuple {items : List Value} (parts : ∀ v ∈ items, IsProper v) : IsProper (.tuple items)
  | dict {pairs : Mapping} (keys : (Mapping.keys pairs).Nodup) (parts : ∀ p ∈ pairs, IsProper p.2)
      (noTuple : ∀ p ∈ pairs, ∀ items, p.2 ≠ .tuple items) : IsProper (.dict pairs)
  | knot {g : Graph} {n : Nat} (graph : g.IsProper) (number : n < g.size) : IsProper (.knot g n)

/-- Each result of a step for the items of a list is that of an item. -/
theorem exists_of_mem_mapM {α β : Type} {f : α → Option β} {as : List α} {bs : List β}
    (h : as.mapM f = some bs) {b : β} (hb : b ∈ bs) : ∃ a ∈ as, f a = some b := by
  induction as generalizing bs with
  | nil =>
    cases h
    cases hb
  | cons a as ih =>
    rw [List.mapM_cons] at h
    obtain ⟨first, hfirst, h⟩ := Option.bind_eq_some_iff.mp h
    obtain ⟨rest, hrest, h⟩ := Option.bind_eq_some_iff.mp h
    cases h
    rcases List.mem_cons.mp hb with rfl | hb
    · exact ⟨a, List.mem_cons_self, hfirst⟩
    · obtain ⟨a, ha, hf⟩ := ih hrest hb
      exact ⟨a, List.mem_cons_of_mem _ ha, hf⟩

/-- Another step that comes to the same wherever the first one has a result. -/
theorem mapM_eq_some_of_imp {α β : Type} {f e : α → Option β} {as : List α} {bs : List β}
    (hf : ∀ a ∈ as, ∀ b, f a = some b → e a = some b) (h : as.mapM f = some bs) :
    as.mapM e = some bs := by
  induction as generalizing bs with
  | nil => exact h
  | cons a as ih =>
    rw [List.mapM_cons] at h ⊢
    obtain ⟨b, hb, h⟩ := Option.bind_eq_some_iff.mp h
    obtain ⟨bs', hbs, h⟩ := Option.bind_eq_some_iff.mp h
    have hrest := ih (fun a ha => hf a (List.mem_cons_of_mem _ ha)) hbs
    exact Option.bind_eq_some_iff.mpr
      ⟨b, hf a List.mem_cons_self b hb, Option.bind_eq_some_iff.mpr ⟨bs', hrest, h⟩⟩

namespace Value.IsProper

variable {m : Mapping} {key : Scalar} {v w : Value} {p : List String}

theorem nodup (h : (Value.dict m).IsProper) : (Mapping.keys m).Nodup := by
  cases h with
  | dict keys => exact keys

theorem part (h : (Value.dict m).IsProper) : ∀ p ∈ m, p.2.IsProper := by
  cases h with
  | dict _ parts => exact parts

theorem part_ne_tuple (h : (Value.dict m).IsProper) : ∀ p ∈ m, ∀ items, p.2 ≠ .tuple items := by
  cases h with
  | dict _ _ noTuple => exact noTuple

theorem mem_of_get? (hv : Mapping.get? m key = some v) : ∃ k, (k, v) ∈ m := by
  obtain ⟨p, hfind, rfl⟩ := Option.map_eq_some_iff.mp hv
  exact ⟨p.1, List.mem_of_find?_eq_some hfind⟩

theorem get? (h : (Value.dict m).IsProper) (hv : Mapping.get? m key = some v) : v.IsProper := by
  obtain ⟨k, hmem⟩ := mem_of_get? hv
  exact h.part _ hmem

theorem follow? (h : v.IsProper) {path : List Scalar} (hw : v.follow? path = some w) : w.IsProper := by
  induction path generalizing v with
  | nil =>
    rw [follow?_nil] at hw
    exact Option.some.inj hw ▸ h
  | cons key path ih =>
    obtain ⟨m, u, rfl, hu, hw⟩ := follow?_cons_eq_some hw
    exact ih (h.get? hu) hw

theorem keysOnce (h : v.IsProper) : v.KeysOnce := fun _ _ hp => (h.follow? hp).nodup

/-- A tuple stands at no place below a mapping. -/
theorem ne_tuple (h : (Value.dict m).IsProper) (hw : (Value.dict m).at? p = some w) (items : List Value) :
    w ≠ .tuple items := by
  induction p generalizing m with
  | nil =>
    rw [at?_nil] at hw
    cases hw
    nofun
  | cons name p ih =>
    obtain ⟨m', u, hm, hu, hw⟩ := at?_cons_eq_some hw
    cases hm
    obtain ⟨k, hmem⟩ := mem_of_get? hu
    cases p with
    | nil =>
      rw [at?_nil] at hw
      cases hw
      exact h.part_ne_tuple _ hmem items
    | cons next p =>
      obtain ⟨inner, -, rfl, -, -⟩ := at?_cons_eq_some hw
      exact ih (h.part _ hmem) hw

end Value.IsProper

/-! ### Values of graphs -/

namespace Graph

variable {g : Graph} {n : Nat}

theorem keys_eq_of_mapM {f : Nat → Option Value} {pairs : List (Nat × Nat)} {m : Mapping}
    (h : pairs.mapM (fun p => (f p.2).map fun v => (g.scalarAt p.1, v)) = some m) :
    Mapping.keys m = g.keys pairs := by
  refine Scalar.keysOf_eq_of_map_eq ?_
  induction pairs generalizing m with
  | nil =>
    cases h
    rfl
  | cons p pairs ih =>
    rw [List.mapM_cons] at h
    obtain ⟨q, hq, h⟩ := Option.bind_eq_some_iff.mp h
    obtain ⟨rest, hrest, h⟩ := Option.bind_eq_some_iff.mp h
    cases h
    obtain ⟨v, -, rfl⟩ := Option.map_eq_some_iff.mp hq
    rw [List.map_cons, List.map_cons, ih hrest]

/-- The values of tuples alone are tuples. -/
theorem cell_of_tree?_tuple {fuel : Nat} {items : List Value} (h : g.tree? fuel n = some (.tuple items)) :
    ∃ parts, g.cell n = .tuple parts := by
  cases fuel with
  | zero => cases h
  | succ fuel =>
    rw [tree?] at h
    split at h
    · cases h
    · obtain ⟨_, _, h⟩ := Option.map_eq_some_iff.mp h
      cases h
    · next parts hc => exact ⟨parts, hc⟩
    · obtain ⟨_, _, h⟩ := Option.map_eq_some_iff.mp h
      cases h
    · cases h

theorem cell_of_knotted_tuple {fuel : Nat} {items : List Value} (h : g.knotted fuel n = .tuple items) :
    ∃ parts, g.cell n = .tuple parts := by
  cases fuel with
  | zero => cases h
  | succ fuel =>
    rw [knotted] at h
    split at h
    · cases h
    · split at h
      · cases h
      · cases h
      · next parts hc => exact ⟨parts, hc⟩
      · cases h
      · cases h

theorem cell_of_value_tuple {items : List Value} (h : g.value n = .tuple items) :
    ∃ parts, g.cell n = .tuple parts := by
  unfold value at h
  cases htree : g.tree? (g.size + 1) n with
  | some v =>
    rw [htree, Option.getD_some] at h
    exact cell_of_tree?_tuple (h ▸ htree)
  | none =>
    rw [htree, Option.getD_none] at h
    exact cell_of_knotted_tuple h

theorem IsProper.tree? (hg : g.IsProper) {fuel : Nat} {v : Value} (h : g.tree? fuel n = some v) :
    v.IsProper := by
  induction fuel generalizing n v with
  | zero => cases h
  | succ fuel ih =>
    rw [Graph.tree?] at h
    split at h
    · cases h
      exact .scalar _
    · obtain ⟨vs, hvs, rfl⟩ := Option.map_eq_some_iff.mp h
      refine .list fun v hv => ?_
      obtain ⟨i, -, hi⟩ := exists_of_mem_mapM hvs hv
      exact ih hi
    · obtain ⟨vs, hvs, rfl⟩ := Option.map_eq_some_iff.mp h
      refine .tuple fun v hv => ?_
      obtain ⟨i, -, hi⟩ := exists_of_mem_mapM hvs hv
      exact ih hi
    · next pairs hc =>
      obtain ⟨m, hm, rfl⟩ := Option.map_eq_some_iff.mp h
      have hpart (q : Scalar × Value) (hq : q ∈ m) : ∃ p ∈ pairs, g.tree? fuel p.2 = some q.2 := by
        obtain ⟨p, hp, hstep⟩ := exists_of_mem_mapM hm hq
        obtain ⟨v, hv, rfl⟩ := Option.map_eq_some_iff.mp hstep
        exact ⟨p, hp, hv⟩
      refine .dict ?_ (fun q hq => ?_) fun q hq items htuple => ?_
      · rw [keys_eq_of_mapM (f := g.tree? fuel) hm]
        exact hg.keys n pairs hc
      · obtain ⟨p, -, hp⟩ := hpart q hq
        exact ih hp
      · obtain ⟨p, hmem, hp⟩ := hpart q hq
        obtain ⟨parts, hparts⟩ := cell_of_tree?_tuple (htuple ▸ hp)
        exact hg.noTuple n pairs hc p hmem parts hparts
    · cases h
      exact .set _

theorem keys_map (g : Graph) (f : Nat → Value) (pairs : List (Nat × Nat)) :
    Mapping.keys (pairs.map fun p => (g.scalarAt p.1, f p.2)) = g.keys pairs := by
  refine Scalar.keysOf_eq_of_map_eq ?_
  rw [List.map_map]
  rfl

/-- A mapping of proper values under the keys of a cell. -/
theorem IsProper.dict (hg : g.IsProper) {pairs : List (Nat × Nat)} (hc : g.cell n = .dict pairs)
    {f : Nat → Value} (hf : ∀ p ∈ pairs, (f p.2).IsProper)
    (htuple : ∀ k items, f k = .tuple items → ∃ parts, g.cell k = .tuple parts) :
    (Value.dict (pairs.map fun p => (g.scalarAt p.1, f p.2))).IsProper := by
  refine .dict ?_ (fun q hq => ?_) fun q hq items hitems => ?_
  · rw [keys_map]
    exact hg.keys n pairs hc
  · obtain ⟨p, hp, rfl⟩ := List.mem_map.mp hq
    exact hf p hp
  · obtain ⟨p, hp, rfl⟩ := List.mem_map.mp hq
    obtain ⟨parts, hparts⟩ := htuple p.2 items hitems
    exact hg.noTuple n pairs hc p hp parts hparts

theorem IsProper.knotted (hg : g.IsProper) (fuel : Nat) (hn : n < g.size) : (g.knotted fuel n).IsProper := by
  induction fuel generalizing n with
  | zero => exact .knot hg hn
  | succ fuel ih =>
    have hpart (k : Nat) (hk : k ∈ (g.cell n).parts) : (g.knotted fuel k).IsProper := ih (hg.closed n k hk)
    rw [Graph.knotted]
    split
    · exact .knot hg hn
    · split
      · exact .scalar _
      · next items hc =>
        refine .list fun v hv => ?_
        obtain ⟨k, hk, rfl⟩ := List.mem_map.mp hv
        exact hpart k (by rw [hc]; exact hk)
      · next items hc =>
        refine .tuple fun v hv => ?_
        obtain ⟨k, hk, rfl⟩ := List.mem_map.mp hv
        exact hpart k (by rw [hc]; exact hk)
      · next pairs hc =>
        exact hg.dict hc (fun p hp => ih (hg.closed.of_pair hc p hp).2) fun k items => cell_of_knotted_tuple
      · exact .set _

theorem IsProper.value (hg : g.IsProper) (hn : n < g.size) : (g.value n).IsProper := by
  unfold Graph.value
  cases h : g.tree? (g.size + 1) n with
  | some v => exact hg.tree? h
  | none => exact hg.knotted _ hn

theorem IsProper.opened (hg : g.IsProper) (n : Nat) : (g.opened n).IsProper := by
  unfold Graph.opened
  split
  · exact .scalar _
  · next items hc =>
    refine .list fun v hv => ?_
    obtain ⟨k, hk, rfl⟩ := List.mem_map.mp hv
    exact hg.value (hg.closed n k (by rw [hc]; exact hk))
  · next items hc =>
    refine .tuple fun v hv => ?_
    obtain ⟨k, hk, rfl⟩ := List.mem_map.mp hv
    exact hg.value (hg.closed n k (by rw [hc]; exact hk))
  · next pairs hc =>
    exact hg.dict hc (fun p hp => hg.value (hg.closed.of_pair hc p hp).2) fun k items => cell_of_value_tuple
  · exact .set _

theorem IsProper.keysOnce (hg : g.IsProper) (n : Nat) : g.KeysOnce n :=
  fun _ k pairs _ hc => hg.keys k pairs hc

/-- A tuple stands at no place below a mapping. -/
theorem IsProper.cell_ne_tuple (hg : g.IsProper) {pairs : List (Nat × Nat)} (hc : g.cell n = .dict pairs)
    {p : List String} {k : Nat} (hk : g.part? n p = some k) (items : List Nat) : g.cell k ≠ .tuple items := by
  induction p generalizing n pairs with
  | nil =>
    cases hk
    rw [hc]
    nofun
  | cons name p ih =>
    obtain ⟨m, hm, hk⟩ := Option.bind_eq_some_iff.mp hk
    rw [find?_of_dict hc] at hm
    obtain ⟨key, hmem, -⟩ := exists_of_under? hm
    cases p with
    | nil =>
      cases hk
      exact hg.noTuple n pairs hc _ hmem items
    | cons next p =>
      obtain ⟨m', hm', -⟩ := Option.bind_eq_some_iff.mp hk
      obtain ⟨inner, hinner⟩ := exists_dict_of_find? hm'
      exact ih hinner hk

end Graph

/-! ### Merging -/

namespace Value

theorem IsProper.opened {v : Value} (h : v.IsProper) : v.opened.IsProper := by
  cases h with
  | knot graph => exact graph.opened _
  | scalar => exact .scalar _
  | set => exact .set _
  | list parts => exact .list parts
  | tuple parts => exact .tuple parts
  | dict keys parts noTuple => exact .dict keys parts noTuple

theorem IsProper.item {items : List Value} (h : (Value.list items).IsProper) : ∀ v ∈ items, v.IsProper := by
  cases h with
  | list parts => exact parts

theorem mem_mergeLists {base later : List Value} {v : Value} (h : v ∈ mergeLists base later) :
    v ∈ base ∨ v ∈ later := by
  unfold mergeLists at h
  split at h
  · exact .inl h
  · exact (List.mem_append.mp h).imp_right (List.mem_cons_of_mem _)
  · exact .inr (List.mem_cons_of_mem _ h)
  · exact .inr h

end Value

namespace Value

/-- A mapping in which a proper value was put. -/
theorem IsProper.insert {m : Mapping} {v : Value} (h : (Value.dict m).IsProper) (hv : v.IsProper)
    (htuple : ∀ items, v ≠ .tuple items) (key : Scalar) : (Value.dict (Mapping.insert m key v)).IsProper := by
  refine .dict (Mapping.nodup_keys_insert h.nodup key v) (fun p hp => ?_) fun p hp items => ?_
  · rcases Mapping.mem_insert hp with hp | hp
    · exact h.part p hp
    · exact hp ▸ hv
  · rcases Mapping.mem_insert hp with hp | hp
    · exact h.part_ne_tuple p hp items
    · exact hp ▸ htuple items

theorem mergeValue_ne_tuple {old v : Value} (h : ∀ items, v ≠ .tuple items) (items : List Value) :
    mergeValue old v ≠ .tuple items := by
  rw [mergeValue.eq_def]
  split
  · split <;> exact Value.noConfusion
  · split <;> exact Value.noConfusion
  · exact h items

/-- A mapping over which values were merged one after the other. -/
theorem IsProper.mergeOver_of {base later : Mapping} (hbase : (Value.dict base).IsProper)
    (parts : ∀ p ∈ later, p.2.IsProper) (noTuple : ∀ p ∈ later, ∀ items, p.2 ≠ .tuple items)
    (hmerge : ∀ p ∈ later, ∀ old : Value, old.IsProper → (mergeValue old p.2).IsProper) :
    (Value.dict (mergeOver base later)).IsProper := by
  induction later generalizing base with
  | nil =>
    rw [mergeOver_nil]
    exact hbase
  | cons p later ih =>
    obtain ⟨k, v⟩ := p
    have hv := parts (k, v) List.mem_cons_self
    have htuple := noTuple (k, v) List.mem_cons_self
    have hstep (w : Value) (hw : w.IsProper) (htuple : ∀ items, w ≠ .tuple items) :
        (Value.dict (mergeOver (Mapping.insert base k w) later)).IsProper :=
      ih (hbase.insert hw htuple k) (fun q hq => parts q (List.mem_cons_of_mem _ hq))
        (fun q hq => noTuple q (List.mem_cons_of_mem _ hq))
        fun q hq => hmerge q (List.mem_cons_of_mem _ hq)
    rw [mergeOver]
    split
    · next o ho =>
      obtain ⟨q, hfind, rfl⟩ := Option.map_eq_some_iff.mp ho
      have ho := hbase.part q (List.mem_of_find?_eq_some hfind)
      exact hstep _ (hmerge (k, v) List.mem_cons_self _ ho) (mergeValue_ne_tuple htuple)
    · exact hstep v hv htuple

/-- Proper values are merged into a proper value. -/
theorem IsProper.mergeValue {old v : Value} (hold : old.IsProper) (hv : v.IsProper) :
    (Stencil.mergeValue old v).IsProper := by
  induction hv generalizing old with
  | scalar s => simpa [Stencil.mergeValue] using IsProper.scalar s
  | set items => simpa [Stencil.mergeValue] using IsProper.set items
  | tuple parts => simpa [Stencil.mergeValue] using IsProper.tuple parts
  | knot graph number => simpa [Stencil.mergeValue] using IsProper.knot graph number
  | list parts =>
    rw [Stencil.mergeValue]
    split
    · next base hbase =>
      have hitems := (hbase ▸ hold.opened).item
      exact .list fun v hv => (mem_mergeLists hv).elim (hitems v) (parts v)
    · exact .list parts
  | dict keys parts noTuple ih =>
    rw [Stencil.mergeValue]
    split
    · next base hbase =>
      have hbase : (Value.dict base).IsProper := hbase ▸ hold.opened
      exact hbase.mergeOver_of parts noTuple fun p hp _ => ih p hp
    · exact .dict keys parts noTuple

theorem IsProper.mergeOver {base later : Mapping} (hbase : (Value.dict base).IsProper)
    (hlater : (Value.dict later).IsProper) : (Value.dict (Stencil.mergeOver base later)).IsProper := by
  rw [← mergeValue_dict_dict]
  exact hbase.mergeValue hlater

end Value

end Stencil
