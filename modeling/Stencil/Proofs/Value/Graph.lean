import Stencil.Proofs.Value.Places
import Stencil.Value.Layer

/-! Places in graphs. Where every part of a cell is a cell of the graph, new cells behind the others change
nothing that stands at a place, and a graph that is put behind another one keeps its places. -/
namespace Stencil.Graph

variable {g h : Graph} {n k : Nat}

/-! ### Cells -/

theorem cell_of_size_le (hn : g.size ≤ n) : g.cell n = .scalar .null := by
  rw [cell, Array.getElem?_eq_none hn, Option.getD_none]

/-- A mapping is a cell of the graph. -/
theorem lt_size_of_dict {pairs : List (Nat × Nat)} (hc : g.cell n = .dict pairs) : n < g.size := by
  rcases Nat.lt_or_ge n g.size with hn | hn
  · exact hn
  · rw [cell_of_size_le hn] at hc
    cases hc

/-- Whether a graph has all cells of another one, and maybe more behind them. -/
structure Extends (h g : Graph) : Prop where
  size_le : g.size ≤ h.size
  cell_eq : ∀ n < g.size, h.cell n = g.cell n

/-- Whether every part of a cell is a cell of the graph. -/
def Closed (g : Graph) : Prop := ∀ n, ∀ k ∈ (g.cell n).parts, k < g.size

theorem closed_empty : Closed {} := by
  intro n k hk
  rw [cell_of_size_le (Nat.zero_le n)] at hk
  cases hk

theorem Extends.refl (g : Graph) : g.Extends g := ⟨Nat.le_refl _, fun _ _ => rfl⟩

theorem Extends.trans {i : Graph} (hi : i.Extends h) (hg : h.Extends g) : i.Extends g where
  size_le := Nat.le_trans hg.size_le hi.size_le
  cell_eq n hn := (hi.cell_eq n (Nat.lt_of_lt_of_le hn hg.size_le)).trans (hg.cell_eq n hn)

theorem Extends.scalarAt (hg : h.Extends g) (hn : n < g.size) : h.scalarAt n = g.scalarAt n := by
  rw [Graph.scalarAt, Graph.scalarAt, hg.cell_eq n hn]

theorem Closed.of_pair {pairs : List (Nat × Nat)} (hg : g.Closed) (hc : g.cell n = .dict pairs) :
    ∀ p ∈ pairs, p.1 < g.size ∧ p.2 < g.size := by
  intro p hp
  have hparts : ∀ k ∈ [p.1, p.2], k < g.size := fun k hk => by
    refine hg n k ?_
    rw [hc]
    exact List.mem_flatMap.mpr ⟨p, hp, hk⟩
  exact ⟨hparts p.1 (by simp), hparts p.2 (by simp)⟩

/-! ### New cells -/

@[simp] theorem size_add (g : Graph) (c : Cell) : (g.add c).2.size = g.size + 1 := by
  simp [add, size]

@[simp] theorem add_fst (g : Graph) (c : Cell) : (g.add c).1 = g.size := rfl

theorem extends_add (g : Graph) (c : Cell) : (g.add c).2.Extends g where
  size_le := by simp
  cell_eq n hn := by
    have hlt : n < g.cells.size := hn
    simp [cell, add, Array.getElem?_push, Nat.ne_of_lt hlt]

theorem Closed.add {c : Cell} (hg : g.Closed) (hc : ∀ k ∈ c.parts, k < g.size) : (g.add c).2.Closed := by
  intro n k hk
  rw [size_add]
  rcases Nat.lt_trichotomy n g.size with hn | rfl | hn
  · rw [(extends_add g c).cell_eq n hn] at hk
    exact Nat.lt_succ_of_lt (hg n k hk)
  · have hcell : (g.add c).2.cell g.size = c := cell_add_fst g c
    rw [hcell] at hk
    exact Nat.lt_succ_of_lt (hc k hk)
  · rw [cell_of_size_le (by rw [size_add]; exact hn)] at hk
    cases hk

/-! ### Another cell under a number -/

@[simp] theorem size_put (g : Graph) (n : Nat) (c : Cell) : (g.put n c).size = g.size := by
  simp [put, size]

theorem cell_put_self {c : Cell} (hn : n < g.size) : (g.put n c).cell n = c := by
  have hlt : n < g.cells.size := hn
  simp [put, cell, hlt]

theorem cell_put_of_ne {c : Cell} (hne : k ≠ n) : (g.put n c).cell k = g.cell k := by
  simp [put, cell, Array.getElem?_setIfInBounds_ne hne.symm]

/-! ### A graph behind another one -/

@[simp] theorem size_append (g h : Graph) : (g.append h).size = g.size + h.size := by
  simp [append, size]

theorem extends_append (g h : Graph) : (g.append h).Extends g where
  size_le := by simp
  cell_eq n hn := by
    have hlt : n < g.cells.size := hn
    simp [cell, append, Array.getElem?_append_left hlt]

theorem cell_append (g h : Graph) (n : Nat) :
    (g.append h).cell (n + g.size) = shiftCell g.size (h.cell n) := by
  have hget : (g.append h).cells[n + g.size]? = h.cells[n]?.map (shiftCell g.size) := by
    simp only [append, size]
    rw [Array.getElem?_append_right (Nat.le_add_left _ _), Nat.add_sub_cancel, Array.getElem?_map]
  rw [cell, hget, cell]
  cases h.cells[n]? <;> rfl

theorem parts_shiftCell (m : Nat) (c : Cell) : (shiftCell m c).parts = c.parts.map (· + m) := by
  cases c with
  | dict pairs => simp [shiftCell, Cell.parts, List.flatMap_map, List.map_flatMap]
  | _ => rfl

theorem Closed.append (hg : g.Closed) (hh : h.Closed) : (g.append h).Closed := by
  intro n k hk
  rw [size_append]
  rcases Nat.lt_or_ge n g.size with hn | hn
  · rw [(extends_append g h).cell_eq n hn] at hk
    exact Nat.lt_add_right _ (hg n k hk)
  · obtain ⟨m, rfl⟩ := Nat.exists_eq_add_of_le' hn
    rw [cell_append, parts_shiftCell] at hk
    obtain ⟨i, hi, rfl⟩ := List.mem_map.mp hk
    have hlt := hh m i hi
    omega

@[simp] theorem scalarAt_append (g h : Graph) (n : Nat) :
    (g.append h).scalarAt (n + g.size) = h.scalarAt n := by
  rw [scalarAt, cell_append, scalarAt]
  cases h.cell n <;> rfl

/-! ### Pairs -/

/-- The value under a key among pairs. -/
def under? (g : Graph) (pairs : List (Nat × Nat)) (key : Scalar) : Option Nat :=
  (pairs.find? fun p => (g.scalarAt p.1).sameKey key).map Prod.snd

/-- What the keys of pairs count as, of those that are equal to themselves. -/
def keys (g : Graph) (pairs : List (Nat × Nat)) : List Key := Scalar.keysOf (fun p => g.scalarAt p.1) pairs

variable {pairs : List (Nat × Nat)} {key : Scalar} {c : Key}

theorem find?_eq_under? (g : Graph) (n : Nat) (key : Scalar) : g.find? n key = g.under? (g.pairs n) key := rfl

theorem under?_cons_self {k : Nat} (hk : (g.scalarAt k).key = key.key) (v : Nat) :
    g.under? ((k, v) :: pairs) key = some v := by
  simp [under?, Scalar.sameKey, hk]

theorem under?_cons_of_ne {k : Nat} (hk : (g.scalarAt k).key ≠ key.key) (v : Nat) :
    g.under? ((k, v) :: pairs) key = g.under? pairs key := by
  simp [under?, Scalar.sameKey, hk]

/-- What is under a key is the value of a pair. -/
theorem exists_of_under? {v : Nat} (hv : g.under? pairs key = some v) :
    ∃ k, (k, v) ∈ pairs ∧ (g.scalarAt k).key = key.key := by
  obtain ⟨p, hfind, rfl⟩ := Option.map_eq_some_iff.mp hv
  exact ⟨p.1, List.mem_of_find?_eq_some hfind,
    Scalar.sameKey_iff.mp (List.find?_some (p := fun q : Nat × Nat => (g.scalarAt q.1).sameKey key) hfind)⟩

theorem mem_keys_iff : c ∈ g.keys pairs ↔ (∃ p ∈ pairs, (g.scalarAt p.1).key = c) ∧ c.equalsItself = true :=
  Scalar.mem_keysOf_iff

theorem nodup_keys_cons_iff {p : Nat × Nat} : (g.keys (p :: pairs)).Nodup ↔
    ((g.scalarAt p.1).key.equalsItself = true → (g.scalarAt p.1).key ∉ g.keys pairs) ∧ (g.keys pairs).Nodup :=
  Scalar.nodup_keysOf_cons_iff

theorem under?_eq_none_of_notMem (hself : key.key.equalsItself = true) (hkey : key.key ∉ g.keys pairs) :
    g.under? pairs key = none := by
  cases hv : g.under? pairs key with
  | none => rfl
  | some v =>
    obtain ⟨k, hmem, hk⟩ := exists_of_under? hv
    exact absurd (mem_keys_iff.mpr ⟨⟨(k, v), hmem, hk⟩, hself⟩) hkey

theorem under?_congr (hkeys : ∀ p ∈ pairs, h.scalarAt p.1 = g.scalarAt p.1) (key : Scalar) :
    h.under? pairs key = g.under? pairs key := by
  unfold under?
  refine congrArg (Option.map _) ?_
  induction pairs with
  | nil => rfl
  | cons p pairs ih =>
    rw [List.find?_cons, List.find?_cons, hkeys p List.mem_cons_self,
      ih fun q hq => hkeys q (List.mem_cons_of_mem _ hq)]

theorem keys_congr (hkeys : ∀ p ∈ pairs, h.scalarAt p.1 = g.scalarAt p.1) : h.keys pairs = g.keys pairs :=
  Scalar.keysOf_eq_of_map_eq (List.map_congr_left hkeys)

/-- A key is the same as one that is equal to itself if the two count as the same. -/
theorem isSameKey_iff {a b : Nat} (hb : (g.scalarAt b).key.equalsItself = true) :
    g.isSameKey a b = true ↔ (g.scalarAt a).key = (g.scalarAt b).key := by
  rw [isSameKey, Bool.or_eq_true, Bool.and_eq_true, Scalar.sameKey_iff]
  constructor
  · rintro (heq | hsame)
    · rw [eq_of_beq heq]
    · exact hsame.2
  · exact fun hab => .inr ⟨hab ▸ hb, hab⟩

theorem key_eq_of_isSameKey {a b : Nat} (hab : g.isSameKey a b = true) :
    (g.scalarAt a).key = (g.scalarAt b).key := by
  rw [isSameKey, Bool.or_eq_true, Bool.and_eq_true, Scalar.sameKey_iff] at hab
  rcases hab with heq | hsame
  · rw [eq_of_beq heq]
  · exact hsame.2

/-- A key that is equal to itself has the value that was put under it last. -/
theorem under?_putPair (g : Graph) (pairs : List (Nat × Nat)) (k v : Nat) (hself : key.key.equalsItself = true) :
    g.under? (g.putPair pairs k v) key =
      if (g.scalarAt k).key = key.key then some v else g.under? pairs key := by
  induction pairs with
  | nil =>
    rw [putPair]
    split
    · next hk => exact under?_cons_self hk v
    · next hk => exact under?_cons_of_ne hk v
  | cons p pairs ih =>
    obtain ⟨old, w⟩ := p
    rw [putPair]
    by_cases hold : (g.scalarAt old).key = key.key
    · split
      · next hsame => rw [under?_cons_self hold, if_pos ((key_eq_of_isSameKey hsame).symm.trans hold)]
      · next hdiffers =>
        have hk : (g.scalarAt k).key ≠ key.key := fun hk =>
          hdiffers ((isSameKey_iff (hk ▸ hself)).mpr (hold.trans hk.symm))
        rw [under?_cons_self hold, if_neg hk, under?_cons_self hold]
    · split
      · next hsame =>
        have hk : (g.scalarAt k).key ≠ key.key := fun hk => hold ((key_eq_of_isSameKey hsame).trans hk)
        rw [under?_cons_of_ne hold, if_neg hk, under?_cons_of_ne hold]
      · rw [under?_cons_of_ne hold, ih, under?_cons_of_ne hold]

/-- A key that is not there yet is put at the end. -/
theorem putPair_of_none {key : Nat} (hnone : pairs.find? (fun p => g.isSameKey p.1 key) = none) (v : Nat) :
    g.putPair pairs key v = pairs ++ [(key, v)] := by
  induction pairs with
  | nil => rfl
  | cons p pairs ih =>
    rw [List.find?_cons] at hnone
    split at hnone
    · cases hnone
    · next hp => rw [putPair, hp, if_neg Bool.false_ne_true, ih hnone]; rfl

/-- The pairs in which a value was put have the old parts, the key and the value. -/
theorem mem_putPair {key v : Nat} {p : Nat × Nat} (hp : p ∈ g.putPair pairs key v) :
    p ∈ pairs ∨ p = (key, v) ∨ ∃ old w, (old, w) ∈ pairs ∧ p = (old, v) := by
  induction pairs with
  | nil => exact .inr (.inl (List.mem_singleton.mp hp))
  | cons q pairs ih =>
    obtain ⟨old, w⟩ := q
    rw [putPair] at hp
    split at hp
    · rcases List.mem_cons.mp hp with rfl | hp
      · exact .inr (.inr ⟨old, w, List.mem_cons_self, rfl⟩)
      · exact .inl (List.mem_cons_of_mem _ hp)
    · rcases List.mem_cons.mp hp with rfl | hp
      · exact .inl List.mem_cons_self
      · rcases ih hp with hp | hp | ⟨old', w', hmem, hp⟩
        · exact .inl (List.mem_cons_of_mem _ hp)
        · exact .inr (.inl hp)
        · exact .inr (.inr ⟨old', w', List.mem_cons_of_mem _ hmem, hp⟩)

/-! ### Ways -/

variable {p q : List String}

theorem part?_cons (g : Graph) (n : Nat) (name : String) (p : List String) :
    g.part? n (name :: p) = (g.find? n (.str name)).bind fun k => g.part? k p := rfl

/-- The part that keys lead to. -/
def follow? (g : Graph) (n : Nat) : (path : List Scalar) → Option Nat
  | [] => some n
  | key :: rest => (g.find? n key).bind fun inner => g.follow? inner rest

theorem follow?_cons (g : Graph) (n : Nat) (key : Scalar) (path : List Scalar) :
    g.follow? n (key :: path) = (g.find? n key).bind fun k => g.follow? k path := rfl

/-- A place is where its names lead. -/
theorem part?_eq_follow? (g : Graph) (n : Nat) (p : List String) : g.part? n p = g.follow? n (p.map .str) := by
  induction p generalizing n with
  | nil => rfl
  | cons name p ih =>
    rw [List.map_cons, part?_cons, follow?_cons]
    exact congrArg (Option.bind _) (funext ih)

/-- A way over two stretches. -/
theorem part?_append (g : Graph) (n : Nat) (p q : List String) :
    g.part? n (p ++ q) = (g.part? n p).bind fun k => g.part? k q := by
  induction p generalizing n with
  | nil => rfl
  | cons name p ih =>
    rw [List.cons_append, part?_cons, part?_cons, Option.bind_assoc]
    exact congrArg (Option.bind _) (funext fun k => ih k)

/-- Only mappings have values under keys. -/
theorem exists_dict_of_find? (hk : g.find? n key = some k) : ∃ pairs, g.cell n = .dict pairs := by
  rw [find?_eq_under?, Graph.pairs] at hk
  split at hk
  · next pairs hc => exact ⟨pairs, hc⟩
  · cases hk

theorem find?_of_dict (hc : g.cell n = .dict pairs) (key : Scalar) : g.find? n key = g.under? pairs key := by
  rw [find?_eq_under?, Graph.pairs, hc]

theorem Closed.find?_lt (hg : g.Closed) (hk : g.find? n key = some k) : k < g.size := by
  obtain ⟨pairs, hc⟩ := exists_dict_of_find? hk
  rw [find?_of_dict hc] at hk
  obtain ⟨key, hmem, -⟩ := exists_of_under? hk
  exact (hg.of_pair hc _ hmem).2

theorem Closed.follow?_lt (hg : g.Closed) (hn : n < g.size) {path : List Scalar} (hk : g.follow? n path = some k) :
    k < g.size := by
  induction path generalizing n with
  | nil => exact Option.some.inj hk ▸ hn
  | cons key path ih =>
    obtain ⟨m, hm, hk⟩ := Option.bind_eq_some_iff.mp hk
    exact ih (hg.find?_lt hm) hk

theorem Closed.part?_lt (hg : g.Closed) (hn : n < g.size) (hk : g.part? n p = some k) : k < g.size :=
  hg.follow?_lt hn ((part?_eq_follow? g n p).symm.trans hk)

theorem Extends.find? (hx : h.Extends g) (hg : g.Closed) (hn : n < g.size) (key : Scalar) :
    h.find? n key = g.find? n key := by
  rw [find?_eq_under?, find?_eq_under?, Graph.pairs, Graph.pairs, hx.cell_eq n hn]
  split
  · next pairs hc => exact under?_congr (fun p hp => hx.scalarAt (hg.of_pair hc p hp).1) key
  · rfl

theorem Extends.follow? (hx : h.Extends g) (hg : g.Closed) (hn : n < g.size) (path : List Scalar) :
    h.follow? n path = g.follow? n path := by
  induction path generalizing n with
  | nil => rfl
  | cons key path ih =>
    rw [follow?_cons, follow?_cons, hx.find? hg hn]
    cases hk : g.find? n key with
    | none => rfl
    | some k => exact ih (hg.find?_lt hk)

theorem Extends.part? (hx : h.Extends g) (hg : g.Closed) (hn : n < g.size) (p : List String) :
    h.part? n p = g.part? n p := by
  rw [part?_eq_follow?, part?_eq_follow?, hx.follow? hg hn]

theorem find?_append_right (g h : Graph) (n : Nat) (key : Scalar) :
    (g.append h).find? (n + g.size) key = (h.find? n key).map (· + g.size) := by
  rw [find?_eq_under?, find?_eq_under?, Graph.pairs, Graph.pairs, cell_append]
  cases h.cell n with
  | dict pairs =>
    simp only [shiftCell, under?, List.find?_map, Option.map_map]
    congr 1
    refine congrFun (congrArg _ (funext fun p => ?_)) _
    simp
  | _ => rfl

theorem follow?_append_right (g h : Graph) (n : Nat) (path : List Scalar) :
    (g.append h).follow? (n + g.size) path = (h.follow? n path).map (· + g.size) := by
  induction path generalizing n with
  | nil => rfl
  | cons key path ih =>
    rw [follow?_cons, follow?_cons, find?_append_right]
    cases h.find? n key with
    | none => rfl
    | some k => exact ih k

theorem part?_append_right (g h : Graph) (n : Nat) (p : List String) :
    (g.append h).part? (n + g.size) p = (h.part? n p).map (· + g.size) := by
  rw [part?_eq_follow?, part?_eq_follow?, follow?_append_right]

/-! ### Leaves -/

/-- The value of a cell that has no parts but keys. -/
def leaf? (g : Graph) (n : Nat) : Option Value :=
  match g.cell n with
  | .scalar s => some (.scalar s)
  | .set items => some (.set (items.map g.scalarAt))
  | _ => none

/-- The leaf at a place. -/
def leafAt? (g : Graph) (n : Nat) (p : List String) : Option Value := (g.part? n p).bind g.leaf?

theorem Extends.leaf? (hx : h.Extends g) (hg : g.Closed) (hn : n < g.size) : h.leaf? n = g.leaf? n := by
  have hcell := hx.cell_eq n hn
  unfold Graph.leaf?
  rw [hcell]
  split
  · rfl
  · next items hc =>
    have hitems : ∀ k ∈ items, h.scalarAt k = g.scalarAt k := fun k hk =>
      hx.scalarAt (hg n k (by rw [hc]; exact hk))
    rw [List.map_congr_left hitems]
  · rfl

theorem Extends.leafAt? (hx : h.Extends g) (hg : g.Closed) (hn : n < g.size) (p : List String) :
    h.leafAt? n p = g.leafAt? n p := by
  rw [Graph.leafAt?, Graph.leafAt?, hx.part? hg hn]
  cases hk : g.part? n p with
  | none => rfl
  | some k => exact hx.leaf? hg (hg.part?_lt hn hk)

theorem leafAt?_append_right (g h : Graph) (n : Nat) (p : List String) :
    (g.append h).leafAt? (n + g.size) p = h.leafAt? n p := by
  rw [leafAt?, leafAt?, part?_append_right]
  cases h.part? n p with
  | none => rfl
  | some k =>
    change (g.append h).leaf? (k + g.size) = h.leaf? k
    rw [leaf?, leaf?, cell_append]
    cases h.cell k with
    | set items => simp [shiftCell]
    | _ => rfl

/-- A leaf is what its cell opens to. -/
theorem opened_eq_of_leaf? {v : Value} (hv : g.leaf? n = some v) : g.opened n = v := by
  unfold leaf? at hv
  unfold opened
  split at hv
  · next s hc =>
    rw [hc]
    exact Option.some.inj hv
  · next items hc =>
    rw [hc]
    exact Option.some.inj hv
  · cases hv

end Stencil.Graph
