import Stencil.Proofs.Value.Graph

/-! Merging in graphs. A merge only adds cells, and each key in the new mapping leads to the later part, to the
earlier one, or to the two merged. So leaves come through a merge as they do where values are merged. -/
namespace Stencil.Graph

variable {g g' h : Graph} {n k : Nat} {base later pairs : List (Nat × Nat)} {key : Scalar} {name : String}
  {p : List String}

/-- Whether each mapping that keys lead to lists each key once. -/
def KeysOnce (g : Graph) (n : Nat) : Prop :=
  ∀ path k pairs, g.follow? n path = some k → g.cell k = .dict pairs → (g.keys pairs).Nodup

/-- Whether a part says nothing of a place: the way to it leads through mappings, and ends where one of them
does not have the next name. -/
structure Spares (g : Graph) (n : Nat) (p : List String) : Prop where
  none : g.part? n p = none
  mapping : ∀ q k, q <+: p → g.part? n q = some k → ∃ pairs, g.cell k = .dict pairs

theorem KeysOnce.find? (hn : g.KeysOnce n) (hk : g.find? n key = some k) : g.KeysOnce k := by
  intro path m pairs hm hc
  refine hn (key :: path) m pairs ?_ hc
  rw [follow?_cons, hk]
  exact hm

theorem KeysOnce.extends (hn : g.KeysOnce n) (hx : h.Extends g) (hg : g.Closed) (hlt : n < g.size) :
    h.KeysOnce n := by
  intro path k pairs hk hc
  rw [hx.follow? hg hlt] at hk
  have hk' := hg.follow?_lt hlt hk
  rw [hx.cell_eq k hk'] at hc
  rw [keys_congr fun q hq => hx.scalarAt (hg.of_pair hc q hq).1]
  exact hn path k pairs hk hc

theorem keys_append (g h : Graph) (pairs : List (Nat × Nat)) :
    (g.append h).keys (pairs.map fun p => (p.1 + g.size, p.2 + g.size)) = h.keys pairs := by
  refine Scalar.keysOf_eq_of_map_eq ?_
  simp only [List.map_map, Function.comp_def, scalarAt_append]

/-- A graph that is put behind another one keeps its mappings. -/
theorem KeysOnce.append (hn : h.KeysOnce n) (g : Graph) : (g.append h).KeysOnce (n + g.size) := by
  intro path k pairs hk hc
  rw [follow?_append_right] at hk
  obtain ⟨m, hm, rfl⟩ := Option.map_eq_some_iff.mp hk
  rw [cell_append] at hc
  cases hcell : h.cell m with
  | dict inner =>
    rw [hcell] at hc
    cases hc
    rw [keys_append]
    exact hn path m inner hm hcell
  | _ => rw [hcell] at hc; cases hc

theorem Spares.append (hs : h.Spares n p) (g : Graph) : (g.append h).Spares (n + g.size) p where
  none := by rw [part?_append_right, hs.none]; rfl
  mapping q k hq hk := by
    rw [part?_append_right] at hk
    obtain ⟨m, hm, rfl⟩ := Option.map_eq_some_iff.mp hk
    obtain ⟨pairs, hc⟩ := hs.mapping q m hq hm
    exact ⟨_, by rw [cell_append, hc]; rfl⟩

theorem Spares.find? (hs : g.Spares n (name :: p)) (hk : g.find? n (.str name) = some k) : g.Spares k p where
  none := by
    have hnone := hs.none
    rwa [part?_cons, hk] at hnone
  mapping q m hq hm := by
    refine hs.mapping (name :: q) m (List.cons_prefix_cons.mpr ⟨rfl, hq⟩) ?_
    rw [part?_cons, hk]
    exact hm

theorem Spares.extends (hs : g.Spares n p) (hx : h.Extends g) (hg : g.Closed) (hlt : n < g.size) :
    h.Spares n p where
  none := (hx.part? hg hlt p).trans hs.none
  mapping q k hq hk := by
    rw [hx.part? hg hlt] at hk
    rw [hx.cell_eq k (hg.part?_lt hlt hk)]
    exact hs.mapping q k hq hk

/-! ### Pairs -/

/-- Whether merging two parts only adds cells. -/
structure Adds (merge : Graph → (old later : Nat) → Option (Nat × Graph)) : Prop where
  adds : ∀ {g g' : Graph} {old later k : Nat}, g.Closed → old < g.size → later < g.size →
    merge g old later = some (k, g') → g'.Extends g ∧ g'.Closed ∧ k < g'.size

/-- What a key leads to in mappings that were merged. -/
def MergedUnder (merge : Graph → (old later : Nat) → Option (Nat × Graph)) (g g' : Graph)
    (later old result : Option Nat) : Prop :=
  match later, old with
  | none, old => result = old
  | some v, none => result = some v
  | some v, some old => ∃ k g₁ g₂, g₁.Extends g ∧ g₁.Closed ∧ merge g₁ old v = some (k, g₂) ∧
      g'.Extends g₂ ∧ result = some k

theorem MergedUnder.extends {merge : Graph → (old later : Nat) → Option (Nat × Graph)} {g₀ : Graph}
    {later old result : Option Nat} (hm : MergedUnder merge g g' later old result) (hx : g.Extends g₀) :
    MergedUnder merge g₀ g' later old result := by
  cases later with
  | none => exact hm
  | some v =>
    cases old with
    | none => exact hm
    | some old =>
      obtain ⟨k, g₁, g₂, hg₁, hrest⟩ := hm
      exact ⟨k, g₁, g₂, hg₁.trans hx, hrest⟩

/-- Whether the keys and the values of pairs are cells of a graph. -/
def Holds (g : Graph) (pairs : List (Nat × Nat)) : Prop := ∀ p ∈ pairs, p.1 < g.size ∧ p.2 < g.size

theorem Holds.extends (hp : g.Holds pairs) (hx : h.Extends g) : h.Holds pairs := fun p hmem =>
  ⟨Nat.lt_of_lt_of_le (hp p hmem).1 hx.size_le, Nat.lt_of_lt_of_le (hp p hmem).2 hx.size_le⟩

theorem Holds.putPair {key v : Nat} (hp : g.Holds pairs) (hkey : key < g.size) (hv : v < g.size) :
    g.Holds (g.putPair pairs key v) := by
  intro q hq
  rcases mem_putPair hq with hq | rfl | ⟨old, w, hmem, rfl⟩
  · exact hp q hq
  · exact ⟨hkey, hv⟩
  · exact ⟨(hp _ hmem).1, hv⟩

theorem Holds.under?_extends (hp : g.Holds pairs) (hx : h.Extends g) (key : Scalar) :
    h.under? pairs key = g.under? pairs key :=
  under?_congr (fun p hmem => hx.scalarAt (hp p hmem).1) key

/-- The pair of a cell that counts as a key is what is under that key. -/
theorem under?_eq_of_key {k : Nat} (hself : key.key.equalsItself = true) (hk : (g.scalarAt k).key = key.key) :
    g.under? base key = (base.find? fun p => g.isSameKey p.1 k).map Prod.snd := by
  have hkeys : (fun p : Nat × Nat => (g.scalarAt p.1).sameKey key) = fun p => g.isSameKey p.1 k := by
    funext p
    rw [Bool.eq_iff_iff, Scalar.sameKey_iff, isSameKey_iff (hk ▸ hself), hk]
  rw [under?, hkeys]

/-- Merging pairs adds cells, and tells each key what the later mapping says of it over what the earlier one
said. -/
theorem mergePairs_spec {merge : Graph → (old later : Nat) → Option (Nat × Graph)} (hadds : Adds merge)
    (hg : g.Closed) (hbase : g.Holds base) (hlater : g.Holds later)
    (hmerge : mergePairs merge g base later = some (pairs, g')) :
    g'.Extends g ∧ g'.Closed ∧ g'.Holds pairs ∧ ((g.keys later).Nodup → ∀ key : Scalar,
      key.key.equalsItself = true →
        MergedUnder merge g g' (g.under? later key) (g.under? base key) (g'.under? pairs key)) := by
  induction later generalizing g base with
  | nil =>
    cases hmerge
    exact ⟨.refl _, hg, hbase, fun _ key _ => rfl⟩
  | cons q later ih =>
    obtain ⟨new, v⟩ := q
    obtain ⟨hnew, hv⟩ := hlater (new, v) List.mem_cons_self
    have hlater : g.Holds later := fun p hp => hlater p (List.mem_cons_of_mem _ hp)
    rw [mergePairs] at hmerge
    split at hmerge
    · next hfind =>
      rw [← putPair_of_none hfind] at hmerge
      obtain ⟨hx, hg', hpairs, hunder⟩ := ih hg (hbase.putPair hnew hv) hlater hmerge
      refine ⟨hx, hg', hpairs, fun hnodup key hself => ?_⟩
      obtain ⟨honce, htail⟩ := nodup_keys_cons_iff.mp hnodup
      have hkey := hunder htail key hself
      rw [under?_putPair g base new v hself] at hkey
      by_cases hk : (g.scalarAt new).key = key.key
      · rw [under?_eq_none_of_notMem hself (hk ▸ honce (hk ▸ hself)), if_pos hk] at hkey
        rw [under?_cons_self hk, under?_eq_of_key hself hk, hfind]
        exact hkey
      · rw [under?_cons_of_ne hk]
        rwa [if_neg hk] at hkey
    · next old hfind =>
      obtain ⟨⟨v', g₁⟩, hstep, hmerge⟩ := Option.bind_eq_some_iff.mp hmerge
      have hold := (hbase _ (List.mem_of_find?_eq_some hfind)).2
      obtain ⟨hx₁, hg₁, hv'⟩ := hadds.adds hg hold hv hstep
      have hput := (hbase.extends hx₁).putPair (Nat.lt_of_lt_of_le hnew hx₁.size_le) hv'
      obtain ⟨hx, hg', hpairs, hunder⟩ := ih hg₁ hput (hlater.extends hx₁) hmerge
      refine ⟨hx.trans hx₁, hg', hpairs, fun hnodup key hself => ?_⟩
      obtain ⟨honce, htail⟩ := nodup_keys_cons_iff.mp hnodup
      have hkeys : g₁.keys later = g.keys later := keys_congr fun p hp => hx₁.scalarAt (hlater p hp).1
      have hkey := hunder (hkeys ▸ htail) key hself
      rw [under?_putPair g₁ base new v' hself, hx₁.scalarAt hnew, hlater.under?_extends hx₁,
        hbase.under?_extends hx₁] at hkey
      by_cases hk : (g.scalarAt new).key = key.key
      · rw [under?_eq_none_of_notMem hself (hk ▸ honce (hk ▸ hself)), if_pos hk] at hkey
        rw [under?_cons_self hk, under?_eq_of_key hself hk, hfind]
        exact ⟨v', g, g₁, .refl g, hg, hstep, hx, hkey⟩
      · rw [under?_cons_of_ne hk]
        rw [if_neg hk] at hkey
        exact hkey.extends hx₁

/-! ### Parts -/

theorem adds_mergeLists (hg : g.Closed) {old : Nat} {items rest : List Nat} (hold : old < g.size)
    (hitems : ∀ i ∈ items, i < g.size) (hrest : ∀ i ∈ rest, i < g.size)
    (hmerge : g.mergeLists old items rest = (k, g')) : g'.Extends g ∧ g'.Closed ∧ k < g'.size := by
  have hadd (cells : List Nat) (hcells : ∀ i ∈ cells, i < g.size) (h : g.add (.list cells) = (k, g')) :
      g'.Extends g ∧ g'.Closed ∧ k < g'.size := by
    cases h
    exact ⟨extends_add g _, hg.add hcells, by simp [size]⟩
  unfold mergeLists at hmerge
  split at hmerge
  · cases hmerge
    exact ⟨.refl g, hg, hold⟩
  · next first rest =>
    have htail : ∀ i ∈ rest, i < g.size := fun i hi => hrest i (List.mem_cons_of_mem _ hi)
    split at hmerge
    · exact hadd _ (fun i hi => (List.mem_append.mp hi).elim (hitems i) (htail i)) hmerge
    · exact hadd _ htail hmerge
    · exact hadd _ hrest hmerge

theorem adds_mergeValue (fuel : Nat) : Adds (mergeValue fuel) := by
  induction fuel with
  | zero => exact ⟨fun _ _ _ h => by cases h⟩
  | succ fuel ih =>
    refine ⟨fun {g g' old new k} hg hold hnew hmerge => ?_⟩
    rw [mergeValue] at hmerge
    split at hmerge
    · next base later hbase hlater =>
      obtain ⟨⟨pairs, g₁⟩, hpairs, hadd⟩ := Option.bind_eq_some_iff.mp hmerge
      obtain ⟨hx, hg₁, hholds, -⟩ := mergePairs_spec ih hg (hg.of_pair hbase) (hg.of_pair hlater) hpairs
      cases hadd
      have hparts : ∀ i ∈ (Cell.dict pairs).parts, i < g₁.size := by
        intro i hi
        obtain ⟨p, hp, hi⟩ := List.mem_flatMap.mp hi
        rcases List.mem_cons.mp hi with rfl | hi
        · exact (hholds p hp).1
        · exact List.mem_singleton.mp hi ▸ (hholds p hp).2
      exact ⟨(extends_add g₁ _).trans hx, hg₁.add hparts, by simp [size]⟩
    · next base later hbase hlater =>
      exact adds_mergeLists hg hold (fun i hi => hg old i (by rw [hbase]; exact hi))
        (fun i hi => hg new i (by rw [hlater]; exact hi)) (Option.some.inj hmerge)
    · cases hmerge
      exact ⟨.refl g, hg, hnew⟩

/-- Two mappings are merged into a mapping. -/
theorem exists_dict_mergeValue {fuel old new : Nat} (hbase : g.cell old = .dict base)
    (hlater : g.cell new = .dict later) (hmerge : mergeValue fuel g old new = some (k, g')) :
    ∃ pairs, g'.cell k = .dict pairs := by
  cases fuel with
  | zero => cases hmerge
  | succ fuel =>
    rw [mergeValue, hbase, hlater] at hmerge
    obtain ⟨⟨pairs, g₁⟩, -, hadd⟩ := Option.bind_eq_some_iff.mp hmerge
    have hcell := cell_add_fst g₁ (.dict pairs)
    rw [Option.some.inj hadd] at hcell
    exact ⟨pairs, hcell⟩

/-- What two mappings merged into each other lead to. -/
theorem find?_mergeValue {fuel old new : Nat} (hg : g.Closed) (hkeys : g.KeysOnce new)
    (hbase : g.cell old = .dict base) (hlater : g.cell new = .dict later)
    (hmerge : mergeValue (fuel + 1) g old new = some (k, g')) (key : Scalar) (hself : key.key.equalsItself = true) :
    MergedUnder (mergeValue fuel) g g' (g.find? new key) (g.find? old key) (g'.find? k key) := by
  rw [mergeValue, hbase, hlater] at hmerge
  obtain ⟨⟨pairs, g₁⟩, hpairs, hadd⟩ := Option.bind_eq_some_iff.mp hmerge
  obtain ⟨-, hg₁, hholds, hunder⟩ :=
    mergePairs_spec (adds_mergeValue fuel) hg (hg.of_pair hbase) (hg.of_pair hlater) hpairs
  have hx := extends_add g₁ (.dict pairs)
  have hfound : (g₁.add (.dict pairs)).2.find? (g₁.add (.dict pairs)).1 key = g₁.under? pairs key := by
    rw [find?_of_dict (cell_add_fst g₁ _), hholds.under?_extends hx]
  have hkey := hunder (hkeys [] new later rfl hlater) key hself
  cases hadd
  rw [find?_of_dict hlater, find?_of_dict hbase]
  change MergedUnder _ g (g₁.add (.dict pairs)).2 _ _ ((g₁.add (.dict pairs)).2.find? (g₁.add (.dict pairs)).1 _)
  rw [hfound]
  -- the cell of the mapping itself comes last
  revert hkey
  cases g.under? later key with
  | none => exact id
  | some v =>
    cases g.under? base key with
    | none => exact id
    | some o =>
      rintro ⟨m, g₂, g₃, hg₂, hclosed, hstep, hlast, hresult⟩
      exact ⟨m, g₂, g₃, hg₂, hclosed, hstep, hx.trans hlast, hresult⟩

theorem leaf?_of_dict (hc : g.cell n = .dict pairs) : g.leaf? n = none := by
  rw [leaf?, hc]

/-- A leaf of the later part takes the place of what was there. -/
theorem leafAt?_mergeValue_of_leaf {fuel old new : Nat} {v : Value} (hg : g.Closed) (hold : old < g.size)
    (hnew : new < g.size) (hkeys : g.KeysOnce new) (hleaf : g.leafAt? new p = some v)
    (hmerge : mergeValue fuel g old new = some (k, g')) : g'.leafAt? k p = some v := by
  induction p generalizing fuel g g' old new k with
  | nil =>
    cases fuel with
    | zero => cases hmerge
    | succ fuel =>
      have hleaf : g.leaf? new = some v := hleaf
      rw [mergeValue] at hmerge
      split at hmerge
      · next hc => simp [leaf?, hc] at hleaf
      · next hc => simp [leaf?, hc] at hleaf
      · cases hmerge
        exact hleaf
  | cons name p ih =>
    cases fuel with
    | zero => cases hmerge
    | succ fuel =>
      obtain ⟨m, hm, hv⟩ := Option.bind_eq_some_iff.mp hleaf
      obtain ⟨u, hu, hm⟩ := Option.bind_eq_some_iff.mp hm
      have hul : g.leafAt? u p = some v := Option.bind_eq_some_iff.mpr ⟨m, hm, hv⟩
      obtain ⟨later, hlater⟩ := exists_dict_of_find? hu
      have hult := hg.find?_lt hu
      by_cases hdict : ∃ base, g.cell old = .dict base
      · obtain ⟨base, hbase⟩ := hdict
        have hname := find?_mergeValue hg hkeys hbase hlater hmerge (.str name) rfl
        obtain ⟨hx, hg', -⟩ := (adds_mergeValue _).adds hg hold hnew hmerge
        rw [hu] at hname
        rw [leafAt?, part?_cons]
        cases ho : g.find? old (.str name) with
        | none =>
          rw [ho] at hname
          rw [show g'.find? k (.str name) = some u from hname]
          exact (hx.leafAt? hg hult p).trans hul
        | some o =>
          rw [ho] at hname
          obtain ⟨m', g₁, g₂, hx₁, hg₁, hstep, hx₂, hresult⟩ := hname
          have holt := Nat.lt_of_lt_of_le (hg.find?_lt ho) hx₁.size_le
          have hult₁ := Nat.lt_of_lt_of_le hult hx₁.size_le
          obtain ⟨-, hg₂, hm'⟩ := (adds_mergeValue fuel).adds hg₁ holt hult₁ hstep
          have hdeep := ih hg₁ holt hult₁ ((hkeys.find? hu).extends hx₁ hg hult)
            ((hx₁.leafAt? hg hult p).trans hul) hstep
          rw [hresult]
          exact (hx₂.leafAt? hg₂ hm' p).trans hdeep
      · rw [mergeValue, hlater] at hmerge
        split at hmerge
        · next base later hbase _ => exact absurd ⟨base, hbase⟩ hdict
        · next hc => cases hc
        · cases hmerge
          exact hleaf

/-- A leaf of the earlier part stays where the later one says nothing of its place. -/
theorem leafAt?_mergeValue_of_spares {fuel old new : Nat} {v : Value} (hg : g.Closed) (hold : old < g.size)
    (hnew : new < g.size) (hkeys : g.KeysOnce new) (hleaf : g.leafAt? old p = some v)
    (hspares : g.Spares new p) (hmerge : mergeValue fuel g old new = some (k, g')) :
    g'.leafAt? k p = some v := by
  induction p generalizing fuel g g' old new k with
  | nil => cases hspares.none
  | cons name p ih =>
    cases fuel with
    | zero => cases hmerge
    | succ fuel =>
      obtain ⟨m, hm, hv⟩ := Option.bind_eq_some_iff.mp hleaf
      obtain ⟨o, ho, hm⟩ := Option.bind_eq_some_iff.mp hm
      have hol : g.leafAt? o p = some v := Option.bind_eq_some_iff.mpr ⟨m, hm, hv⟩
      have holt := hg.find?_lt ho
      obtain ⟨base, hbase⟩ := exists_dict_of_find? ho
      obtain ⟨later, hlater⟩ := hspares.mapping [] new List.nil_prefix rfl
      have hname := find?_mergeValue hg hkeys hbase hlater hmerge (.str name) rfl
      obtain ⟨hx, hg', -⟩ := (adds_mergeValue _).adds hg hold hnew hmerge
      rw [ho] at hname
      rw [leafAt?, part?_cons]
      cases hu : g.find? new (.str name) with
      | none =>
        rw [hu] at hname
        rw [show g'.find? k (.str name) = some o from hname]
        exact (hx.leafAt? hg holt p).trans hol
      | some u =>
        rw [hu] at hname
        obtain ⟨m', g₁, g₂, hx₁, hg₁, hstep, hx₂, hresult⟩ := hname
        have hult := hg.find?_lt hu
        have holt₁ := Nat.lt_of_lt_of_le holt hx₁.size_le
        have hult₁ := Nat.lt_of_lt_of_le hult hx₁.size_le
        obtain ⟨-, hg₂, hm'⟩ := (adds_mergeValue fuel).adds hg₁ holt₁ hult₁ hstep
        have hdeep := ih hg₁ holt₁ hult₁ ((hkeys.find? hu).extends hx₁ hg hult)
          ((hx₁.leafAt? hg holt p).trans hol) ((hspares.find? hu).extends hx₁ hg hult) hstep
        rw [hresult]
        exact (hx₂.leafAt? hg₂ hm' p).trans hdeep

end Stencil.Graph
