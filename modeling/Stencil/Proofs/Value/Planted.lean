import Stencil.Proofs.Value.Proper

/-! Values put into graphs. The cells of a value come behind the others, so nothing else changes, and what
stands at a place of the value stands at that place below its number. -/
namespace Stencil.Graph

variable {g : Graph} {v : Value} {items : List Value} {m : Mapping}

/-- Whether a graph came from another one by new cells, of which a given one is a cell. -/
structure Planted (g g' : Graph) (k : Nat) : Prop where
  extends_ : g'.Extends g
  closed : g'.Closed
  lt : k < g'.size

theorem Planted.add (c : Cell) (hg : g.Closed) (hc : ∀ k ∈ c.parts, k < g.size) :
    Planted g (g.add c).2 (g.add c).1 :=
  ⟨extends_add g c, hg.add hc, by simp⟩

theorem Planted.after {g₀ g' : Graph} {k : Nat} (h : Planted g g' k) (hx : g.Extends g₀) : Planted g₀ g' k :=
  ⟨h.extends_.trans hx, h.closed, h.lt⟩

/-- A value with new cells for it, whatever the graph. -/
def IsPlanted (v : Value) : Prop :=
  ∀ g : Graph, g.Closed → Planted g (g.addValue v).2 (g.addValue v).1

/-! ### Equations -/

theorem addValue_list (g : Graph) (items : List Value) :
    g.addValue (.list items) = (g.addItems items).2.add (.list (g.addItems items).1) := by
  rw [addValue]

theorem addValue_tuple (g : Graph) (items : List Value) :
    g.addValue (.tuple items) = (g.addItems items).2.add (.tuple (g.addItems items).1) := by
  rw [addValue]

theorem addValue_dict (g : Graph) (m : Mapping) :
    g.addValue (.dict m) = (g.addPairs m).2.add (.dict (g.addPairs m).1) := by
  rw [addValue]

theorem addValue_set (g : Graph) (items : List Scalar) :
    g.addValue (.set items) = (g.addScalars items).2.add (.set (g.addScalars items).1) := by
  rw [addValue]

theorem addItems_cons (g : Graph) (v : Value) (items : List Value) :
    g.addItems (v :: items) =
      ((g.addValue v).1 :: ((g.addValue v).2.addItems items).1, ((g.addValue v).2.addItems items).2) := by
  rw [addItems]

/-- The graph with a key and a value. -/
def afterPair (g : Graph) (p : Scalar × Value) : Graph := ((g.add (.scalar p.1)).2.addValue p.2).2

theorem addPairs_cons (g : Graph) (p : Scalar × Value) (m : Mapping) :
    g.addPairs (p :: m) =
      ((g.size, ((g.add (.scalar p.1)).2.addValue p.2).1) :: ((g.afterPair p).addPairs m).1,
        ((g.afterPair p).addPairs m).2) := by
  obtain ⟨k, v⟩ := p
  rw [addPairs]
  rfl

theorem addScalars_cons (g : Graph) (s : Scalar) (items : List Scalar) :
    g.addScalars (s :: items) =
      (g.size :: ((g.add (.scalar s)).2.addScalars items).1, ((g.add (.scalar s)).2.addScalars items).2) :=
  rfl

/-! ### New cells -/

theorem scalarAt_add (g : Graph) (s : Scalar) : (g.add (.scalar s)).2.scalarAt g.size = s := by
  have hcell : (g.add (.scalar s)).2.cell g.size = .scalar s := cell_add_fst g (.scalar s)
  rw [scalarAt, hcell]

/-- New cells for scalars hold these scalars. -/
theorem addScalars_spec (g : Graph) (items : List Scalar) :
    (g.addScalars items).2.Extends g ∧ (g.addScalars items).1.map (g.addScalars items).2.scalarAt = items := by
  induction items generalizing g with
  | nil => exact ⟨.refl g, rfl⟩
  | cons s items ih =>
    obtain ⟨hx, hitems⟩ := ih (g.add (.scalar s)).2
    have hscalar : ((g.add (.scalar s)).2.addScalars items).2.scalarAt g.size = s := by
      rw [hx.scalarAt (by rw [size_add]; exact Nat.lt_succ_self _), scalarAt_add]
    rw [addScalars_cons]
    refine ⟨hx.trans (extends_add g _), ?_⟩
    rw [List.map_cons, hscalar, hitems]

theorem closed_addScalars (hg : g.Closed) (items : List Scalar) :
    (g.addScalars items).2.Closed ∧ ∀ k ∈ (g.addScalars items).1, k < (g.addScalars items).2.size := by
  induction items generalizing g with
  | nil => exact ⟨hg, nofun⟩
  | cons s items ih =>
    have hfirst : Planted g (g.add (.scalar s)).2 g.size := .add _ hg nofun
    obtain ⟨hclosed, hlt⟩ := ih hfirst.closed
    have hx := (addScalars_spec (g.add (.scalar s)).2 items).1
    rw [addScalars_cons]
    refine ⟨hclosed, fun k hk => ?_⟩
    rcases List.mem_cons.mp hk with rfl | hk
    · exact Nat.lt_of_lt_of_le hfirst.lt hx.size_le
    · exact hlt k hk

theorem planted_addItems (h : ∀ v ∈ items, IsPlanted v) (hg : g.Closed) :
    (g.addItems items).2.Extends g ∧ (g.addItems items).2.Closed ∧
      ∀ k ∈ (g.addItems items).1, k < (g.addItems items).2.size := by
  induction items generalizing g with
  | nil => exact ⟨.refl g, hg, nofun⟩
  | cons v items ih =>
    have hv := h v List.mem_cons_self g hg
    obtain ⟨hx, hclosed, hlt⟩ := ih (fun w hw => h w (List.mem_cons_of_mem _ hw)) hv.closed
    rw [addItems_cons]
    refine ⟨hx.trans hv.extends_, hclosed, fun k hk => ?_⟩
    rcases List.mem_cons.mp hk with rfl | hk
    · exact Nat.lt_of_lt_of_le hv.lt hx.size_le
    · exact hlt k hk

/-- The pairs of a mapping with new cells for them. -/
structure PlantedPairs (g g' : Graph) (m : Mapping) (pairs : List (Nat × Nat)) : Prop where
  extends_ : g'.Extends g
  closed : g'.Closed
  holds : g'.Holds pairs
  scalars : (pairs.map fun p => g'.scalarAt p.1) = m.map Prod.fst
  none : ∀ key, Mapping.get? m key = none → g'.under? pairs key = none
  some : ∀ key v, Mapping.get? m key = some v → ∃ g₁ : Graph, g₁.Closed ∧
    g'.Extends (g₁.addValue v).2 ∧ g'.under? pairs key = some (g₁.addValue v).1

theorem planted_addPairs (h : ∀ p ∈ m, IsPlanted p.2) (hg : g.Closed) :
    PlantedPairs g (g.addPairs m).2 m (g.addPairs m).1 := by
  induction m generalizing g with
  | nil => exact ⟨.refl g, hg, nofun, rfl, fun _ _ => rfl, nofun⟩
  | cons p m ih =>
    obtain ⟨k, v⟩ := p
    have hk : Planted g (g.add (.scalar k)).2 g.size := .add _ hg nofun
    have hv : Planted _ (g.afterPair (k, v)) ((g.add (.scalar k)).2.addValue v).1 :=
      h (k, v) List.mem_cons_self _ hk.closed
    have hrest := ih (fun q hq => h q (List.mem_cons_of_mem _ hq)) hv.closed
    have hscalar : ((g.afterPair (k, v)).addPairs m).2.scalarAt g.size = k := by
      rw [(hrest.extends_.trans hv.extends_).scalarAt hk.lt, scalarAt_add]
    rw [addPairs_cons]
    refine ⟨(hrest.extends_.trans hv.extends_).trans hk.extends_, hrest.closed, ?_, ?_, ?_, ?_⟩
    · intro q hq
      rcases List.mem_cons.mp hq with rfl | hq
      · have hsize := hrest.extends_.size_le
        exact ⟨Nat.lt_of_lt_of_le (Nat.lt_of_lt_of_le hk.lt hv.extends_.size_le) hsize,
          Nat.lt_of_lt_of_le hv.lt hsize⟩
      · exact hrest.holds q hq
    · rw [List.map_cons, List.map_cons, hrest.scalars]
      exact congrArg (· :: _) hscalar
    · intro key hnone
      by_cases hsame : k.key = key.key
      · rw [← Mapping.get?_congr hsame, Mapping.get?_cons_self] at hnone
        cases hnone
      · rw [Mapping.get?_cons_of_ne hsame] at hnone
        rw [under?_cons_of_ne (by rwa [hscalar])]
        exact hrest.none key hnone
    · intro key w hw
      by_cases hsame : k.key = key.key
      · rw [← Mapping.get?_congr hsame, Mapping.get?_cons_self] at hw
        cases hw
        exact ⟨_, hk.closed, hrest.extends_, under?_cons_self (by rwa [hscalar]) _⟩
      · rw [Mapping.get?_cons_of_ne hsame] at hw
        obtain ⟨g₁, hg₁, hx, hunder⟩ := hrest.some key w hw
        exact ⟨g₁, hg₁, hx, by rw [under?_cons_of_ne (by rwa [hscalar])]; exact hunder⟩

theorem Holds.of_dict {pairs : List (Nat × Nat)} (h : g.Holds pairs) :
    ∀ k ∈ (Cell.dict pairs).parts, k < g.size := by
  intro k hk
  obtain ⟨p, hp, hk⟩ := List.mem_flatMap.mp hk
  rcases List.mem_cons.mp hk with rfl | hk
  · exact (h p hp).1
  · exact List.mem_singleton.mp hk ▸ (h p hp).2

theorem isPlanted (hv : v.IsProper) : IsPlanted v := by
  induction hv with
  | scalar s => exact fun g hg => by rw [addValue]; exact .add _ hg nofun
  | set items =>
    intro g hg
    obtain ⟨hclosed, hlt⟩ := closed_addScalars hg items
    rw [addValue_set]
    exact (Planted.add (.set _) hclosed hlt).after (addScalars_spec g items).1
  | list _ ih =>
    intro g hg
    obtain ⟨hx, hclosed, hlt⟩ := planted_addItems ih hg
    rw [addValue_list]
    exact (Planted.add (.list _) hclosed hlt).after hx
  | tuple _ ih =>
    intro g hg
    obtain ⟨hx, hclosed, hlt⟩ := planted_addItems ih hg
    rw [addValue_tuple]
    exact (Planted.add (.tuple _) hclosed hlt).after hx
  | dict _ _ _ ih =>
    intro g hg
    have hpairs := planted_addPairs ih hg
    rw [addValue_dict]
    exact (Planted.add _ hpairs.closed hpairs.holds.of_dict).after hpairs.extends_
  | knot graph number =>
    intro g hg
    rw [addValue]
    exact ⟨extends_append g _, hg.append graph.closed, by rw [size_append]; exact Nat.add_lt_add_left number _⟩

/-! ### Places -/

section

variable {p : List String}

/-- What is under a key of a mapping with new cells for it. -/
def PlantedUnder (g : Graph) (k : Nat) (key : Scalar) : Option Value → Prop
  | none => g.find? k key = none
  | some v => ∃ g₁ : Graph, g₁.Closed ∧ g.Extends (g₁.addValue v).2 ∧ g.find? k key = some (g₁.addValue v).1

theorem plantedUnder_addValue (h : (Value.dict m).IsProper) (hg : g.Closed) (key : Scalar) :
    PlantedUnder (g.addValue (.dict m)).2 (g.addValue (.dict m)).1 key (Mapping.get? m key) := by
  have hpairs := planted_addPairs (fun p hp => isPlanted (h.part p hp)) hg
  have hx := extends_add (g.addPairs m).2 (.dict (g.addPairs m).1)
  have hfind : (g.addValue (.dict m)).2.find? (g.addValue (.dict m)).1 key =
      (g.addPairs m).2.under? (g.addPairs m).1 key := by
    rw [addValue_dict, find?_of_dict (cell_add_fst _ _), hpairs.holds.under?_extends hx]
  cases hget : Mapping.get? m key with
  | none => exact hfind.trans (hpairs.none key hget)
  | some v =>
    obtain ⟨g₁, hg₁, hlast, hunder⟩ := hpairs.some key v hget
    refine ⟨g₁, hg₁, ?_, hfind.trans hunder⟩
    rw [addValue_dict]
    exact hx.trans hlast

theorem cell_addValue_dict (g : Graph) (m : Mapping) :
    (g.addValue (.dict m)).2.cell (g.addValue (.dict m)).1 = .dict (g.addPairs m).1 := by
  rw [addValue_dict, cell_add_fst]

/-- The leaves of a value are leaves below its number. -/
theorem leafAt?_addValue {w : Value} (hv : v.IsProper) (hg : g.Closed) (hw : v.at? p = some w)
    (hleaf : w.isLeaf = true) (htuple : ∀ items, w ≠ .tuple items) :
    (g.addValue v).2.leafAt? (g.addValue v).1 p = some w := by
  induction p generalizing v g with
  | nil =>
    rw [Value.at?_nil, Option.some.injEq] at hw
    subst hw
    change (g.addValue v).2.leaf? (g.addValue v).1 = some v
    cases v with
    | scalar s => rw [addValue, leaf?, cell_add_fst]
    | set items =>
      obtain ⟨-, hlt⟩ := closed_addScalars hg items
      have hkeys : ∀ k ∈ (g.addScalars items).1,
          ((g.addScalars items).2.add (.set (g.addScalars items).1)).2.scalarAt k =
            (g.addScalars items).2.scalarAt k := fun k hk => (extends_add _ _).scalarAt (hlt k hk)
      rw [addValue_set, leaf?, cell_add_fst]
      simp only [List.map_congr_left hkeys, (addScalars_spec g items).2]
    | tuple items => exact absurd rfl (htuple items)
    | list | dict | knot => cases hleaf
  | cons name p ih =>
    obtain ⟨m, u, rfl, hu, hw⟩ := Value.at?_cons_eq_some hw
    have hfind := plantedUnder_addValue hv hg (.str name)
    rw [hu] at hfind
    obtain ⟨g₁, hg₁, hx, hfind⟩ := hfind
    have hplanted := isPlanted (hv.get? hu) g₁ hg₁
    rw [leafAt?, part?_cons, hfind]
    exact (hx.leafAt? hplanted.closed hplanted.lt p).trans (ih (hv.get? hu) hg₁ hw)

/-- A value that says nothing of a place says nothing of it below its number. -/
theorem spares_addValue (hv : v.IsProper) (hg : g.Closed) (hs : v.Spares p) :
    (g.addValue v).2.Spares (g.addValue v).1 p := by
  induction p generalizing v g with
  | nil => exact absurd hs (Value.not_spares_nil v)
  | cons name p ih =>
    obtain ⟨m, rfl⟩ := hs.exists_dict
    have hfind := plantedUnder_addValue hv hg (.str name)
    have hcell := cell_addValue_dict g m
    cases hget : Mapping.get? m (.str name) with
    | none =>
      rw [hget] at hfind
      refine ⟨by rw [part?_cons, hfind]; rfl, fun q k hq hk => ?_⟩
      cases q with
      | nil =>
        cases hk
        exact ⟨_, hcell⟩
      | cons other q =>
        obtain ⟨rfl, -⟩ := List.cons_prefix_cons.mp hq
        rw [part?_cons, hfind] at hk
        cases hk
    | some u =>
      rw [hget] at hfind
      obtain ⟨g₁, hg₁, hx, hfind⟩ := hfind
      have hplanted := isPlanted (hv.get? hget) g₁ hg₁
      have hdeep := (ih (hv.get? hget) hg₁ (hs.get? hget)).extends hx hplanted.closed hplanted.lt
      refine ⟨by rw [part?_cons, hfind]; exact hdeep.none, fun q k hq hk => ?_⟩
      cases q with
      | nil =>
        cases hk
        exact ⟨_, hcell⟩
      | cons other q =>
        obtain ⟨rfl, hdown⟩ := List.cons_prefix_cons.mp hq
        rw [part?_cons, hfind] at hk
        exact hdeep.mapping q k hdown hk

end

/-- Each mapping below a part lists each key once if the part itself does, and those below the parts under its
keys do. -/
theorem keysOnce_of_find? {n : Nat} (hself : ∀ pairs, g.cell n = .dict pairs → (g.keys pairs).Nodup)
    (hparts : ∀ key k, g.find? n key = some k → g.KeysOnce k) : g.KeysOnce n := by
  intro path k pairs hk hc
  cases path with
  | nil =>
    cases hk
    exact hself pairs hc
  | cons key path =>
    obtain ⟨m, hm, hk⟩ := Option.bind_eq_some_iff.mp hk
    exact hparts key m hm path k pairs hk hc

theorem keysOnce_of_not_dict {n : Nat} (h : ∀ pairs, g.cell n ≠ .dict pairs) : g.KeysOnce n :=
  keysOnce_of_find? (fun pairs hc => absurd hc (h pairs)) fun key k hk => by
    obtain ⟨pairs, hc⟩ := exists_dict_of_find? hk
    exact absurd hc (h pairs)

/-- The mappings of a proper value list each key once below its number, too. -/
theorem keysOnce_addValue (hv : v.IsProper) (hg : g.Closed) : (g.addValue v).2.KeysOnce (g.addValue v).1 := by
  induction hv generalizing g with
  | scalar s => exact keysOnce_of_not_dict (by rw [addValue, cell_add_fst]; nofun)
  | set items => exact keysOnce_of_not_dict (by rw [addValue_set, cell_add_fst]; nofun)
  | list => exact keysOnce_of_not_dict (by rw [addValue_list, cell_add_fst]; nofun)
  | tuple => exact keysOnce_of_not_dict (by rw [addValue_tuple, cell_add_fst]; nofun)
  | knot graph number =>
    rw [addValue, Nat.add_comm]
    exact (graph.keysOnce _).append g
  | @dict m keys parts noTuple ih =>
    have hproper : (Value.dict m).IsProper := .dict keys parts noTuple
    refine keysOnce_of_find? (fun pairs hc => ?_) fun key k hk => ?_
    · have hpairs := planted_addPairs (fun p hp => isPlanted (parts p hp)) hg
      rw [cell_addValue_dict] at hc
      cases hc
      have hsame : (g.addPairs m).2.keys (g.addPairs m).1 = Mapping.keys m :=
        Scalar.keysOf_eq_of_map_eq hpairs.scalars
      rw [addValue_dict, keys_congr fun p hp => (extends_add _ _).scalarAt (hpairs.holds p hp).1]
      rwa [hsame]
    · have hunder := plantedUnder_addValue hproper hg key
      cases hget : Mapping.get? m key with
      | none =>
        rw [hget] at hunder
        rw [show Graph.find? _ _ _ = none from hunder] at hk
        cases hk
      | some v =>
        rw [hget] at hunder
        obtain ⟨g₁, hg₁, hx, hfind⟩ := hunder
        rw [hfind] at hk
        cases hk
        obtain ⟨key, hmem⟩ := Value.IsProper.mem_of_get? hget
        have hplanted := isPlanted (parts _ hmem) g₁ hg₁
        exact (ih _ hmem hg₁).extends hx hplanted.closed hplanted.lt

end Stencil.Graph
