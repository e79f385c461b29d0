import Mathlib.Algebra.BigOperators.Group.Finset.Basic
import Mathlib.Algebra.Order.Ring.Nat
import Stencil.Proofs.Value.Proper

/-! Knots. A value is given as a knot only where it is a part of itself, which no scalar is: the search for the
parts of a cell finds all of them, and a way down that never meets a knot comes to an end before the fuel does. -/
namespace Stencil

namespace Value

/-- The parts of a value, near and far, with the value itself. -/
inductive Part (v : Value) : Value → Prop
  | self : Part v v
  | item {w x : Value} {items : List Value} (hw : Part v w) (hopened : w.opened = .list items) (hx : x ∈ items) :
    Part v x
  | member {w x : Value} {key : Scalar} {pairs : Mapping} (hw : Part v w) (hopened : w.opened = .dict pairs)
    (hx : (key, x) ∈ pairs) : Part v x

theorem Part.trans {v w x : Value} (hw : v.Part w) (hx : w.Part x) : v.Part x := by
  induction hx with
  | self => exact hw
  | item _ hopened hx ih => exact .item ih hopened hx
  | member _ hopened hx ih => exact .member ih hopened hx

/-- Whether no part that is a scalar is given as a knot. A scalar has no parts, and so it is none of its own. -/
def ScalarsBare (v : Value) : Prop := ∀ w c, v.Part w → w.opened = .scalar c → w = .scalar c

theorem ScalarsBare.part {v w : Value} (h : v.ScalarsBare) (hw : v.Part w) : w.ScalarsBare :=
  fun x c hx => h x c (hw.trans hx)

theorem hasKnotItems_eq_false_iff {items : List Value} :
    hasKnotItems items = false ↔ ∀ v ∈ items, v.hasKnot = false := by
  induction items with
  | nil => exact iff_of_true rfl nofun
  | cons v items ih => rw [hasKnotItems, Bool.or_eq_false_iff, ih, List.forall_mem_cons]

theorem hasKnotPairs_eq_false_iff {pairs : Mapping} :
    hasKnotPairs pairs = false ↔ ∀ p ∈ pairs, p.2.hasKnot = false := by
  induction pairs with
  | nil => exact iff_of_true rfl nofun
  | cons p pairs ih =>
    obtain ⟨k, v⟩ := p
    rw [hasKnotPairs, Bool.or_eq_false_iff, ih, List.forall_mem_cons]

theorem opened_of_hasKnot {v : Value} (h : v.hasKnot = false) : v.opened = v := by
  cases v with
  | knot g n => cases h
  | _ => rfl

end Value

/-! ### Looking for the parts of a cell -/

namespace Graph

variable {g : Graph} {n k : Nat} {seen todo trail : List Nat} {fuel : Nat}

/-- The number of parts of the cells that were not seen. -/
def unseenParts (g : Graph) (seen : List Nat) : Nat :=
  ∑ i ∈ (Finset.range g.size).filter (· ∉ seen), (g.cell i).parts.length

theorem parts_of_size_le (hn : g.size ≤ n) : (g.cell n).parts = [] := by
  rw [cell_of_size_le hn]
  rfl

theorem lt_size_of_mem_parts (hk : k ∈ (g.cell n).parts) : n < g.size := by
  by_contra hn
  rw [parts_of_size_le (not_lt.mp hn)] at hk
  cases hk

theorem unseenParts_cons (hn : n ∉ seen) :
    g.unseenParts (n :: seen) + (g.cell n).parts.length = g.unseenParts seen := by
  have herase : (Finset.range g.size).filter (· ∉ n :: seen) =
      ((Finset.range g.size).filter (· ∉ seen)).erase n := by
    ext i
    simp only [Finset.mem_filter, Finset.mem_erase, List.mem_cons, not_or]
    tauto
  unfold unseenParts
  rw [herase]
  by_cases hlt : n < g.size
  · exact Finset.sum_erase_add _ _ (by simp [hlt, hn])
  · rw [Finset.erase_eq_of_notMem (by simp [hlt]), parts_of_size_le (not_lt.mp hlt)]
    rfl

theorem partCount_eq (g : Graph) : g.partCount = g.unseenParts [] := by
  have hlist (cells : List Cell) (n : Nat) : cells.foldl (fun n c => n + c.parts.length) n =
      n + ∑ i ∈ Finset.range cells.length, (cells[i]?.getD (.scalar .null)).parts.length := by
    induction cells generalizing n with
    | nil => simp
    | cons c cells ih =>
      rw [List.foldl_cons, ih, List.length_cons, Finset.sum_range_succ']
      simp only [List.getElem?_cons_succ, List.getElem?_cons_zero, Option.getD_some]
      omega
  have hall : (Finset.range g.size).filter (· ∉ ([] : List Nat)) = Finset.range g.size := by simp
  unfold partCount unseenParts
  rw [hall, ← Array.foldl_toList, hlist, Nat.zero_add]
  simp [cell, size]

/-- What is found holds all that was to be looked at, and with each cell its parts. -/
theorem reach_closed (hfuel : todo.length + g.unseenParts seen < fuel)
    (hseen : ∀ i ∈ seen, ∀ k ∈ (g.cell i).parts, k ∈ seen ∨ k ∈ todo) :
    (∀ k, k ∈ seen ∨ k ∈ todo → k ∈ g.reach fuel seen todo) ∧
      ∀ i ∈ g.reach fuel seen todo, ∀ k ∈ (g.cell i).parts, k ∈ g.reach fuel seen todo := by
  induction fuel generalizing seen todo with
  | zero => omega
  | succ fuel ih =>
    cases todo with
    | nil =>
      simp only [reach, List.not_mem_nil, or_false] at hseen ⊢
      exact ⟨fun _ hk => hk, hseen⟩
    | cons n todo =>
      rw [List.length_cons] at hfuel
      rw [reach]
      split
      · next hn =>
        have hn : n ∈ seen := List.contains_iff_mem.mp hn
        have hfuel : todo.length + g.unseenParts seen < fuel := by omega
        obtain ⟨hall, hclosed⟩ := ih hfuel fun i hi k hk => by
          rcases hseen i hi k hk with hk | hk
          · exact .inl hk
          · rcases List.mem_cons.mp hk with rfl | hk
            · exact .inl hn
            · exact .inr hk
        refine ⟨fun k hk => ?_, hclosed⟩
        rcases hk with hk | hk
        · exact hall k (.inl hk)
        · rcases List.mem_cons.mp hk with rfl | hk
          · exact hall _ (.inl hn)
          · exact hall k (.inr hk)
      · next hn =>
        have hn : n ∉ seen := fun hmem => hn (List.contains_iff_mem.mpr hmem)
        have hcons := unseenParts_cons (g := g) hn
        have hfuel : ((g.cell n).parts ++ todo).length + g.unseenParts (n :: seen) < fuel := by
          rw [List.length_append]
          omega
        obtain ⟨hall, hclosed⟩ := ih hfuel fun i hi k hk => by
          rcases List.mem_cons.mp hi with rfl | hi
          · exact .inr (List.mem_append_left _ hk)
          · rcases hseen i hi k hk with hk | hk
            · exact .inl (List.mem_cons_of_mem _ hk)
            · rcases List.mem_cons.mp hk with rfl | hk
              · exact .inl List.mem_cons_self
              · exact .inr (List.mem_append_right _ hk)
        refine ⟨fun k hk => ?_, hclosed⟩
        rcases hk with hk | hk
        · exact hall k (.inl (List.mem_cons_of_mem _ hk))
        · rcases List.mem_cons.mp hk with rfl | hk
          · exact hall _ (.inl List.mem_cons_self)
          · exact hall k (.inr (List.mem_append_right _ hk))

/-- Whether a cell is below another one, near or far. -/
def Below (g : Graph) : Nat → Nat → Prop := Relation.TransGen fun n k => k ∈ (g.cell n).parts

/-- All cells below a cell are found. -/
theorem mem_partsBelow (h : g.Below n k) : k ∈ g.partsBelow n := by
  have hfuel : (g.cell n).parts.length + g.unseenParts [] < g.partCount + (g.cell n).parts.length + 1 := by
    rw [partCount_eq]
    omega
  obtain ⟨hall, hclosed⟩ := reach_closed hfuel nofun
  induction h with
  | single hk => exact hall _ (.inr hk)
  | tail _ hk ih => exact hclosed _ ih _ hk

theorem isKnot_of_below (h : g.Below n n) : g.isKnot n = true := List.contains_iff_mem.mpr (mem_partsBelow h)

/-- A knot has parts. -/
theorem cell_ne_scalar_of_isKnot (h : g.isKnot n = true) (c : Scalar) : g.cell n ≠ .scalar c := by
  intro hc
  simp [isKnot, partsBelow, hc, Cell.parts, reach] at h

/-! ### The way down to a part -/

/-- Whether one comes to a cell over the cells of a trail, none of which is a knot. -/
structure IsTrail (g : Graph) (trail : List Nat) (n : Nat) : Prop where
  nodup : trail.Nodup
  below : ∀ i ∈ trail, g.Below i n
  loose : ∀ i ∈ trail, g.isKnot i = false
  lt_size : ∀ i ∈ trail, i < g.size

theorem isTrail_nil (g : Graph) (n : Nat) : g.IsTrail [] n := ⟨.nil, nofun, nofun, nofun⟩

/-- A trail goes on from a cell that is no knot to each of its parts. -/
theorem IsTrail.cons (h : g.IsTrail trail n) (hn : g.isKnot n = false) (hk : k ∈ (g.cell n).parts) :
    g.IsTrail (n :: trail) k where
  nodup := by
    refine List.nodup_cons.mpr ⟨fun hmem => ?_, h.nodup⟩
    rw [isKnot_of_below (h.below n hmem)] at hn
    cases hn
  below := by
    intro i hi
    rcases List.mem_cons.mp hi with rfl | hi
    · exact .single hk
    · exact (h.below i hi).tail hk
  loose := List.forall_mem_cons.mpr ⟨hn, h.loose⟩
  lt_size := List.forall_mem_cons.mpr ⟨lt_size_of_mem_parts hk, h.lt_size⟩

/-- A trail is no longer than there are cells. -/
theorem IsTrail.length_le (h : g.IsTrail trail n) : trail.length ≤ g.size := by
  have hsub : trail ⊆ List.range g.size := fun i hi => List.mem_range.mpr (h.lt_size i hi)
  simpa using (List.subperm_of_subset h.nodup hsub).length_le

/-! ### The values of a graph -/

theorem hasKnot_of_tree? {v : Value} (h : g.tree? fuel n = some v) : v.hasKnot = false := by
  induction fuel generalizing n v with
  | zero => cases h
  | succ fuel ih =>
    have hitems {numbers : List Nat} {items : List Value} (hm : numbers.mapM (g.tree? fuel) = some items) :
        Value.hasKnotItems items = false := by
      refine Value.hasKnotItems_eq_false_iff.mpr fun v hv => ?_
      obtain ⟨i, -, hi⟩ := exists_of_mem_mapM hm hv
      exact ih hi
    rw [Graph.tree?] at h
    split at h
    · cases h
      rfl
    · obtain ⟨items, hm, rfl⟩ := Option.map_eq_some_iff.mp h
      exact hitems hm
    · obtain ⟨items, hm, rfl⟩ := Option.map_eq_some_iff.mp h
      exact hitems hm
    · obtain ⟨pairs, hm, rfl⟩ := Option.map_eq_some_iff.mp h
      refine Value.hasKnotPairs_eq_false_iff.mpr fun p hp => ?_
      obtain ⟨i, -, hi⟩ := exists_of_mem_mapM hm hp
      obtain ⟨v, hv, rfl⟩ := Option.map_eq_some_iff.mp hi
      exact ih hv
    · cases h
      rfl

/-- Whether a value has no knots, or was made at the end of a trail with the fuel that was left. -/
def Made (v : Value) : Prop :=
  v.hasKnot = false ∨ ∃ g trail n fuel, IsTrail g trail n ∧ trail.length + fuel = g.size + 1 ∧ v = g.knotted fuel n

theorem made_value (g : Graph) (n : Nat) : Made (g.value n) := by
  unfold value
  cases h : g.tree? (g.size + 1) n with
  | some v => exact .inl (hasKnot_of_tree? h)
  | none => exact .inr ⟨g, [], n, g.size + 1, isTrail_nil g n, Nat.zero_add _, rfl⟩

theorem opened_of_isKnot (h : g.isKnot n = true) (fuel : Nat) : (g.knotted fuel n).opened = g.opened n := by
  cases fuel with
  | zero => rfl
  | succ fuel => rw [knotted, if_pos h, Value.opened]

/-- The cell that a made value opens to, and how its parts are made. -/
theorem exists_opened_knotted (h : g.IsTrail trail n) (hfuel : trail.length + fuel = g.size + 1) :
    ∃ f : Nat → Value, (∀ k ∈ (g.cell n).parts, Made (f k)) ∧
      match g.cell n with
      | .scalar c => g.knotted fuel n = .scalar c
      | .list items => (g.knotted fuel n).opened = .list (items.map f)
      | .tuple items => (g.knotted fuel n).opened = .tuple (items.map f)
      | .dict pairs => (g.knotted fuel n).opened = .dict (pairs.map fun p => (g.scalarAt p.1, f p.2))
      | .set items => (g.knotted fuel n).opened = .set (items.map g.scalarAt) := by
  by_cases hknot : g.isKnot n = true
  · refine ⟨g.value, fun k _ => made_value g k, ?_⟩
    rw [opened_of_isKnot hknot, opened]
    cases hc : g.cell n with
    | scalar c => exact absurd hc (cell_ne_scalar_of_isKnot hknot c)
    | _ => rfl
  · have hlength := h.length_le
    obtain ⟨fuel, rfl⟩ : ∃ k, fuel = k + 1 := ⟨fuel - 1, by omega⟩
    have hpart (k : Nat) (hk : k ∈ (g.cell n).parts) : Made (g.knotted fuel k) :=
      .inr ⟨g, n :: trail, k, fuel, h.cons (Bool.eq_false_iff.mpr hknot) hk,
        by rw [List.length_cons]; omega, rfl⟩
    refine ⟨g.knotted fuel, hpart, ?_⟩
    rw [knotted, if_neg hknot]
    cases g.cell n <;> rfl

theorem Made.bare {v : Value} (h : Made v) {c : Scalar} (hc : v.opened = .scalar c) : v = .scalar c := by
  rcases h with hnone | ⟨g, trail, n, fuel, htrail, hfuel, rfl⟩
  · rwa [Value.opened_of_hasKnot hnone] at hc
  · obtain ⟨f, -, hcell⟩ := exists_opened_knotted htrail hfuel
    split at hcell
    · rw [hcell] at hc ⊢
      exact hc
    all_goals
      rw [hc] at hcell
      cases hcell

theorem Made.item {v x : Value} {items : List Value} (h : Made v) (hv : v.opened = .list items) (hx : x ∈ items) :
    Made x := by
  rcases h with hnone | ⟨g, trail, n, fuel, htrail, hfuel, rfl⟩
  · rw [Value.opened_of_hasKnot hnone] at hv
    subst hv
    exact .inl (Value.hasKnotItems_eq_false_iff.mp hnone x hx)
  · obtain ⟨f, hparts, hcell⟩ := exists_opened_knotted htrail hfuel
    cases hc : g.cell n with
    | list numbers =>
      rw [hc] at hparts hcell
      cases hv.symm.trans hcell
      obtain ⟨k, hk, rfl⟩ := List.mem_map.mp hx
      exact hparts k hk
    | scalar c =>
      rw [hc] at hcell
      simp only [hcell, Value.opened, reduceCtorEq] at hv
    | _ =>
      rw [hc] at hcell
      cases hv.symm.trans hcell

theorem Made.member {v x : Value} {key : Scalar} {pairs : Mapping} (h : Made v) (hv : v.opened = .dict pairs)
    (hx : (key, x) ∈ pairs) : Made x := by
  rcases h with hnone | ⟨g, trail, n, fuel, htrail, hfuel, rfl⟩
  · rw [Value.opened_of_hasKnot hnone] at hv
    subst hv
    exact .inl (Value.hasKnotPairs_eq_false_iff.mp hnone _ hx)
  · obtain ⟨f, hparts, hcell⟩ := exists_opened_knotted htrail hfuel
    cases hc : g.cell n with
    | dict numbers =>
      rw [hc] at hparts hcell
      cases hv.symm.trans hcell
      obtain ⟨p, hp, heq⟩ := List.mem_map.mp hx
      cases heq
      exact hparts p.2 (List.mem_flatMap.mpr ⟨p, hp, by simp⟩)
    | scalar c =>
      rw [hc] at hcell
      simp only [hcell, Value.opened, reduceCtorEq] at hv
    | _ =>
      rw [hc] at hcell
      cases hv.symm.trans hcell

theorem Made.scalarsBare {v : Value} (h : Made v) : v.ScalarsBare := by
  have hpart {w : Value} (hw : v.Part w) : Made w := by
    induction hw with
    | self => exact h
    | item _ hopened hx ih => exact ih.item hopened hx
    | member _ hopened hx ih => exact ih.member hopened hx
  exact fun w c hw => (hpart hw).bare

/-- The values of a graph have all their scalars bare. -/
theorem scalarsBare_value (g : Graph) (n : Nat) : (g.value n).ScalarsBare := (made_value g n).scalarsBare

end Graph

/-! ### Merging -/

/-- Values without knots have all their scalars bare. -/
theorem Value.scalarsBare_of_hasKnot {v : Value} (h : v.hasKnot = false) : v.ScalarsBare :=
  Graph.Made.scalarsBare (.inl h)

namespace Value

variable {v w old : Value} {m base later : Mapping} {items : List Value} {key : Scalar}

/-- A part of a value is the value itself, or a part of an item or of a member. -/
theorem Part.first (h : v.Part w) : w = v ∨ (∃ items, v.opened = .list items ∧ ∃ x ∈ items, x.Part w) ∨
    ∃ pairs, v.opened = .dict pairs ∧ ∃ p ∈ pairs, p.2.Part w := by
  induction h with
  | self => exact .inl rfl
  | item _ hopened hx ih =>
    rcases ih with rfl | ⟨items, hv, y, hy, hpart⟩ | ⟨pairs, hv, p, hp, hpart⟩
    · exact .inr (.inl ⟨_, hopened, _, hx, .self⟩)
    · exact .inr (.inl ⟨items, hv, y, hy, hpart.item hopened hx⟩)
    · exact .inr (.inr ⟨pairs, hv, p, hp, hpart.item hopened hx⟩)
  | member _ hopened hx ih =>
    rcases ih with rfl | ⟨items, hv, y, hy, hpart⟩ | ⟨pairs, hv, p, hp, hpart⟩
    · exact .inr (.inr ⟨_, hopened, _, hx, .self⟩)
    · exact .inr (.inl ⟨items, hv, y, hy, hpart.member hopened hx⟩)
    · exact .inr (.inr ⟨pairs, hv, p, hp, hpart.member hopened hx⟩)

theorem scalarsBare_dict_iff : (dict m).ScalarsBare ↔ ∀ p ∈ m, p.2.ScalarsBare := by
  constructor
  · exact fun h p hp => h.part (.member .self rfl hp)
  · intro h w c hw hc
    rcases hw.first with rfl | ⟨_, hopened, -⟩ | ⟨_, hopened, p, hp, hpart⟩
    · cases hc
    · cases hopened
    · cases hopened
      exact h p hp w c hpart hc

theorem scalarsBare_list_iff : (list items).ScalarsBare ↔ ∀ x ∈ items, x.ScalarsBare := by
  constructor
  · exact fun h x hx => h.part (.item .self rfl hx)
  · intro h w c hw hc
    rcases hw.first with rfl | ⟨_, hopened, x, hx, hpart⟩ | ⟨_, hopened, -⟩
    · cases hc
    · cases hopened
      exact h x hx w c hpart hc
    · cases hopened

theorem ScalarsBare.get? (h : (dict m).ScalarsBare) (hv : Mapping.get? m key = some v) : v.ScalarsBare := by
  obtain ⟨p, hfind, rfl⟩ := Option.map_eq_some_iff.mp hv
  exact scalarsBare_dict_iff.mp h p (List.mem_of_find?_eq_some hfind)

theorem ScalarsBare.insert (h : (dict m).ScalarsBare) (hv : v.ScalarsBare) (key : Scalar) :
    (dict (Mapping.insert m key v)).ScalarsBare := by
  refine scalarsBare_dict_iff.mpr fun p hp => ?_
  rcases Mapping.mem_insert hp with hp | hp
  · exact scalarsBare_dict_iff.mp h p hp
  · exact hp ▸ hv

/-- Members that keep scalars bare, each merged over any such value, do so one after the other. -/
theorem ScalarsBare.mergeOver_of (hbase : (dict base).ScalarsBare) (parts : ∀ p ∈ later, p.2.ScalarsBare)
    (hmerge : ∀ p ∈ later, ∀ old : Value, old.ScalarsBare → (mergeValue old p.2).ScalarsBare) :
    (dict (mergeOver base later)).ScalarsBare := by
  induction later generalizing base with
  | nil => rwa [mergeOver_nil]
  | cons p later ih =>
    obtain ⟨k, v⟩ := p
    have hstep (w : Value) (hw : w.ScalarsBare) :
        (dict (mergeOver (Mapping.insert base k w) later)).ScalarsBare :=
      ih (hbase.insert hw k) (fun q hq => parts q (List.mem_cons_of_mem _ hq))
        fun q hq => hmerge q (List.mem_cons_of_mem _ hq)
    rw [mergeOver]
    split
    · next o ho => exact hstep _ (hmerge _ List.mem_cons_self o (hbase.get? ho))
    · exact hstep v (parts _ List.mem_cons_self)

/-- Values with all their scalars bare are merged into one. -/
theorem ScalarsBare.mergeValue (hproper : v.IsProper) (hold : old.ScalarsBare) (hv : v.ScalarsBare) :
    (Stencil.mergeValue old v).ScalarsBare := by
  induction hproper generalizing old with
  | scalar s => simpa [Stencil.mergeValue] using hv
  | set items => simpa [Stencil.mergeValue] using hv
  | tuple parts => simpa [Stencil.mergeValue] using hv
  | knot graph number => simpa [Stencil.mergeValue] using hv
  | list parts =>
    rw [Stencil.mergeValue]
    split
    · next base hbase =>
      have hitems (x : Value) (hx : x ∈ base) : x.ScalarsBare := hold.part (.item .self hbase hx)
      exact scalarsBare_list_iff.mpr fun x hx =>
        (mem_mergeLists hx).elim (hitems x) (scalarsBare_list_iff.mp hv x)
    · exact hv
  | dict names parts noTuple ih =>
    rw [Stencil.mergeValue]
    have hparts := scalarsBare_dict_iff.mp hv
    split
    · next base hbase =>
      have hbase : (Value.dict base).ScalarsBare :=
        scalarsBare_dict_iff.mpr fun p hp => hold.part (.member .self hbase hp)
      exact hbase.mergeOver_of hparts fun p hp _ hold => ih p hp hold (hparts p hp)
    · exact hv

end Value

/-- Configurations that are kept in graphs have all their scalars bare. -/
theorem Layer.scalarsBare_mapping (g : Graph) (n : Nat) :
    (Value.dict (Layer.shared g n).mapping).ScalarsBare := by
  refine Value.scalarsBare_dict_iff.mpr fun p hp => ?_
  simp only [Layer.mapping, Graph.opened] at hp
  cases hc : g.cell n with
  | dict pairs =>
    rw [hc] at hp
    obtain ⟨q, -, rfl⟩ := List.mem_map.mp hp
    exact Graph.scalarsBare_value g q.2
  | _ =>
    rw [hc] at hp
    cases hp

end Stencil
