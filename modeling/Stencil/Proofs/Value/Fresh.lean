import Mathlib.Data.List.Nodup
import Stencil.Proofs.Value.Planted

/-! Values without knots in graphs. Each of their cells is a part of the value once, behind its own parts, and
the value is read back from its number. -/
namespace Stencil.Graph

/-- Whether a graph came from another one by new cells, of which each is a part of a later one, or else one of
the given ones, and that once. -/
structure Fresh (g g' : Graph) (new : List Cell) (tops : List Nat) : Prop where
  cells : g'.cells.toList = g.cells.toList ++ new
  perm : (tops ++ new.flatMap Cell.parts).Perm (List.range' g.size new.length)
  back : ∀ i c, new[i]? = some c → ∀ k ∈ c.parts, k < g.size + i

namespace Fresh

variable {g g₁ g₂ : Graph} {new new₁ : List Cell} {tops tops₁ : List Nat} {i j k : Nat}

theorem nil (g : Graph) : Fresh g g [] [] := ⟨(List.append_nil _).symm, .nil, nofun⟩

theorem size_eq (h : Fresh g g₁ new tops) : g₁.size = g.size + new.length := by
  have hlength := congrArg List.length h.cells
  simpa [size] using hlength

/-- New cells, and more behind them. -/
theorem append (h : Fresh g g₁ new tops) (h₁ : Fresh g₁ g₂ new₁ tops₁) :
    Fresh g g₂ (new ++ new₁) (tops ++ tops₁) where
  cells := by rw [h₁.cells, h.cells, List.append_assoc]
  perm := by
    have hrange : List.range' g.size (new ++ new₁).length =
        List.range' g.size new.length ++ List.range' g₁.size new₁.length := by
      rw [List.length_append, h.size_eq, ← List.range'_append_1]
    have hswap : (tops ++ tops₁ ++ (new ++ new₁).flatMap Cell.parts).Perm
        (tops ++ new.flatMap Cell.parts ++ (tops₁ ++ new₁.flatMap Cell.parts)) := by
      rw [List.flatMap_append, List.append_assoc, List.append_assoc]
      refine List.Perm.append_left tops ?_
      rw [← List.append_assoc, ← List.append_assoc]
      exact List.perm_append_comm.append_right _
    rw [hrange]
    exact hswap.trans (h.perm.append h₁.perm)
  back i c hc k hk := by
    rw [List.getElem?_append] at hc
    split at hc
    · exact h.back i c hc k hk
    · next hi =>
      have hlt := h₁.back _ c hc k hk
      rw [h.size_eq] at hlt
      omega

/-- A cell of all that was given. -/
theorem add {c : Cell} (h : Fresh g g₁ new c.parts) :
    Fresh g (g₁.add c).2 (new ++ [c]) [(g₁.add c).1] where
  cells := by
    change (g₁.cells.push c).toList = _
    rw [Array.toList_push, h.cells, List.append_assoc]
  perm := by
    rw [List.length_append, List.length_singleton, List.range'_1_concat, add_fst, h.size_eq,
      List.flatMap_append, List.flatMap_singleton]
    refine List.perm_append_comm.trans ?_
    exact (List.perm_append_comm.trans h.perm).append_right _
  back i d hd k hk := by
    rw [List.getElem?_append] at hd
    split at hd
    · exact h.back i d hd k hk
    · next hi =>
      have hmem := List.mem_singleton.mp (List.mem_of_getElem? hd)
      subst hmem
      have hk := h.perm.mem_iff.mp (List.mem_append_left _ hk)
      rw [List.mem_range'_1] at hk
      omega

theorem extends_ (h : Fresh g g₁ new tops) : g₁.Extends g where
  size_le := by rw [h.size_eq]; exact Nat.le_add_right _ _
  cell_eq n hn := by
    have hlt : n < g.cells.toList.length := hn
    rw [cell, cell, ← Array.getElem?_toList, ← Array.getElem?_toList, h.cells,
      List.getElem?_append_left hlt]

/-- The new cells have the numbers from the old size on. -/
theorem cell_eq (h : Fresh g g₁ new tops) (i : Nat) :
    g₁.cell (g.size + i) = new[i]?.getD (.scalar .null) := by
  rw [cell, ← Array.getElem?_toList, h.cells, List.getElem?_append_right (by simp [size])]
  simp [size]

/-- The parts of a new cell are new cells in front of it. -/
theorem mem_parts (h : Fresh g g₁ new tops) (hj : g.size ≤ j) (hk : k ∈ (g₁.cell j).parts) :
    g.size ≤ k ∧ k < j := by
  obtain ⟨i, rfl⟩ := Nat.exists_eq_add_of_le hj
  rw [h.cell_eq] at hk
  cases hc : new[i]? with
  | none =>
    rw [hc] at hk
    cases hk
  | some c =>
    rw [hc, Option.getD_some] at hk
    have hmem : k ∈ tops ++ new.flatMap Cell.parts :=
      List.mem_append_right _ (List.mem_flatMap.mpr ⟨c, List.mem_of_getElem? hc, hk⟩)
    exact ⟨(List.mem_range'_1.mp (h.perm.mem_iff.mp hmem)).1, h.back i c hc k hk⟩

theorem closed (h : Fresh g g₁ new tops) (hg : g.Closed) : g₁.Closed := by
  intro n k hk
  rcases Nat.lt_or_ge n g.size with hn | hn
  · rw [h.extends_.cell_eq n hn] at hk
    exact Nat.lt_of_lt_of_le (hg n k hk) h.extends_.size_le
  · rcases Nat.lt_or_ge n g₁.size with hn₁ | hn₁
    · exact Nat.lt_trans (h.mem_parts hn hk).2 hn₁
    · rw [cell_of_size_le hn₁] at hk
      cases hk

theorem nodup (h : Fresh g g₁ new tops) : (tops ++ new.flatMap Cell.parts).Nodup :=
  h.perm.nodup_iff.mpr List.nodup_range'

/-- Each new cell is given or a part of a new cell. -/
theorem mem_tops_or (h : Fresh g g₁ new tops) (hk : g.size ≤ k) (hlt : k < g₁.size) :
    k ∈ tops ∨ ∃ n, g.size ≤ n ∧ k ∈ (g₁.cell n).parts := by
  have hrange : k ∈ List.range' g.size new.length := by
    rw [List.mem_range'_1, ← h.size_eq]
    exact ⟨hk, hlt⟩
  rcases List.mem_append.mp (h.perm.mem_iff.mpr hrange) with hk | hk
  · exact .inl hk
  · obtain ⟨c, hc, hk⟩ := List.mem_flatMap.mp hk
    obtain ⟨i, hi⟩ := List.getElem?_of_mem hc
    exact .inr ⟨g.size + i, Nat.le_add_right _ _, by rw [h.cell_eq, hi]; exact hk⟩

/-- What is given is no part of a new cell. -/
theorem notMem_parts (h : Fresh g g₁ new tops) (hk : k ∈ tops) (hj : g.size ≤ j) :
    k ∉ (g₁.cell j).parts := by
  intro hmem
  obtain ⟨i, rfl⟩ := Nat.exists_eq_add_of_le hj
  rw [h.cell_eq] at hmem
  cases hc : new[i]? with
  | none =>
    rw [hc] at hmem
    cases hmem
  | some c =>
    rw [hc, Option.getD_some] at hmem
    exact (List.nodup_append.mp h.nodup).2.2 k hk k
      (List.mem_flatMap.mpr ⟨c, List.mem_of_getElem? hc, hmem⟩) rfl

/-- No cell is a part of two new cells. -/
theorem eq_of_mem_parts (h : Fresh g g₁ new tops) (hi : g.size ≤ i) (hj : g.size ≤ j)
    (hki : k ∈ (g₁.cell i).parts) (hkj : k ∈ (g₁.cell j).parts) : i = j := by
  have hpairwise := (List.nodup_flatMap.mp (List.nodup_append.mp h.nodup).2.1).2
  obtain ⟨i, rfl⟩ := Nat.exists_eq_add_of_le hi
  obtain ⟨j, rfl⟩ := Nat.exists_eq_add_of_le hj
  rw [h.cell_eq] at hki hkj
  have hget (i : Nat) (hk : k ∈ (new[i]?.getD (.scalar .null)).parts) :
      ∃ hi : i < new.length, k ∈ new[i].parts := by
    rcases Nat.lt_or_ge i new.length with hi | hi
    · rw [List.getElem?_eq_getElem hi] at hk
      exact ⟨hi, hk⟩
    · rw [List.getElem?_eq_none hi] at hk
      cases hk
  obtain ⟨hi, hki⟩ := hget i hki
  obtain ⟨hj, hkj⟩ := hget j hkj
  rcases Nat.lt_trichotomy i j with hij | rfl | hij
  · exact absurd hkj (List.pairwise_iff_getElem.mp hpairwise i j hi hj hij hki)
  · rfl
  · exact absurd hki (List.pairwise_iff_getElem.mp hpairwise j i hj hi hij hkj)

/-- No cell is twice a part of a new cell. -/
theorem nodup_parts (h : Fresh g g₁ new tops) (hj : g.size ≤ j) : (g₁.cell j).parts.Nodup := by
  obtain ⟨i, rfl⟩ := Nat.exists_eq_add_of_le hj
  rw [h.cell_eq]
  cases hc : new[i]? with
  | none => exact List.nodup_nil
  | some c =>
    exact (List.nodup_flatMap.mp (List.nodup_append.mp h.nodup).2.1).1 c (List.mem_of_getElem? hc)

end Fresh

/-! ### The cells of a value -/

theorem fresh_addScalars (g : Graph) (items : List Scalar) :
    ∃ new, Fresh g (g.addScalars items).2 new (g.addScalars items).1 := by
  induction items generalizing g with
  | nil => exact ⟨[], .nil g⟩
  | cons s items ih =>
    obtain ⟨new, hnew⟩ := ih (g.add (.scalar s)).2
    exact ⟨_, (Fresh.add (c := .scalar s) (.nil g)).append hnew⟩

mutual

/-- Putting a value without knots in makes cells for it. -/
theorem fresh_addValue (g : Graph) : (v : Value) → v.hasKnot = false →
    ∃ new, Fresh g (g.addValue v).2 new [(g.addValue v).1]
  | .scalar s, _ => ⟨_, by rw [addValue]; exact Fresh.add (c := .scalar s) (.nil g)⟩
  | .list items, h => by
    obtain ⟨new, hnew⟩ := fresh_addItems g items h
    rw [addValue_list]
    exact ⟨_, Fresh.add (c := .list _) hnew⟩
  | .tuple items, h => by
    obtain ⟨new, hnew⟩ := fresh_addItems g items h
    rw [addValue_tuple]
    exact ⟨_, Fresh.add (c := .tuple _) hnew⟩
  | .dict pairs, h => by
    obtain ⟨new, hnew⟩ := fresh_addPairs g pairs h
    rw [addValue_dict]
    exact ⟨_, Fresh.add (c := .dict _) hnew⟩
  | .set items, _ => by
    obtain ⟨new, hnew⟩ := fresh_addScalars g items
    rw [addValue_set]
    exact ⟨_, Fresh.add (c := .set _) hnew⟩
  | .knot _ _, h => by cases h

theorem fresh_addItems (g : Graph) : (items : List Value) → Value.hasKnotItems items = false →
    ∃ new, Fresh g (g.addItems items).2 new (g.addItems items).1
  | [], _ => ⟨[], .nil g⟩
  | v :: items, h => by
    obtain ⟨hv, hitems⟩ := Bool.or_eq_false_iff.mp h
    obtain ⟨new, hnew⟩ := fresh_addValue g v hv
    obtain ⟨new', hnew'⟩ := fresh_addItems (g.addValue v).2 items hitems
    rw [addItems_cons]
    exact ⟨_, hnew.append hnew'⟩

theorem fresh_addPairs (g : Graph) : (pairs : List (Scalar × Value)) → Value.hasKnotPairs pairs = false →
    ∃ new, Fresh g (g.addPairs pairs).2 new (Cell.dict (g.addPairs pairs).1).parts
  | [], _ => ⟨[], .nil g⟩
  | (key, v) :: pairs, h => by
    obtain ⟨hv, hpairs⟩ := Bool.or_eq_false_iff.mp h
    have hkey := Fresh.add (c := .scalar key) (.nil g)
    obtain ⟨new, hnew⟩ := fresh_addValue (g.add (.scalar key)).2 v hv
    obtain ⟨new', hnew'⟩ := fresh_addPairs (g.afterPair (key, v)) pairs hpairs
    rw [addPairs_cons]
    exact ⟨_, (hkey.append hnew).append hnew'⟩

end

/-! ### Reading back -/

/-- Whether two graphs have the same cells in a region that is closed under parts. -/
structure AgreeOn (region : Nat → Prop) (g h : Graph) : Prop where
  cell : ∀ n, region n → h.cell n = g.cell n
  part : ∀ n, region n → ∀ k ∈ (g.cell n).parts, region k

section

variable {region : Nat → Prop} {g h : Graph} {n : Nat} {v : Value}

theorem AgreeOn.scalarAt (ha : AgreeOn region g h) (hn : region n) : h.scalarAt n = g.scalarAt n := by
  rw [Graph.scalarAt, Graph.scalarAt, ha.cell n hn]

/-- A value depends on the cells of its parts only, and more fuel changes nothing. -/
theorem AgreeOn.tree? (ha : AgreeOn region g h) {fuel more : Nat} (hle : fuel ≤ more) (hn : region n)
    (hv : g.tree? fuel n = some v) : h.tree? more n = some v := by
  induction fuel generalizing more n v with
  | zero => cases hv
  | succ fuel ih =>
    obtain ⟨more, rfl⟩ := Nat.exists_eq_add_of_lt hle
    have hle : fuel ≤ fuel + more := Nat.le_add_right _ _
    have hpart := ha.part n hn
    have hvalues {items : List Nat} {vs : List Value} (hvs : items.mapM (g.tree? fuel) = some vs)
        (hitems : ∀ k ∈ items, region k) : items.mapM (h.tree? (fuel + more)) = some vs :=
      mapM_eq_some_of_imp (fun k hk _ => ih hle (hitems k hk)) hvs
    rw [Graph.tree?] at hv ⊢
    rw [ha.cell n hn]
    split at hv
    · exact hv
    · next items hc =>
      rw [hc] at hpart
      obtain ⟨vs, hvs, rfl⟩ := Option.map_eq_some_iff.mp hv
      rw [hvalues hvs hpart, Option.map_some]
    · next items hc =>
      rw [hc] at hpart
      obtain ⟨vs, hvs, rfl⟩ := Option.map_eq_some_iff.mp hv
      rw [hvalues hvs hpart, Option.map_some]
    · next pairs hc =>
      rw [hc] at hpart
      obtain ⟨m, hm, rfl⟩ := Option.map_eq_some_iff.mp hv
      rw [mapM_eq_some_of_imp (fun p hp q hq => ?_) hm, Option.map_some]
      obtain ⟨v, hv, rfl⟩ := Option.map_eq_some_iff.mp hq
      have hkey := hpart p.1 (List.mem_flatMap.mpr ⟨p, hp, by simp⟩)
      have hvalue := hpart p.2 (List.mem_flatMap.mpr ⟨p, hp, by simp⟩)
      rw [ih hle hvalue hv, Option.map_some, ha.scalarAt hkey]
    · next items hc =>
      rw [hc] at hpart
      have hkeys : items.map h.scalarAt = items.map g.scalarAt :=
        List.map_congr_left fun k hk => ha.scalarAt (hpart k hk)
      rw [← hv, hkeys]

/-- A value that has been read is what its number opens to. -/
theorem opened_of_tree? {fuel : Nat} (hle : fuel ≤ g.size + 1) (hv : g.tree? fuel n = some v) :
    g.opened n = v := by
  have hall : AgreeOn (fun _ => True) g g := ⟨fun _ _ => rfl, fun _ _ _ _ => trivial⟩
  cases fuel with
  | zero => cases hv
  | succ fuel =>
    have hvalue (k : Nat) (w : Value) (hw : g.tree? fuel k = some w) : g.value k = w := by
      rw [value, hall.tree? (Nat.le_of_succ_le hle) trivial hw, Option.getD_some]
    have hvalues {items : List Nat} {vs : List Value} (hvs : items.mapM (g.tree? fuel) = some vs) :
        items.map g.value = vs := by
      have hpure := mapM_eq_some_of_imp (e := fun k => pure (g.value k))
        (fun k _ w hw => congrArg some (hvalue k w hw)) hvs
      rw [List.mapM_pure] at hpure
      exact Option.some.inj hpure
    unfold opened
    rw [tree?] at hv
    split at hv
    · exact Option.some.inj hv
    · next items hc =>
      obtain ⟨vs, hvs, rfl⟩ := Option.map_eq_some_iff.mp hv
      exact congrArg Value.list (hvalues hvs)
    · next items hc =>
      obtain ⟨vs, hvs, rfl⟩ := Option.map_eq_some_iff.mp hv
      exact congrArg Value.tuple (hvalues hvs)
    · next pairs hc =>
      obtain ⟨m, hm, rfl⟩ := Option.map_eq_some_iff.mp hv
      have hpure := mapM_eq_some_of_imp (e := fun p => pure (g.scalarAt p.1, g.value p.2))
        (fun p _ q hq => by
          obtain ⟨w, hw, rfl⟩ := Option.map_eq_some_iff.mp hq
          rw [hvalue p.2 w hw]
          rfl) hm
      rw [List.mapM_pure] at hpure
      exact congrArg Value.dict (Option.some.inj hpure)
    · exact Option.some.inj hv

/-- New cells stay as they are behind more of them. -/
theorem Fresh.agreeOn {g₁ : Graph} {new : List Cell} {tops : List Nat} (hf : Fresh g g₁ new tops)
    (hx : h.Extends g₁) : AgreeOn (fun n => g.size ≤ n ∧ n < g₁.size) g₁ h where
  cell n hn := hx.cell_eq n hn.2
  part n hn k hk := by
    obtain ⟨hle, hlt⟩ := hf.mem_parts hn.1 hk
    exact ⟨hle, Nat.lt_trans hlt hn.2⟩

theorem Fresh.mem_tops {g₁ : Graph} {new : List Cell} {tops : List Nat} (hf : Fresh g g₁ new tops)
    {k : Nat} (hk : k ∈ tops) : g.size ≤ k ∧ k < g₁.size := by
  have hrange := hf.perm.mem_iff.mp (List.mem_append_left _ hk)
  rw [List.mem_range'_1, ← hf.size_eq] at hrange
  exact hrange

end

theorem Fresh.tree?_behind {g g₁ h : Graph} {new : List Cell} {tops : List Nat} (hf : Fresh g g₁ new tops)
    (hx : h.Extends g₁) {k fuel more : Nat} {v : Value} (hk : k ∈ tops) (hle : fuel ≤ more)
    (hv : g₁.tree? fuel k = some v) : h.tree? more k = some v :=
  (hf.agreeOn hx).tree? hle (hf.mem_tops hk) hv

mutual

/-- A value without knots is read back from its number. -/
theorem tree?_addValue (g : Graph) : (v : Value) → v.hasKnot = false →
    (g.addValue v).2.tree? ((g.addValue v).1 + 1) (g.addValue v).1 = some v
  | .scalar s, _ => by
    rw [addValue, tree?, cell_add_fst]
  | .list items, h => by
    obtain ⟨new, hnew⟩ := fresh_addItems g items h
    have hitems := mapM_eq_some_of_imp
      (fun k hk _ => hnew.tree?_behind (extends_add _ (.list (g.addItems items).1)) hk (Nat.le_refl _))
      (tree?_addItems g items h)
    rw [addValue_list, tree?, cell_add_fst]
    exact Option.map_eq_some_iff.mpr ⟨items, hitems, rfl⟩
  | .tuple items, h => by
    obtain ⟨new, hnew⟩ := fresh_addItems g items h
    have hitems := mapM_eq_some_of_imp
      (fun k hk _ => hnew.tree?_behind (extends_add _ (.tuple (g.addItems items).1)) hk (Nat.le_refl _))
      (tree?_addItems g items h)
    rw [addValue_tuple, tree?, cell_add_fst]
    exact Option.map_eq_some_iff.mpr ⟨items, hitems, rfl⟩
  | .dict pairs, h => by
    obtain ⟨new, hnew⟩ := fresh_addPairs g pairs h
    have hx := extends_add (g.addPairs pairs).2 (.dict (g.addPairs pairs).1)
    have hparts (p : Nat × Nat) (hp : p ∈ (g.addPairs pairs).1) :
        p.1 ∈ (Cell.dict (g.addPairs pairs).1).parts ∧ p.2 ∈ (Cell.dict (g.addPairs pairs).1).parts :=
      ⟨List.mem_flatMap.mpr ⟨p, hp, by simp⟩, List.mem_flatMap.mpr ⟨p, hp, by simp⟩⟩
    have hpairs := mapM_eq_some_of_imp (fun p hp q hq => by
      obtain ⟨hkey, hvalue⟩ := hparts p hp
      obtain ⟨w, hw, rfl⟩ := Option.map_eq_some_iff.mp hq
      rw [← hx.scalarAt (hnew.mem_tops hkey).2]
      exact Option.map_eq_some_iff.mpr ⟨w, hnew.tree?_behind hx hvalue (Nat.le_refl _) hw, rfl⟩)
      (tree?_addPairs g pairs h)
    rw [addValue_dict, tree?, cell_add_fst]
    exact Option.map_eq_some_iff.mpr ⟨pairs, hpairs, rfl⟩
  | .set items, _ => by
    obtain ⟨new, hnew⟩ := fresh_addScalars g items
    have hkeys := List.map_congr_left fun k hk =>
      (extends_add (g.addScalars items).2 (.set (g.addScalars items).1)).scalarAt (hnew.mem_tops hk).2
    rw [addValue_set, tree?, cell_add_fst]
    simp only [hkeys, (addScalars_spec g items).2]
  | .knot _ _, h => by cases h

theorem tree?_addItems (g : Graph) : (items : List Value) → Value.hasKnotItems items = false →
    (g.addItems items).1.mapM ((g.addItems items).2.tree? (g.addItems items).2.size) = some items
  | [], _ => rfl
  | v :: items, h => by
    obtain ⟨hv, hitems⟩ := Bool.or_eq_false_iff.mp h
    obtain ⟨new, hnew⟩ := fresh_addValue g v hv
    obtain ⟨new', hnew'⟩ := fresh_addItems (g.addValue v).2 items hitems
    have htop := (hnew.mem_tops List.mem_cons_self).2
    have hfirst := hnew.tree?_behind hnew'.extends_ List.mem_cons_self
      (Nat.le_trans htop hnew'.extends_.size_le) (tree?_addValue g v hv)
    rw [addItems_cons, List.mapM_cons]
    exact Option.bind_eq_some_iff.mpr ⟨v, hfirst,
      Option.bind_eq_some_iff.mpr ⟨items, tree?_addItems _ items hitems, rfl⟩⟩

theorem tree?_addPairs (g : Graph) : (pairs : List (Scalar × Value)) → Value.hasKnotPairs pairs = false →
    (g.addPairs pairs).1.mapM (fun p => ((g.addPairs pairs).2.tree? (g.addPairs pairs).2.size p.2).map
      fun v => ((g.addPairs pairs).2.scalarAt p.1, v)) = some pairs
  | [], _ => rfl
  | (key, v) :: pairs, h => by
    obtain ⟨hv, hpairs⟩ := Bool.or_eq_false_iff.mp h
    obtain ⟨new, hnew⟩ := fresh_addValue (g.add (.scalar key)).2 v hv
    obtain ⟨new', hnew'⟩ := fresh_addPairs (g.afterPair (key, v)) pairs hpairs
    have htop := (hnew.mem_tops List.mem_cons_self).2
    have hfirst := hnew.tree?_behind hnew'.extends_ List.mem_cons_self
      (Nat.le_trans htop hnew'.extends_.size_le) (tree?_addValue _ v hv)
    have hkey : ((g.afterPair (key, v)).addPairs pairs).2.scalarAt g.size = key := by
      rw [(hnew'.extends_.trans hnew.extends_).scalarAt (by rw [size_add]; exact Nat.lt_succ_self _),
        scalarAt_add]
    rw [addPairs_cons, List.mapM_cons]
    refine Option.bind_eq_some_iff.mpr ⟨(key, v), ?_,
      Option.bind_eq_some_iff.mpr ⟨pairs, tree?_addPairs _ pairs hpairs, rfl⟩⟩
    exact Option.map_eq_some_iff.mpr ⟨v, hfirst, by rw [hkey]⟩

end

end Stencil.Graph
