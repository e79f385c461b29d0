import Stencil.Proofs.Value.Fresh

/-! Values put at places of graphs. In one mapping one name leads to a new part, and all else that is there stays.
The new part stands in one place only, so that what is put at another place later changes it only on the way
through that place, or through a mapping that stood in several places before. -/
namespace Stencil.Graph

variable {g g₀ g₁ g' h : Graph} {n m k key : Nat} {pairs : List (Nat × Nat)} {name other : String}
  {p q : List String}

theorem mem_parts_of_find? (hk : g.find? n (.str name) = some k) : k ∈ (g.cell n).parts := by
  obtain ⟨pairs, hc⟩ := exists_dict_of_find? hk
  rw [find?_of_dict hc] at hk
  obtain ⟨key, hmem, -⟩ := exists_of_under? hk
  rw [hc]
  exact List.mem_flatMap.mpr ⟨_, hmem, by simp⟩

theorem lt_size_of_find? (hk : g.find? n (.str name) = some k) : n < g.size := by
  obtain ⟨pairs, hc⟩ := exists_dict_of_find? hk
  exact lt_size_of_dict hc

/-! ### Another part under a name -/

@[simp] theorem size_putInto (g : Graph) (n key k : Nat) : (g.putInto n key k).size = g.size := size_put ..

theorem cell_putInto_self (hc : g.cell n = .dict pairs) :
    (g.putInto n key k).cell n = .dict (g.putPair pairs key k) := by
  rw [putInto, cell_put_self (lt_size_of_dict hc), Graph.pairs, hc]

theorem cell_putInto_of_ne (hne : m ≠ n) : (g.putInto n key k).cell m = g.cell m := cell_put_of_ne hne

/-- A mapping stays a mapping, so that no scalar changes. -/
theorem scalarAt_putInto (hc : g.cell n = .dict pairs) (m : Nat) :
    (g.putInto n key k).scalarAt m = g.scalarAt m := by
  by_cases hne : m = n
  · subst hne
    rw [scalarAt, scalarAt, cell_putInto_self hc, hc]
  · rw [scalarAt, scalarAt, cell_putInto_of_ne hne]

/-- What is under the names of the mappings then. -/
theorem find?_putInto (hc : g.cell n = .dict pairs) (hkey : g.scalarAt key = .str name) (m : Nat)
    (other : String) : (g.putInto n key k).find? m (.str other) =
      if m = n ∧ other = name then some k else g.find? m (.str other) := by
  by_cases hne : m = n
  · subst hne
    rw [find?_of_dict (cell_putInto_self hc), find?_of_dict hc,
      under?_congr (g := g) fun _ _ => scalarAt_putInto hc _, under?_putPair g pairs key k rfl, hkey]
    simp [eq_comm]
  · rw [if_neg fun he => hne he.1, find?_eq_under?, find?_eq_under?, Graph.pairs, Graph.pairs,
      cell_putInto_of_ne hne]
    exact under?_congr (fun _ _ => scalarAt_putInto hc _) (.str other)

theorem mem_parts_putInto (hc : g.cell n = .dict pairs) {t : Nat}
    (ht : t ∈ ((g.putInto n key k).cell m).parts) :
    t ∈ (g.cell m).parts ∨ m = n ∧ (t = key ∨ t = k) := by
  by_cases hne : m = n
  · subst hne
    rw [cell_putInto_self hc] at ht
    rw [hc]
    obtain ⟨q, hq, ht⟩ := List.mem_flatMap.mp ht
    have hpair (q : Nat × Nat) (hq : q ∈ pairs) : q.1 ∈ (Cell.dict pairs).parts ∧ q.2 ∈ (Cell.dict pairs).parts :=
      ⟨List.mem_flatMap.mpr ⟨q, hq, by simp⟩, List.mem_flatMap.mpr ⟨q, hq, by simp⟩⟩
    have ht : t = q.1 ∨ t = q.2 := by simpa using ht
    rcases mem_putPair hq with hq | rfl | ⟨old, w, hmem, rfl⟩
    · exact .inl (ht.elim (fun h => h ▸ (hpair q hq).1) fun h => h ▸ (hpair q hq).2)
    · exact .inr ⟨rfl, ht⟩
    · exact ht.elim (fun h => .inl (h ▸ (hpair _ hmem).1)) fun h => .inr ⟨rfl, .inr h⟩
  · rw [cell_putInto_of_ne hne] at ht
    exact .inl ht

theorem Closed.putInto (hg : g.Closed) (hc : g.cell n = .dict pairs) (hkey : key < g.size)
    (hk : k < g.size) : (g.putInto n key k).Closed := by
  intro m t ht
  rw [size_putInto]
  rcases mem_parts_putInto hc ht with ht | ⟨-, rfl | rfl⟩
  · exact hg m t ht
  · exact hkey
  · exact hk

/-- Whether a name of a mapping leads to a part now, and all else that was there is as it was. -/
structure Relinked (g g' : Graph) (n : Nat) (name : String) (k : Nat) : Prop where
  size_le : g.size ≤ g'.size
  cell_eq : ∀ m < g.size, m ≠ n → g'.cell m = g.cell m
  scalarAt_eq : ∀ m < g.size, g'.scalarAt m = g.scalarAt m
  find?_eq : ∀ m < g.size, ∀ other, ¬ (m = n ∧ other = name) →
    g'.find? m (.str other) = g.find? m (.str other)
  find?_self : g'.find? n (.str name) = some k

theorem relinked_putInto (hg : g.Closed) (hx : g₁.Extends g) (hc : g.cell n = .dict pairs)
    (hkey : g₁.scalarAt key = .str name) (k : Nat) : Relinked g (g₁.putInto n key k) n name k := by
  have hc₁ : g₁.cell n = .dict pairs := (hx.cell_eq n (lt_size_of_dict hc)).trans hc
  refine ⟨?_, fun m hm hne => ?_, fun m hm => ?_, fun m hm other hne => ?_, ?_⟩
  · rw [size_putInto]
    exact hx.size_le
  · rw [cell_putInto_of_ne hne]
    exact hx.cell_eq m hm
  · rw [scalarAt_putInto hc₁]
    exact hx.scalarAt hm
  · rw [find?_putInto hc₁ hkey, if_neg hne]
    exact hx.find? hg hm (.str other)
  · rw [find?_putInto hc₁ hkey, if_pos ⟨rfl, rfl⟩]

/-- A way that does not take the name leads where it led. -/
theorem Relinked.part? {at_ : Nat} (hr : Relinked g g' at_ name k) (hg : g.Closed) (hn : n < g.size)
    (hfree : ∀ q, q ++ [name] <+: p → g.part? n q ≠ some at_) : g'.part? n p = g.part? n p := by
  induction p generalizing n with
  | nil => rfl
  | cons first p ih =>
    have hfirst : ¬ (n = at_ ∧ first = name) := by
      rintro ⟨rfl, rfl⟩
      exact hfree [] (List.cons_prefix_cons.mpr ⟨rfl, p.nil_prefix⟩) rfl
    rw [part?_cons, part?_cons, hr.find?_eq n hn first hfirst]
    cases hm : g.find? n (.str first) with
    | none => rfl
    | some m =>
      refine ih (hg.find?_lt hm) fun q hq hat => hfree (first :: q) ?_ ?_
      · exact List.cons_prefix_cons.mpr ⟨rfl, hq⟩
      · rw [part?_cons, hm]
        exact hat

/-! ### Putting a value at a place -/

/-- The graph with a part under a name of a mapping. -/
def link (g : Graph) (n : Nat) (name : String) (k : Nat) : Graph :=
  (g.add (.scalar (.str name))).2.putInto n g.size k

/-- The graph with an empty mapping under a name of a mapping. -/
def open_ (g : Graph) (n : Nat) (name : String) : Graph :=
  ((g.add (.scalar (.str name))).2.add (.dict [])).2.putInto n g.size (g.size + 1)

theorem setAt_singleton (g : Graph) (n : Nat) (name : String) (k : Nat) :
    g.setAt n [name] k = .ok (g.link n name k) := rfl

/-- On the way to a place there is a mapping under the first name, or one is made. -/
theorem setAt_cons {next : String} {rest : List String}
    (hset : g.setAt n (name :: next :: rest) k = .ok g') :
    (∃ inner pairs, g.find? n (.str name) = some inner ∧ g.cell inner = .dict pairs ∧
      g.setAt inner (next :: rest) k = .ok g') ∨
    (∀ inner pairs, g.find? n (.str name) = some inner → g.cell inner ≠ .dict pairs) ∧
      (g.open_ n name).setAt (g.size + 1) (next :: rest) k = .ok g' := by
  rw [setAt] at hset
  · split at hset
    · next pairs hinner =>
      cases hm : g.find? n (.str name) with
      | none =>
        rw [hm] at hinner
        cases hinner
      | some inner =>
        rw [hm] at hinner hset
        exact .inl ⟨inner, pairs, rfl, hinner, hset⟩
    · next hinner =>
      refine .inr ⟨fun inner pairs hm hc => ?_, ?_⟩
      · rw [hm, Option.map_some, Option.getD_some, hc] at hinner
        cases hinner
      · let made := (g.add (.scalar (.str name))).2.add (.dict [])
        have hmade : made.1 = g.size + 1 := size_add g _
        change (made.2.putInto n g.size made.1).setAt made.1 (next :: rest) k = .ok g' at hset
        rwa [hmade] at hset
    · cases hset
  · exact List.cons_ne_nil _ _

theorem extends_add_add (g : Graph) (name : String) :
    ((g.add (.scalar (.str name))).2.add (.dict [])).2.Extends g :=
  (extends_add _ _).trans (extends_add _ _)

theorem scalarAt_add_add (g : Graph) (name : String) :
    ((g.add (.scalar (.str name))).2.add (.dict [])).2.scalarAt g.size = .str name := by
  rw [(extends_add _ _).scalarAt (by simp), scalarAt_add]

theorem cell_add_add (g : Graph) (name : String) :
    ((g.add (.scalar (.str name))).2.add (.dict [])).2.cell (g.size + 1) = .dict [] := by
  have hcell := cell_add_fst (g.add (.scalar (.str name))).2 (.dict [])
  rwa [add_fst, size_add] at hcell

theorem relinked_link (hg : g.Closed) (hc : g.cell n = .dict pairs) (name : String) (k : Nat) :
    Relinked g (g.link n name k) n name k :=
  relinked_putInto hg (extends_add g _) hc (scalarAt_add g _) k

theorem relinked_open_ (hg : g.Closed) (hc : g.cell n = .dict pairs) (name : String) :
    Relinked g (g.open_ n name) n name (g.size + 1) :=
  relinked_putInto hg (extends_add_add g name) hc (scalarAt_add_add g name) _

theorem size_open_ (g : Graph) (n : Nat) (name : String) : (g.open_ n name).size = g.size + 2 := by
  simp [open_]

theorem cell_open_ (hc : g.cell n = .dict pairs) (name : String) :
    (g.open_ n name).cell (g.size + 1) = .dict [] := by
  have hne : g.size + 1 ≠ n := by
    have hlt := lt_size_of_dict hc
    omega
  rw [open_, cell_putInto_of_ne hne, cell_add_add]

theorem closed_open_ (hg : g.Closed) (hc : g.cell n = .dict pairs) (name : String) :
    (g.open_ n name).Closed := by
  have hclosed := (hg.add (c := .scalar (.str name)) nofun).add (c := .dict []) nofun
  refine hclosed.putInto ((extends_add_add g name).cell_eq n (lt_size_of_dict hc) |>.trans hc) ?_ ?_
  · rw [size_add, size_add]; omega
  · rw [size_add, size_add]; omega

/-- What is done to put a part at a place: the way there is taken as far as there are mappings, the next name of
the last one leads to something new, and the rest of the way leads from there to the part. -/
theorem setAt_relinks (hg : g.Closed) (hc : g.cell n = .dict pairs) (hk : k < g.size) (hp : p ≠ [])
    (hset : g.setAt n p k = .ok g') : ∃ front name behind at_ top, p = front ++ name :: behind ∧
      g.part? n front = some at_ ∧ (∃ pairs, g.cell at_ = .dict pairs) ∧ Relinked g g' at_ name top ∧
      g'.part? top behind = some k ∧ (behind ≠ [] →
        ∀ inner pairs, g.find? at_ (.str name) = some inner → g.cell inner ≠ .dict pairs) := by
  induction p generalizing g n pairs with
  | nil => exact absurd rfl hp
  | cons name rest ih =>
    cases rest with
    | nil =>
      rw [setAt_singleton] at hset
      cases hset
      exact ⟨[], name, [], n, k, rfl, rfl, ⟨pairs, hc⟩, relinked_link hg hc name k, rfl,
        fun hne => absurd rfl hne⟩
    | cons next rest =>
      rcases setAt_cons hset with ⟨inner, pairs', hinner, hc', hset⟩ | ⟨hnone, hset⟩
      · obtain ⟨front, last, behind, at_, top, hsplit, hfront, hdict, hr, htop, hnew⟩ :=
          ih hg hc' hk (List.cons_ne_nil _ _) hset
        refine ⟨name :: front, last, behind, at_, top, by rw [hsplit]; rfl, ?_, hdict, hr, htop, hnew⟩
        rw [part?_cons, hinner]
        exact hfront
      · have hopen := relinked_open_ hg hc name
        have hmade := cell_open_ hc name
        have hclosed := closed_open_ hg hc name
        have hk' : k < (g.open_ n name).size := Nat.lt_of_lt_of_le hk hopen.size_le
        obtain ⟨front, last, behind, at_, top, hsplit, hfront, -, hr, htop, -⟩ :=
          ih hclosed hmade hk' (List.cons_ne_nil _ _) hset
        -- the mapping that was made is empty, so the way goes no further
        have hfirst (other : String) : (g.open_ n name).find? (g.size + 1) (.str other) = none := by
          rw [find?_of_dict hmade]; rfl
        cases front with
        | cons first front =>
          rw [part?_cons, hfirst] at hfront
          cases hfront
        | nil =>
          cases hfront
          have hlt := lt_size_of_dict hc
          have hsize := size_open_ g n name
          refine ⟨[], name, next :: rest, n, g.size + 1, rfl, rfl, ⟨pairs, hc⟩, ?_, ?_, fun _ => hnone⟩
          · refine ⟨Nat.le_trans hopen.size_le hr.size_le, fun m hm hne => ?_, fun m hm => ?_,
              fun m hm other hne => ?_, ?_⟩
            · rw [hr.cell_eq m (by omega) (by omega), hopen.cell_eq m hm hne]
            · rw [hr.scalarAt_eq m (by omega), hopen.scalarAt_eq m hm]
            · rw [hr.find?_eq m (by omega) other (by omega), hopen.find?_eq m hm other hne]
            · rw [hr.find?_eq n (by omega) name (by omega), hopen.find?_self]
          · rw [hsplit, List.nil_append, part?_cons, hr.find?_self]
            exact htop

/-! ### What is new -/

/-- Whether a part stands nowhere. -/
def IsOrphan (g : Graph) (k : Nat) : Prop := ∀ n, k ∉ (g.cell n).parts

/-- Whether a graph came from another one in such a way that what leads to an old cell led to it before, and each
new cell is the part of one cell, under one name. -/
structure Grafted (g₀ g : Graph) : Prop where
  closed : g.Closed
  size_le : g₀.size ≤ g.size
  old : ∀ n name k, g.find? n (.str name) = some k → k < g₀.size →
    n < g₀.size ∧ g₀.find? n (.str name) = some k
  once : ∀ k, g₀.size ≤ k → ∀ m n, k ∈ (g.cell m).parts → k ∈ (g.cell n).parts → m = n
  single : ∀ k, g₀.size ≤ k → ∀ n name other, g.find? n (.str name) = some k →
    g.find? n (.str other) = some k → name = other

theorem Grafted.refl (hg : g.Closed) : Grafted g g where
  closed := hg
  size_le := Nat.le_refl _
  old _ _ _ hk _ := ⟨lt_size_of_find? hk, hk⟩
  once k hk m _ hm _ := absurd (hg m k hm) (Nat.not_lt.mpr hk)
  single _ hk _ _ _ hn _ := absurd (hg.find?_lt hn) (Nat.not_lt.mpr hk)

/-- Different pairs have different values where no part stands twice. -/
theorem key_eq_of_nodup {a b : Nat} (h : (Cell.dict pairs).parts.Nodup) (ha : (a, k) ∈ pairs)
    (hb : (b, k) ∈ pairs) : a = b := by
  induction pairs with
  | nil => cases ha
  | cons q pairs ih =>
    have hparts : (Cell.dict (q :: pairs)).parts = [q.1, q.2] ++ (Cell.dict pairs).parts := rfl
    rw [hparts, List.nodup_append] at h
    have hlater (c : Nat) (hc : (c, k) ∈ pairs) : k ≠ q.2 := fun he =>
      h.2.2 q.2 (by simp) k (List.mem_flatMap.mpr ⟨_, hc, by simp⟩) he.symm
    rcases List.mem_cons.mp ha with rfl | ha'
    · rcases List.mem_cons.mp hb with hb | hb'
      · exact (congrArg Prod.fst hb).symm
      · exact absurd rfl (hlater b hb')
    · rcases List.mem_cons.mp hb with rfl | hb'
      · exact absurd rfl (hlater a ha')
      · exact ih h.2.1 ha' hb'

theorem Fresh.name_eq {new : List Cell} {tops : List Nat} (hf : Fresh g g₁ new tops) (hn : g.size ≤ n)
    (hname : g₁.find? n (.str name) = some k) (hother : g₁.find? n (.str other) = some k) : name = other := by
  obtain ⟨pairs, hc⟩ := exists_dict_of_find? hname
  have hnodup := hf.nodup_parts hn
  rw [hc] at hnodup
  rw [find?_of_dict hc] at hname hother
  obtain ⟨a, ha, hkey⟩ := exists_of_under? hname
  obtain ⟨b, hb, hkey'⟩ := exists_of_under? hother
  rw [key_eq_of_nodup hnodup ha hb, hkey'] at hkey
  exact (Scalar.str.inj (Scalar.key_eq_str_iff.mp hkey)).symm

/-- New cells that are parts of each other only. -/
theorem Grafted.fresh {new : List Cell} {tops : List Nat} (hg : Grafted g₀ g) (hf : Fresh g g₁ new tops) :
    Grafted g₀ g₁ where
  closed := hf.closed hg.closed
  size_le := Nat.le_trans hg.size_le hf.extends_.size_le
  old n name k hk hlt := by
    rcases Nat.lt_or_ge n g.size with hn | hn
    · rw [hf.extends_.find? hg.closed hn] at hk
      exact hg.old n name k hk hlt
    · have hnew := (hf.mem_parts hn (mem_parts_of_find? hk)).1
      have hle := hg.size_le
      omega
  once k hk m n hm hn := by
    have hside (i : Nat) (hi : k ∈ (g₁.cell i).parts) :
        k < g.size ∧ k ∈ (g.cell i).parts ∨ g.size ≤ k ∧ g.size ≤ i := by
      rcases Nat.lt_or_ge i g.size with hlt | hge
      · rw [hf.extends_.cell_eq i hlt] at hi
        exact .inl ⟨hg.closed i k hi, hi⟩
      · exact .inr ⟨(hf.mem_parts hge hi).1, hge⟩
    rcases hside m hm with ⟨hlt, hm'⟩ | ⟨hge, hm'⟩
    · rcases hside n hn with ⟨-, hn'⟩ | ⟨hge, -⟩
      · exact hg.once k hk m n hm' hn'
      · omega
    · rcases hside n hn with ⟨hlt, -⟩ | ⟨-, hn'⟩
      · omega
      · exact hf.eq_of_mem_parts hm' hn' hm hn
  single k hk n name other hname hother := by
    rcases Nat.lt_or_ge n g.size with hn | hn
    · rw [hf.extends_.find? hg.closed hn] at hname hother
      exact hg.single k hk n name other hname hother
    · exact hf.name_eq hn hname hother

theorem Fresh.isOrphan {new : List Cell} {tops : List Nat} (hf : Fresh g g₁ new tops) (hg : g.Closed)
    (hk : k ∈ tops) : g₁.IsOrphan k := by
  intro n hn
  rcases Nat.lt_or_ge n g.size with hlt | hge
  · rw [hf.extends_.cell_eq n hlt] at hn
    exact absurd (hg n k hn) (Nat.not_lt.mpr (hf.mem_tops hk).1)
  · exact hf.notMem_parts hk hge hn

theorem IsOrphan.fresh {new : List Cell} {tops : List Nat} (hk : g.IsOrphan k) (hlt : k < g.size)
    (hf : Fresh g g₁ new tops) : g₁.IsOrphan k := by
  intro n hn
  rcases Nat.lt_or_ge n g.size with hn' | hn'
  · rw [hf.extends_.cell_eq n hn'] at hn
    exact hk n hn
  · exact absurd hlt (Nat.not_lt.mpr (hf.mem_parts hn' hn).1)

theorem IsOrphan.putInto {t : Nat} (ht : g.IsOrphan t) (hc : g.cell n = .dict pairs) (hkey : t ≠ key)
    (hk : t ≠ k) : (g.putInto n key k).IsOrphan t := by
  intro m hm
  rcases mem_parts_putInto hc hm with hm | ⟨-, he | he⟩
  · exact ht m hm
  · exact hkey he
  · exact hk he

/-- A new part that stands nowhere yet may be put under a name. -/
theorem Grafted.putInto (hg : Grafted g₀ g) (hc : g.cell n = .dict pairs) (hkey : g.scalarAt key = .str name)
    (hkeylt : key < g.size) (hklt : k < g.size) (hnew : g₀.size ≤ k) (hkey' : g.IsOrphan key)
    (hk' : g.IsOrphan k) : Grafted g₀ (g.putInto n key k) where
  closed := hg.closed.putInto hc hkeylt hklt
  size_le := by rw [size_putInto]; exact hg.size_le
  old m other t ht hlt := by
    rw [find?_putInto hc hkey] at ht
    split at ht
    · cases ht
      omega
    · exact hg.old m other t ht hlt
  once t ht i j hi hj := by
    rcases mem_parts_putInto hc hi with hi' | ⟨rfl, hnew'⟩
    · rcases mem_parts_putInto hc hj with hj' | ⟨-, rfl | rfl⟩
      · exact hg.once t ht i j hi' hj'
      · exact absurd hi' (hkey' i)
      · exact absurd hi' (hk' i)
    · rcases mem_parts_putInto hc hj with hj' | ⟨rfl, -⟩
      · rcases hnew' with rfl | rfl
        · exact absurd hj' (hkey' j)
        · exact absurd hj' (hk' j)
      · rfl
  single t ht m a b ha hb := by
    rw [find?_putInto hc hkey] at ha hb
    split at ha
    · next hm =>
      cases ha
      split at hb
      · next hm' => rw [hm.2, hm'.2]
      · exact absurd (mem_parts_of_find? hb) (hk' m)
    · split at hb
      · cases hb
        exact absurd (mem_parts_of_find? ha) (hk' m)
      · exact hg.single t ht m a b ha hb

theorem fresh_add_add (g : Graph) (name : String) : ∃ new,
    Fresh g ((g.add (.scalar (.str name))).2.add (.dict [])).2 new [g.size, g.size + 1] := by
  have hfirst := Fresh.add (c := .scalar (.str name)) (.nil g)
  have hsecond := Fresh.add (c := .dict []) (.nil (g.add (.scalar (.str name))).2)
  have hboth := hfirst.append hsecond
  rw [add_fst, add_fst, size_add] at hboth
  exact ⟨_, hboth⟩

theorem Grafted.open_ (hg : Grafted g₀ g) (hc : g.cell n = .dict pairs) (name : String) :
    Grafted g₀ (g.open_ n name) := by
  obtain ⟨new, hnew⟩ := fresh_add_add g name
  have hc' := (hnew.extends_.cell_eq n (lt_size_of_dict hc)).trans hc
  have hkey := hnew.mem_tops List.mem_cons_self
  have hmade := hnew.mem_tops (k := g.size + 1) (by simp)
  exact (hg.fresh hnew).putInto hc' (scalarAt_add_add g name) hkey.2 hmade.2
    (Nat.le_succ_of_le hg.size_le) (hnew.isOrphan hg.closed (by simp)) (hnew.isOrphan hg.closed (by simp))

theorem Grafted.link (hg : Grafted g₀ g) (hc : g.cell n = .dict pairs) (name : String)
    (hk : g.IsOrphan k) (hnew : g₀.size ≤ k) (hlt : k < g.size) : Grafted g₀ (g.link n name k) := by
  have hf := Fresh.add (c := .scalar (.str name)) (.nil g)
  have hc' := (hf.extends_.cell_eq n (lt_size_of_dict hc)).trans hc
  exact (hg.fresh hf).putInto hc' (scalarAt_add g _) (by rw [size_add]; omega) (by rw [size_add]; omega) hnew
    (hf.isOrphan hg.closed List.mem_cons_self) (hk.fresh hlt hf)

/-- What is put at a place stands in one place. -/
theorem Grafted.setAt (hg : Grafted g₀ g) (hc : g.cell n = .dict pairs) (hk : g.IsOrphan k)
    (hnew : g₀.size ≤ k) (hlt : k < g.size) (hset : g.setAt n p k = .ok g') : Grafted g₀ g' := by
  induction p generalizing g n pairs with
  | nil =>
    cases hset
    exact hg
  | cons name rest ih =>
    cases rest with
    | nil =>
      rw [setAt_singleton] at hset
      cases hset
      exact hg.link hc name hk hnew hlt
    | cons next rest =>
      rcases setAt_cons hset with ⟨inner, pairs', -, hc', hset⟩ | ⟨-, hset⟩
      · exact ih hg hc' hk hlt hset
      · obtain ⟨new, hfresh⟩ := fresh_add_add g name
        have hc' := (hfresh.extends_.cell_eq n (lt_size_of_dict hc)).trans hc
        have horphan : (g.open_ n name).IsOrphan k :=
          (hk.fresh hlt hfresh).putInto hc' (by omega) (by omega)
        refine ih (hg.open_ hc name) (cell_open_ hc name) horphan ?_ hset
        rw [size_open_]
        omega

end Stencil.Graph
