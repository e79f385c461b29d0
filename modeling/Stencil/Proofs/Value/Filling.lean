import Stencil.Proofs.Value.Proper

/-! Graphs that are built by adding cells and by filling collections that were made empty. A graph stays proper
as long as what is added or filled in fits: its parts are there, its names differ, and no tuple is among them. -/
namespace Stencil

/-! ### Filling cells -/

/-- Whether a cell is a collection that may be filled after it was made. -/
def Cell.isOpen : Cell → Bool
  | .list _ | .dict _ | .set _ => true
  | .scalar _ | .tuple _ => false

namespace Graph

variable {g h : Graph} {n k : Nat} {pairs : List (Nat × Nat)} {c : Cell}

/-- Whether a cell may stand under a name: it is there and is no tuple. -/
def MayStand (g : Graph) (n : Nat) : Prop := n < g.size ∧ ∀ items, g.cell n ≠ .tuple items

/-- Whether a graph comes from another one by new cells and by filling open ones. -/
structure Develops (h g : Graph) : Prop where
  size_le : g.size ≤ h.size
  isOpen : ∀ n < g.size, (g.cell n).isOpen = true → (h.cell n).isOpen = true
  cell_eq : ∀ n < g.size, (g.cell n).isOpen = false → h.cell n = g.cell n

namespace Develops

theorem refl (g : Graph) : g.Develops g := ⟨Nat.le_refl _, fun _ _ hn => hn, fun _ _ _ => rfl⟩

theorem trans {i : Graph} (hi : i.Develops h) (hh : h.Develops g) : i.Develops g where
  size_le := Nat.le_trans hh.size_le hi.size_le
  isOpen n hn hopen := hi.isOpen n (Nat.lt_of_lt_of_le hn hh.size_le) (hh.isOpen n hn hopen)
  cell_eq n hn hclosed := by
    have heq := hh.cell_eq n hn hclosed
    rw [hi.cell_eq n (Nat.lt_of_lt_of_le hn hh.size_le) (heq ▸ hclosed), heq]

theorem scalarAt_eq (hd : h.Develops g) (hn : n < g.size) : h.scalarAt n = g.scalarAt n := by
  cases hopen : (g.cell n).isOpen with
  | false => rw [scalarAt, scalarAt, hd.cell_eq n hn hopen]
  | true =>
    have hopen' := hd.isOpen n hn hopen
    have hnull {i : Graph} (hi : (i.cell n).isOpen = true) : i.scalarAt n = .null := by
      rw [scalarAt]
      cases hc : i.cell n with
      | scalar s => rw [hc] at hi; cases hi
      | _ => rfl
    rw [hnull hopen, hnull hopen']

theorem mayStand (hd : h.Develops g) (hn : g.MayStand n) : h.MayStand n := by
  refine ⟨Nat.lt_of_lt_of_le hn.1 hd.size_le, fun items htuple => ?_⟩
  cases hopen : (g.cell n).isOpen with
  | false => exact hn.2 items ((hd.cell_eq n hn.1 hopen).symm.trans htuple)
  | true =>
    have hopen' := hd.isOpen n hn.1 hopen
    rw [htuple] at hopen'
    cases hopen'

end Develops

theorem Extends.develops (hx : h.Extends g) : h.Develops g where
  size_le := hx.size_le
  isOpen n hn hopen := by rwa [hx.cell_eq n hn]
  cell_eq n hn _ := hx.cell_eq n hn

theorem cell_put (hn : n < g.size) (c : Cell) (k : Nat) :
    (g.put n c).cell k = if k = n then c else g.cell k := by
  split
  · next hk => rw [hk, cell_put_self hn]
  · next hk => exact cell_put_of_ne hk

theorem develops_put (hn : n < g.size) (hopen : (g.cell n).isOpen = true) (hc : c.isOpen = true) :
    (g.put n c).Develops g where
  size_le := by simp
  isOpen k _ hk := by
    rw [cell_put hn c k]
    split
    · exact hc
    · exact hk
  cell_eq k _ hk := by
    have hne : k ≠ n := fun heq => by
      rw [heq, hopen] at hk
      cases hk
    exact cell_put_of_ne hne

/-! ### Cells that fit -/

/-- Whether a cell may stand in a proper graph. -/
structure Fits (g : Graph) (c : Cell) : Prop where
  parts : ∀ k ∈ c.parts, k < g.size
  keys : ∀ pairs, c = .dict pairs → (g.keys pairs).Nodup
  noTuple : ∀ pairs, c = .dict pairs → ∀ p ∈ pairs, ∀ items, g.cell p.2 ≠ .tuple items

theorem isProper_of_fits (hg : ∀ n, g.Fits (g.cell n)) : g.IsProper where
  closed n := (hg n).parts
  keys n := (hg n).keys
  noTuple n := (hg n).noTuple

theorem IsProper.fits (hg : g.IsProper) (n : Nat) : g.Fits (g.cell n) := ⟨hg.closed n, hg.keys n, hg.noTuple n⟩

theorem fits_of_not_dict (hparts : ∀ k ∈ c.parts, k < g.size) (hc : ∀ pairs, c ≠ .dict pairs) : g.Fits c :=
  ⟨hparts, fun pairs h => absurd h (hc pairs), fun pairs h => absurd h (hc pairs)⟩

theorem fits_scalar (g : Graph) (s : Scalar) : g.Fits (.scalar s) := fits_of_not_dict nofun nofun

theorem fits_nil_dict (g : Graph) : g.Fits (.dict []) where
  parts := nofun
  keys pairs h := by cases h; exact List.nodup_nil
  noTuple pairs h p hp := by cases h; cases hp

theorem Fits.holds (hf : g.Fits (.dict pairs)) : g.Holds pairs := fun p hp =>
  ⟨hf.parts _ (List.mem_flatMap.mpr ⟨p, hp, by simp⟩), hf.parts _ (List.mem_flatMap.mpr ⟨p, hp, by simp⟩)⟩

/-- A cell that fits goes on fitting. -/
theorem Fits.develop (hf : g.Fits c) (hd : h.Develops g) : h.Fits c where
  parts k hk := Nat.lt_of_lt_of_le (hf.parts k hk) hd.size_le
  keys pairs hc := by
    subst hc
    rw [keys_congr fun p hp => hd.scalarAt_eq (hf.holds p hp).1]
    exact hf.keys pairs rfl
  noTuple pairs hc p hp := by
    subst hc
    exact (hd.mayStand ⟨(hf.holds p hp).2, hf.noTuple pairs rfl p hp⟩).2

theorem isProper_empty : IsProper {} :=
  isProper_of_fits fun n => by
    rw [cell_of_size_le (Nat.zero_le n)]
    exact fits_scalar _ _

theorem IsProper.add (hg : g.IsProper) (hc : g.Fits c) : (g.add c).2.IsProper := by
  have hd := (extends_add g c).develops
  refine isProper_of_fits fun n => ?_
  rcases Nat.lt_trichotomy n g.size with hn | rfl | hn
  · rw [(extends_add g c).cell_eq n hn]
    exact (hg.fits n).develop hd
  · have hcell : (g.add c).2.cell g.size = c := cell_add_fst g c
    rw [hcell]
    exact hc.develop hd
  · rw [cell_of_size_le (by rw [size_add]; exact hn)]
    exact fits_scalar _ _

/-- An open cell may be filled with what fits. -/
theorem IsProper.put (hg : g.IsProper) (hn : n < g.size) (hopen : (g.cell n).isOpen = true)
    (hcopen : c.isOpen = true) (hc : g.Fits c) : (g.put n c).IsProper := by
  have hd := develops_put hn hopen hcopen
  refine isProper_of_fits fun k => ?_
  rw [cell_put hn c k]
  split
  · exact hc.develop hd
  · exact (hg.fits k).develop hd

/-- Putting a value in adds a key at most where it is missing. -/
theorem nodup_keys_putPair (h : (g.keys pairs).Nodup) (key v : Nat) :
    (g.keys (g.putPair pairs key v)).Nodup := by
  induction pairs with
  | nil => exact nodup_keys_cons_iff.mpr ⟨fun _ => List.not_mem_nil, List.nodup_nil⟩
  | cons p pairs ih =>
    obtain ⟨old, w⟩ := p
    obtain ⟨honce, htail⟩ := nodup_keys_cons_iff.mp h
    rw [putPair]
    split
    · exact nodup_keys_cons_iff.mpr ⟨honce, htail⟩
    · next hdiffers =>
      refine nodup_keys_cons_iff.mpr ⟨fun hself hmem => ?_, ih htail⟩
      obtain ⟨⟨q, hq, hkey⟩, -⟩ := mem_keys_iff.mp hmem
      -- the key is that of an old pair, which has no other of it, or that of the new one, which differs
      rcases mem_putPair hq with hpair | rfl | ⟨k, w, hpair, rfl⟩
      · exact honce hself (mem_keys_iff.mpr ⟨⟨q, hpair, hkey⟩, hself⟩)
      · exact hdiffers ((isSameKey_iff (hkey ▸ hself)).mpr hkey.symm)
      · exact honce hself (mem_keys_iff.mpr ⟨⟨(k, w), hpair, hkey⟩, hself⟩)

theorem Fits.putPair (hf : g.Fits (.dict pairs)) {key v : Nat} (hkey : key < g.size) (hv : g.MayStand v) :
    g.Fits (.dict (g.putPair pairs key v)) where
  parts k hk := by
    obtain ⟨p, hp, hk⟩ := List.mem_flatMap.mp hk
    have hpair := (hf.holds.putPair hkey hv.1) p hp
    rcases List.mem_cons.mp hk with rfl | hk
    · exact hpair.1
    · exact List.mem_singleton.mp hk ▸ hpair.2
  keys pairs' hc := by
    cases hc
    exact nodup_keys_putPair (hf.keys pairs rfl) key v
  noTuple pairs' hc p hp := by
    cases hc
    rcases mem_putPair hp with hold | rfl | ⟨old, w, hold, rfl⟩
    · exact hf.noTuple pairs rfl p hold
    · exact hv.2
    · exact hv.2

end Graph

end Stencil
