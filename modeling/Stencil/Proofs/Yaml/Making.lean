import Stencil.Proofs.Value.Filling
import Stencil.Yaml.Node.Value

/-! The graphs that texts are read into are proper. The values of nodes are made in two turns, collections empty
first and filled later; what is carried from step to step is that the graph is proper at all times, that a node
keeps its value, and that the value of a node that waits is a collection still to be filled. -/
namespace Stencil.Yaml

open Stencil.Graph

variable {α β : Type} {m m' m₁ : Making} {n k : Nat}

/-! ### States -/

namespace Making

/-- The value of a node, if it was made. -/
def valueOf? (m : Making) (n : Nat) : Option Nat := m.made[n]?.join

/-- Whether the value of a node is a collection. -/
def IsOpen (m : Making) (n : Nat) : Prop := ∃ k, m.valueOf? n = some k ∧ (m.graph.cell k).isOpen = true

structure IsSound (m : Making) : Prop where
  graph : m.graph.IsProper
  size : m.made.size = m.nodes.size
  made : ∀ n k, m.valueOf? n = some k → m.graph.MayStand k
  waiting : ∀ n ∈ m.waiting, m.IsOpen n
  notNumber : ∀ k, m.notNumber = some k → m.graph.MayStand k

/-- Whether a sound state may follow another one. -/
structure GrowsTo (m m' : Making) : Prop where
  sound : m'.IsSound
  graph : m'.graph.Develops m.graph
  made : ∀ n k, m.valueOf? n = some k → m'.valueOf? n = some k

theorem IsSound.growsTo (hm : m.IsSound) : m.GrowsTo m := ⟨hm, .refl _, fun _ _ h => h⟩

theorem GrowsTo.trans (h : m.GrowsTo m₁) (h' : m₁.GrowsTo m') : m.GrowsTo m' where
  sound := h'.sound
  graph := h'.graph.trans h.graph
  made n k hk := h'.made n k (h.made n k hk)

theorem GrowsTo.isOpen (h : m.GrowsTo m') (hm : m.IsSound) (hn : m.IsOpen n) : m'.IsOpen n := by
  obtain ⟨k, hk, hopen⟩ := hn
  exact ⟨k, h.made n k hk, h.graph.isOpen k (hm.made n k hk).1 hopen⟩

/-- Another graph under the values. -/
theorem IsSound.withGraph {g : Graph} (hm : m.IsSound) (hg : g.IsProper) (hd : g.Develops m.graph) :
    m.GrowsTo { m with graph := g } where
  sound :=
    { graph := hg
      size := hm.size
      made := fun n k hk => hd.mayStand (hm.made n k hk)
      waiting := fun n hn => by
        obtain ⟨k, hk, hopen⟩ := hm.waiting n hn
        exact ⟨k, hk, hd.isOpen k (hm.made n k hk).1 hopen⟩
      notNumber := fun k hk => hd.mayStand (hm.notNumber k hk) }
  graph := hd
  made _ _ hk := hk

theorem IsSound.add {c : Cell} (hm : m.IsSound) (hc : m.graph.Fits c) :
    m.GrowsTo { m with graph := (m.graph.add c).2 } :=
  hm.withGraph (hm.graph.add hc) (extends_add m.graph c).develops

theorem IsSound.withNodes {nodes : Nodes} (hm : m.IsSound) (hsize : nodes.size = m.nodes.size) :
    m.GrowsTo { m with nodes } where
  sound := { hm with size := hm.size.trans hsize.symm }
  graph := .refl _
  made _ _ hk := hk

theorem IsSound.withNotNumber (hm : m.IsSound) (hk : m.graph.MayStand k) :
    m.GrowsTo { m with notNumber := some k } where
  sound := { hm with notNumber := fun _ hj => Option.some.inj hj ▸ hk }
  graph := .refl _
  made _ _ hj := hj

theorem IsSound.withoutWaiting (hm : m.IsSound) : m.GrowsTo { m with waiting := [] } where
  sound := { hm with waiting := nofun }
  graph := .refl _
  made _ _ hk := hk

theorem valueOf?_of_setIfInBounds {j k' : Nat}
    (h : valueOf? { m with made := m.made.setIfInBounds n (some k) } j = some k') :
    k' = k ∨ m.valueOf? j = some k' := by
  unfold valueOf? at h
  rw [Array.getElem?_setIfInBounds] at h
  split at h
  · split at h
    · exact .inl (Option.some.inj h).symm
    · cases h
  · exact .inr h

/-- A node has its value from then on. -/
theorem valueOf?_setIfInBounds_self (hn : n < m.made.size) :
    valueOf? { m with made := m.made.setIfInBounds n (some k) } n = some k := by
  simp [valueOf?, hn]

theorem valueOf?_setIfInBounds_of_none (hnone : m.valueOf? n = none) {j i : Nat} (hj : m.valueOf? j = some i) :
    valueOf? { m with made := m.made.setIfInBounds n (some k) } j = some i := by
  have hne : n ≠ j := fun heq => by
    rw [heq, hj] at hnone
    cases hnone
  unfold valueOf? at hj ⊢
  rwa [Array.getElem?_setIfInBounds_ne hne]

/-- The value of a node that had none. -/
theorem IsSound.withMade (hm : m.IsSound) (hnone : m.valueOf? n = none) (hk : m.graph.MayStand k) :
    m.GrowsTo { m with made := m.made.setIfInBounds n (some k) } where
  sound :=
    { graph := hm.graph
      size := (Array.size_setIfInBounds ..).trans hm.size
      made := fun j i hi => by
        rcases valueOf?_of_setIfInBounds hi with rfl | hi
        · exact hk
        · exact hm.made j i hi
      waiting := fun j hj => by
        obtain ⟨i, hi, hopen⟩ := hm.waiting j hj
        exact ⟨i, valueOf?_setIfInBounds_of_none hnone hi, hopen⟩
      notNumber := hm.notNumber }
  graph := .refl _
  made _ _ hj := valueOf?_setIfInBounds_of_none hnone hj

/-- A collection that waits from then on. -/
theorem IsSound.withWaiting (hm : m.IsSound) (hn : m.IsOpen n) :
    m.GrowsTo { m with waiting := n :: m.waiting } where
  sound := { hm with
    waiting := fun j hj => by
      rcases List.mem_cons.mp hj with rfl | hj
      · exact hn
      · exact hm.waiting j hj }
  graph := .refl _
  made _ _ hj := hj

end Making

namespace Maker

/-! ### Steps that make nothing -/

/-- A successful run of two steps in a row is a run of the first and then of the second. -/
theorem run_bind_eq_ok {x : Maker α} {f : α → Maker β} {b : β} (h : (x >>= f).run m = .ok (b, m')) :
    ∃ a m₁, x.run m = .ok (a, m₁) ∧ (f a).run m₁ = .ok (b, m') := by
  rw [StateT.run_bind] at h
  cases hx : x.run m with
  | error e => rw [hx] at h; cases h
  | ok p => rw [hx] at h; exact ⟨p.1, p.2, rfl, h⟩

/-- Whether a step changes nothing but what nodes say. -/
def Reads (x : Maker α) : Prop :=
  ∀ m a m', x.run m = .ok (a, m') → ∃ nodes : Nodes, nodes.size = m.nodes.size ∧ m' = { m with nodes }

theorem Reads.growsTo {x : Maker α} {a : α} (hx : x.Reads) (hm : m.IsSound) (h : x.run m = .ok (a, m')) :
    m.GrowsTo m' := by
  obtain ⟨nodes, hsize, rfl⟩ := hx m a m' h
  exact hm.withNodes hsize

theorem Reads.bind {x : Maker α} {f : α → Maker β} (hx : x.Reads) (hf : ∀ a, (f a).Reads) :
    (x >>= f).Reads := by
  intro m b m' h
  obtain ⟨a, m₁, ha, hb⟩ := run_bind_eq_ok h
  obtain ⟨nodes, hsize, rfl⟩ := hx m a m₁ ha
  obtain ⟨nodes', hsize', rfl⟩ := hf a _ b m' hb
  exact ⟨nodes', hsize'.trans hsize, rfl⟩

theorem reads_pure (a : α) : (pure a : Maker α).Reads := by
  intro m b m' h
  cases h
  exact ⟨m.nodes, rfl, rfl⟩

theorem reads_throw (e : Failure) : (throw e : Maker α).Reads := by
  intro m b m' h
  cases h

theorem reads_get : (get : Maker Making).Reads := by
  intro m b m' h
  cases h
  exact ⟨m.nodes, rfl, rfl⟩

theorem reads_modify {f : Nodes → Nodes} (hf : ∀ nodes, (f nodes).size = nodes.size) :
    (modify fun m => { m with nodes := f m.nodes } : Maker Unit).Reads := by
  intro m b m' h
  cases h
  exact ⟨f m.nodes, hf _, rfl⟩

theorem reads_node (n : Nat) : (node n).Reads := reads_get.bind fun _ => reads_pure _

theorem reads_pairs (n : Nat) : (pairs n).Reads := reads_get.bind fun _ => reads_pure _

theorem reads_fill (n : Nat) (pairs : List (Nat × Nat)) : (fill n pairs).Reads :=
  reads_modify (f := fun nodes => nodes.fill n (.mapping pairs)) fun _ => Nodes.size_fill ..

theorem reads_refuse (problem : String) (mark : Mark) : (refuse problem mark : Maker α).Reads := reads_throw _

theorem reads_refuseIn (what : String) (n : Nat) (problem : String) (mark : Mark) :
    (refuseIn what n problem mark : Maker α).Reads :=
  (reads_node n).bind fun _ => reads_throw _

theorem run_refuseIn_ne_ok {what : String} {problem : String} {mark : Mark} {p : α × Making} :
    (refuseIn what n problem mark).run m ≠ .ok p := by
  intro h
  obtain ⟨_, _, _, h⟩ := run_bind_eq_ok h
  cases h

theorem reads_ofExcept (outcome : Except Error α) : (ofExcept outcome).Reads := by
  intro m a m' h
  cases outcome with
  | error e => cases h
  | ok b =>
    cases h
    exact ⟨m.nodes, rfl, rfl⟩

theorem reads_text (fuel n : Nat) : (text fuel n).Reads := by
  induction fuel generalizing n with
  | zero => exact reads_throw _
  | succ fuel ih =>
    rw [text]
    refine (reads_node n).bind fun x => ?_
    split
    · exact reads_pure _
    · exact reads_refuse _ _
    · refine reads_get.bind fun m => ?_
      dsimp only
      split
      · exact ih _
      · exact reads_refuse _ _

theorem reads_bytesOf (s : List Char) (mark : Mark) : (bytesOf s mark).Reads := by
  unfold bytesOf
  split
  · exact reads_refuse _ _
  · split
    · exact reads_pure _
    · exact reads_refuse _ _

/-- Merging is done among the nodes. -/
theorem reads_merging (fuel : Nat) :
    (∀ n, (mergeInto fuel n).Reads) ∧ (∀ n place, (takeMerged fuel n place).Reads) ∧
      (∀ n value, (mergedPairs fuel n value).Reads) ∧ ∀ n items, (mergedItems fuel n items).Reads := by
  induction fuel with
  | zero =>
    refine ⟨fun n => ?_, fun n place => ?_, fun n value => ?_, fun n items => ?_⟩
    · rw [mergeInto]; exact reads_throw _
    · rw [takeMerged]; exact reads_throw _
    · rw [mergedPairs]; exact reads_throw _
    · rw [mergedItems]; exact reads_throw _
  | succ fuel ih =>
    obtain ⟨hinto, htake, hpairs, hitems⟩ := ih
    refine ⟨fun n => ?_, fun n place => ?_, fun n value => ?_, fun n items => ?_⟩
    · rw [mergeInto]
      refine (htake n 0).bind fun merged => ?_
      split
      · exact (reads_pairs n).bind fun own => reads_fill _ _
      · exact reads_pure _
    · rw [takeMerged]
      refine (reads_pairs n).bind fun own => ?_
      split
      · exact reads_pure _
      · next key value _ =>
        refine (reads_node key).bind fun x => ?_
        split
        · exact (reads_fill _ _).bind fun _ => (hpairs n value).bind fun merged =>
            (htake n place).bind fun rest => reads_pure _
        · refine (reads_modify (f := fun nodes => nodes.retag key .str) fun _ => ?_).bind fun _ => htake _ _
          exact Array.size_setIfInBounds ..
        · exact htake _ _
    · rw [mergedPairs]
      refine (reads_node value).bind fun x => ?_
      split
      · exact (hinto value).bind fun _ => reads_pairs value
      · exact hitems _ _
      · exact reads_refuseIn _ _ _ _
    · cases items with
      | nil => rw [mergedItems]; exact reads_pure _
      | cons item items =>
        rw [mergedItems]
        refine (reads_node item).bind fun x => ?_
        split
        · exact (hinto item).bind fun _ => (reads_pairs item).bind fun own =>
            (hitems n items).bind fun rest => reads_pure _
        · exact reads_refuseIn _ _ _ _

/-! ### Values -/

/-- Whether a sound state follows in which the same nodes have values, and a new value may stand anywhere. -/
def Brings (x : Maker Nat) : Prop :=
  ∀ m k m', m.IsSound → x.run m = .ok (k, m') → m.GrowsTo m' ∧ m'.made = m.made ∧ m'.graph.MayStand k

theorem mayStand_add {g : Graph} {c : Cell} (hc : ∀ items, c ≠ .tuple items) :
    (g.add c).2.MayStand g.size := by
  have hcell : (g.add c).2.cell g.size = c := cell_add_fst g c
  exact ⟨by simp, fun items htuple => hc items (hcell.symm.trans htuple)⟩

theorem brings_add_scalar (s : Scalar) : (add (.scalar s)).Brings := by
  intro m k m' hm h
  cases h
  exact ⟨hm.add (fits_scalar _ s), rfl, mayStand_add nofun⟩

theorem Reads.brings {x : Maker α} {f : α → Maker Nat} (hx : x.Reads) (hf : ∀ a, (f a).Brings) :
    (x >>= f).Brings := by
  intro m k m' hm h
  obtain ⟨a, m₁, ha, hk⟩ := run_bind_eq_ok h
  have hgrows := hx.growsTo hm ha
  obtain ⟨hgrows', hmade, hstands⟩ := hf a m₁ k m' hgrows.sound hk
  obtain ⟨nodes, -, rfl⟩ := hx m a m₁ ha
  exact ⟨hgrows.trans hgrows', hmade, hstands⟩

theorem brings_makeFloat (s : List Char) : (makeFloat s).Brings := by
  refine (reads_ofExcept _).brings fun x => ?_
  split
  · intro m k m' hm h
    obtain ⟨m₀, m₁, h₀, h⟩ := run_bind_eq_ok h
    cases h₀
    split at h
    · next j hj =>
      cases h
      exact ⟨hm.growsTo, rfl, hm.notNumber k hj⟩
    · obtain ⟨j, m₂, hadd, h⟩ := run_bind_eq_ok h
      obtain ⟨hgrows, hmade, hstands⟩ := brings_add_scalar _ m j m₂ hm hadd
      cases h
      exact ⟨hgrows.trans (hgrows.sound.withNotNumber hstands), hmade, hstands⟩
  · exact brings_add_scalar _

theorem node_of_size_le {nodes : Nodes} (hn : nodes.size ≤ n) : (nodes.node n).tag = .null := by
  rw [Nodes.node, Array.getElem?_eq_none hn]
  rfl

/-- A new collection that waits. -/
theorem growsTo_collection {c : Cell} (hm : m.IsSound) (hnone : m.valueOf? n = none) (hn : n < m.nodes.size)
    (hopen : c.isOpen = true) (hc : m.graph.Fits c) :
    m.GrowsTo { m with waiting := n :: m.waiting, graph := (m.graph.add c).2,
                       made := m.made.setIfInBounds n (some m.graph.size) } := by
  have hcell : (m.graph.add c).2.cell m.graph.size = c := cell_add_fst m.graph c
  have htuple (items : List Nat) : c ≠ .tuple items := fun heq => by
    rw [heq] at hopen
    cases hopen
  have hadd := hm.add hc
  have hmade := hadd.sound.withMade (n := n) (k := m.graph.size) hnone (mayStand_add htuple)
  have hwaits : ({ m with graph := (m.graph.add c).2,
                          made := m.made.setIfInBounds n (some m.graph.size) } : Making).IsOpen n :=
    ⟨m.graph.size, Making.valueOf?_setIfInBounds_self (m := { m with graph := (m.graph.add c).2 })
      (hm.size ▸ hn), (congrArg Cell.isOpen hcell).trans hopen⟩
  exact (hadd.trans hmade).trans (hmade.sound.withWaiting hwaits)

/-- A value that a node has from then on. -/
theorem growsTo_kept {x : Maker Nat} (hx : x.Brings) (hm : m.IsSound) (hnone : m.valueOf? n = none)
    (h : (do
        let k ← x
        modify fun m => { m with made := m.made.setIfInBounds n (some k) }
        return k : Maker Nat).run m = .ok (k, m')) :
    m.GrowsTo m' ∧ m'.graph.MayStand k := by
  obtain ⟨j, m₁, hj, h⟩ := run_bind_eq_ok h
  cases h
  obtain ⟨hgrows, hmade, hstands⟩ := hx m k m₁ hm hj
  have hnone' : m₁.valueOf? n = none := by rwa [Making.valueOf?, hmade]
  exact ⟨hgrows.trans (hgrows.sound.withMade hnone' hstands), hstands⟩

theorem brings_scalar {f : List Char → Maker Scalar} (hf : ∀ s, (f s).Reads) (fuel n : Nat) :
    (do add (.scalar (← f (← text fuel n))) : Maker Nat).Brings :=
  (reads_text fuel n).brings fun s => (hf s).brings fun _ => brings_add_scalar _

theorem growsTo_make (hm : m.IsSound) (h : (make n).run m = .ok (k, m')) :
    m.GrowsTo m' ∧ m'.graph.MayStand k := by
  unfold make at h
  obtain ⟨m₀, m₁, h₀, h⟩ := run_bind_eq_ok h
  cases h₀
  split at h
  · next j hj =>
    cases h
    exact ⟨hm.growsTo, hm.made n k hj⟩
  · next hnone =>
    have hlt (htag : (m.nodes.node n).tag ≠ .null) : n < m.nodes.size :=
      Nat.lt_of_not_le fun hle => htag (node_of_size_le hle)
    have hcollection {c : Cell} (hopen : c.isOpen = true) (hc : m.graph.Fits c)
        (htag : (m.nodes.node n).tag ≠ .null) :=
      growsTo_collection hm hnone (hlt htag) hopen hc
    have hlist : m.graph.Fits (.list []) := fits_of_not_dict nofun nofun
    have hset : m.graph.Fits (.set []) := fits_of_not_dict nofun nofun
    dsimp only at h
    split at h
    · exact growsTo_kept (brings_scalar (fun _ => reads_pure _) _ n) hm hnone h
    · exact growsTo_kept (brings_scalar (fun _ => reads_ofExcept _) _ n) hm hnone h
    · exact growsTo_kept (brings_scalar (fun _ => reads_ofExcept _) _ n) hm hnone h
    · rw [← bind_assoc] at h
      exact growsTo_kept ((reads_text _ n).brings brings_makeFloat) hm hnone h
    · exact growsTo_kept (brings_scalar (fun _ => reads_pure _) _ n) hm hnone h
    · exact growsTo_kept (brings_scalar (fun s => reads_bytesOf s _) _ n) hm hnone h
    · exact growsTo_kept (brings_scalar (fun _ => reads_ofExcept _) _ n) hm hnone h
    · next ht =>
      cases h
      exact ⟨hcollection rfl hlist (by rw [ht]; nofun), mayStand_add nofun⟩
    · next ht =>
      cases h
      exact ⟨hcollection rfl hlist (by rw [ht]; nofun), mayStand_add nofun⟩
    · next ht =>
      cases h
      exact ⟨hcollection rfl hlist (by rw [ht]; nofun), mayStand_add nofun⟩
    · next ht =>
      cases h
      exact ⟨hcollection rfl (fits_nil_dict _) (by rw [ht]; nofun), mayStand_add nofun⟩
    · next ht =>
      cases h
      exact ⟨hcollection rfl hset (by rw [ht]; nofun), mayStand_add nofun⟩
    · obtain ⟨_, _, hrefused, _⟩ := run_bind_eq_ok h
      cases hrefused

/-! ### Collections filled -/

theorem growsTo_foldlM {f : β → α → Maker β} {P : Graph → β → Prop}
    (hf : ∀ b a m b' m', m.IsSound → P m.graph b → (f b a).run m = .ok (b', m') →
      m.GrowsTo m' ∧ P m'.graph b') (items : List α) {b b' : β} (hm : m.IsSound) (hb : P m.graph b)
    (h : (items.foldlM f b).run m = .ok (b', m')) : m.GrowsTo m' ∧ P m'.graph b' := by
  induction items generalizing m b with
  | nil =>
    cases h
    exact ⟨hm.growsTo, hb⟩
  | cons a items ih =>
    rw [List.foldlM_cons] at h
    obtain ⟨b₁, m₁, h₁, h⟩ := run_bind_eq_ok h
    obtain ⟨hgrows, hb₁⟩ := hf b a m b₁ m₁ hm hb h₁
    obtain ⟨hgrows', hb'⟩ := ih hgrows.sound hb₁ h
    exact ⟨hgrows.trans hgrows', hb'⟩

theorem growsTo_mapM {f : α → Maker Nat}
    (hf : ∀ a m k m', m.IsSound → (f a).run m = .ok (k, m') → m.GrowsTo m' ∧ k < m'.graph.size)
    (items : List α) {ks : List Nat} (hm : m.IsSound) (h : (items.mapM f).run m = .ok (ks, m')) :
    m.GrowsTo m' ∧ ∀ k ∈ ks, k < m'.graph.size := by
  induction items generalizing m ks with
  | nil =>
    cases h
    exact ⟨hm.growsTo, nofun⟩
  | cons a items ih =>
    rw [List.mapM_cons] at h
    obtain ⟨k, m₁, hk, h⟩ := run_bind_eq_ok h
    obtain ⟨ks', m₂, hks, h⟩ := run_bind_eq_ok h
    cases h
    obtain ⟨hgrows, hlt⟩ := hf a m k m₁ hm hk
    obtain ⟨hgrows', hall⟩ := ih hgrows.sound hks
    refine ⟨hgrows.trans hgrows', fun j hj => ?_⟩
    rcases List.mem_cons.mp hj with rfl | hj
    · exact Nat.lt_of_lt_of_le hlt hgrows'.graph.size_le
    · exact hall j hj

theorem growsTo_makePairs {pairs : List (Nat × Nat)} (hm : m.IsSound)
    (h : (makePairs n).run m = .ok (pairs, m')) : m.GrowsTo m' ∧ m'.graph.Fits (.dict pairs) := by
  unfold makePairs at h
  obtain ⟨x, m₁, hx, h⟩ := run_bind_eq_ok h
  have h₁ := (reads_node n).growsTo hm hx
  split at h
  · obtain ⟨m₀, m₂, h₀, h⟩ := run_bind_eq_ok h
    cases h₀
    obtain ⟨_, m₃, hmerge, h⟩ := run_bind_eq_ok h
    have h₂ := ((reads_merging _).1 n).growsTo h₁.sound hmerge
    obtain ⟨own, m₄, hown, h⟩ := run_bind_eq_ok h
    have h₃ := (reads_pairs n).growsTo h₂.sound hown
    refine (growsTo_foldlM (P := fun g pairs => g.Fits (.dict pairs)) ?_ own h₃.sound (fits_nil_dict _) h).imp_left
      (((h₁.trans h₂).trans h₃).trans ·)
    intro acc p m acc' m' hm hacc h
    obtain ⟨key, m₁, hkey, h⟩ := run_bind_eq_ok h
    obtain ⟨h₁, hstands⟩ := growsTo_make hm hkey
    obtain ⟨m₀, m₂, h₀, h⟩ := run_bind_eq_ok h
    cases h₀
    split at h
    · obtain ⟨v, m₂, hv, h⟩ := run_bind_eq_ok h
      obtain ⟨h₂, hv⟩ := growsTo_make h₁.sound hv
      cases h
      have hacc := (hacc.develop h₁.graph).develop h₂.graph
      exact ⟨h₁.trans h₂, hacc.putPair (h₂.graph.mayStand hstands).1 hv⟩
    · obtain ⟨_, m₂, _, h⟩ := run_bind_eq_ok h
      exact absurd h run_refuseIn_ne_ok
  · cases h

theorem growsTo_makeItem {what : String} {item : Nat} (hm : m.IsSound)
    (h : (makeItem what n item).run m = .ok (k, m')) : m.GrowsTo m' ∧ k < m'.graph.size := by
  unfold makeItem at h
  obtain ⟨x, m₁, hx, h⟩ := run_bind_eq_ok h
  have h₁ := (reads_node item).growsTo hm hx
  split at h
  · obtain ⟨key, m₂, hkey, h⟩ := run_bind_eq_ok h
    obtain ⟨h₂, hkey⟩ := growsTo_make h₁.sound hkey
    obtain ⟨v, m₃, hv, h⟩ := run_bind_eq_ok h
    obtain ⟨h₃, hv⟩ := growsTo_make h₂.sound hv
    cases h
    have hfits : m₃.graph.Fits (.tuple [key, v]) := by
      refine fits_of_not_dict (fun j hj => ?_) nofun
      rcases List.mem_cons.mp hj with rfl | hj
      · exact (h₃.graph.mayStand hkey).1
      · exact List.mem_singleton.mp hj ▸ hv.1
    exact ⟨((h₁.trans h₂).trans h₃).trans (h₃.sound.add hfits),
      Nat.lt_of_lt_of_eq (Nat.lt_succ_self _) (size_add ..).symm⟩
  · exact absurd h run_refuseIn_ne_ok
  · exact absurd h run_refuseIn_ne_ok

theorem fits_list {g : Graph} {ks : List Nat} (hks : ∀ k ∈ ks, k < g.size) : g.Fits (.list ks) :=
  fits_of_not_dict hks nofun

theorem growsTo_makeItems {what : String} {c : Cell} (hm : m.IsSound)
    (h : (makeItems what n).run m = .ok (c, m')) : m.GrowsTo m' ∧ c.isOpen = true ∧ m'.graph.Fits c := by
  unfold makeItems at h
  obtain ⟨x, m₁, hx, h⟩ := run_bind_eq_ok h
  have h₁ := (reads_node n).growsTo hm hx
  split at h
  · next items _ =>
    obtain ⟨ks, m₂, hks, h⟩ := run_bind_eq_ok h
    cases h
    obtain ⟨h₂, hlt⟩ := growsTo_mapM (fun _ _ _ _ hm => growsTo_makeItem hm) items h₁.sound hks
    exact ⟨h₁.trans h₂, rfl, fits_list hlt⟩
  · exact absurd h run_refuseIn_ne_ok

theorem growsTo_makeParts {c : Cell} (hm : m.IsSound) (h : (makeParts n).run m = .ok (c, m')) :
    m.GrowsTo m' ∧ c.isOpen = true ∧ m'.graph.Fits c := by
  unfold makeParts at h
  obtain ⟨x, m₁, hx, h⟩ := run_bind_eq_ok h
  have h₁ := (reads_node n).growsTo hm hx
  split at h
  · obtain ⟨pairs, m₂, hpairs, h⟩ := run_bind_eq_ok h
    cases h
    obtain ⟨h₂, hfits⟩ := growsTo_makePairs h₁.sound hpairs
    exact ⟨h₁.trans h₂, rfl, hfits⟩
  · obtain ⟨pairs, m₂, hpairs, h⟩ := run_bind_eq_ok h
    cases h
    obtain ⟨h₂, hfits⟩ := growsTo_makePairs h₁.sound hpairs
    refine ⟨h₁.trans h₂, rfl, fits_of_not_dict (fun k hk => ?_) nofun⟩
    obtain ⟨p, hp, rfl⟩ := List.mem_map.mp hk
    exact (hfits.holds p hp).1
  · obtain ⟨h₂, hc⟩ := growsTo_makeItems h₁.sound h
    exact ⟨h₁.trans h₂, hc⟩
  · obtain ⟨h₂, hc⟩ := growsTo_makeItems h₁.sound h
    exact ⟨h₁.trans h₂, hc⟩
  · split at h
    · next items _ =>
      obtain ⟨ks, m₂, hks, h⟩ := run_bind_eq_ok h
      cases h
      have hmake (a : Nat) (m : Making) (k : Nat) (m' : Making) (hm : m.IsSound)
          (h : (make a).run m = .ok (k, m')) : m.GrowsTo m' ∧ k < m'.graph.size :=
        (growsTo_make hm h).imp_right And.left
      obtain ⟨h₂, hlt⟩ := growsTo_mapM hmake items h₁.sound hks
      exact ⟨h₁.trans h₂, rfl, fits_list hlt⟩
    · cases h

/-- A collection that waits is filled. -/
theorem growsTo_finish {u : Unit} (hm : m.IsSound) (hn : m.IsOpen n) (h : (finish n).run m = .ok (u, m')) :
    m.GrowsTo m' := by
  obtain ⟨c, m₁, hc, h⟩ := run_bind_eq_ok h
  obtain ⟨hgrows, hopen, hfits⟩ := growsTo_makeParts hm hc
  obtain ⟨k, hk, hkopen⟩ := hgrows.isOpen hm hn
  have hval : (m₁.made[n]?.join).getD 0 = k := by
    rw [show m₁.made[n]?.join = some k from hk, Option.getD_some]
  have hlt := (hgrows.sound.made n k hk).1
  cases h
  dsimp only
  rw [hval]
  exact hgrows.trans (hgrows.sound.withGraph (hgrows.sound.graph.put hlt hkopen hopen hfits)
    (develops_put hlt hkopen hopen))

theorem growsTo_forM_finish (waiting : List Nat) {u : Unit} (hm : m.IsSound) (hw : ∀ n ∈ waiting, m.IsOpen n)
    (h : (waiting.forM finish).run m = .ok (u, m')) : m.GrowsTo m' := by
  induction waiting generalizing m with
  | nil =>
    cases h
    exact hm.growsTo
  | cons n waiting ih =>
    obtain ⟨_, m₁, h₁, h⟩ := run_bind_eq_ok h
    have hgrows := growsTo_finish hm (hw n List.mem_cons_self) h₁
    have hw' (j : Nat) (hj : j ∈ waiting) := hgrows.isOpen hm (hw j (List.mem_cons_of_mem _ hj))
    exact hgrows.trans (ih hgrows.sound hw' h)

theorem growsTo_finishAll (fuel : Nat) {u : Unit} (hm : m.IsSound)
    (h : (finishAll fuel).run m = .ok (u, m')) : m.GrowsTo m' := by
  induction fuel generalizing m with
  | zero =>
    cases h
    exact hm.growsTo
  | succ fuel ih =>
    rw [finishAll] at h
    obtain ⟨m₀, m₁, h₀, h⟩ := run_bind_eq_ok h
    cases h₀
    dsimp only at h
    split at h
    · obtain ⟨_, m₁, h₁, h⟩ := run_bind_eq_ok h
      cases h₁
      have hempty := hm.withoutWaiting
      obtain ⟨_, m₂, h₂, h⟩ := run_bind_eq_ok h
      have hfilled := growsTo_forM_finish _ hempty.sound (fun n hn => hm.waiting n (List.mem_reverse.mp hn)) h₂
      exact (hempty.trans hfilled).trans (ih hfilled.sound h)
    · cases h
      exact hm.growsTo

theorem growsTo_document {root : Nat} (hm : m.IsSound) (h : (document root).run m = .ok (k, m')) :
    m.GrowsTo m' ∧ m'.graph.MayStand k := by
  obtain ⟨j, m₁, hj, h⟩ := run_bind_eq_ok h
  obtain ⟨h₁, hstands⟩ := growsTo_make hm hj
  obtain ⟨m₀, m₂, h₀, h⟩ := run_bind_eq_ok h
  cases h₀
  obtain ⟨_, m₃, hall, h⟩ := run_bind_eq_ok h
  have h₂ := growsTo_finishAll _ h₁.sound hall
  cases h
  exact ⟨h₁.trans h₂, h₂.graph.mayStand hstands⟩

end Maker

/-- Where nothing was made yet. -/
theorem isSound_start (nodes : Nodes) :
    Making.IsSound { nodes, made := Array.replicate nodes.size none } where
  graph := isProper_empty
  size := Array.size_replicate
  made n k hk := by
    unfold Making.valueOf? at hk
    rw [Array.getElem?_replicate] at hk
    split at hk <;> cases hk
  waiting := nofun
  notNumber := nofun

/-- The value of a text is a cell of a proper graph. -/
theorem isProper_of_readGraph {text : List Char} {g : Graph} (h : readGraph text = .ok (g, k)) :
    g.IsProper ∧ k < g.size := by
  unfold readGraph at h
  cases hnodes : Nodes.ofText text with
  | error e => rw [hnodes] at h; cases h
  | ok p =>
    obtain ⟨nodes, root⟩ := p
    rw [hnodes] at h
    cases root with
    | none =>
      cases h
      exact ⟨isProper_empty.add (fits_scalar _ .null), Nat.zero_lt_one⟩
    | some root =>
      change (Maker.document root).run _ >>= _ = _ at h
      cases hdoc : (Maker.document root).run { nodes, made := Array.replicate nodes.size none } with
      | error e => rw [hdoc] at h; cases h
      | ok p =>
        rw [hdoc] at h
        cases h
        obtain ⟨hgrows, hstands⟩ := Maker.growsTo_document (isSound_start nodes) hdoc
        exact ⟨hgrows.sound.graph, hstands.1⟩

theorem isProper_of_readGraphFrom {source : Source} {text : List Char} {g : Graph}
    (h : readGraphFrom source text = .ok (g, k)) : g.IsProper ∧ k < g.size := by
  unfold readGraphFrom at h
  cases hread : readGraph text with
  | error e => rw [hread] at h; cases h
  | ok p =>
    rw [hread] at h
    cases h
    exact isProper_of_readGraph hread

end Stencil.Yaml
