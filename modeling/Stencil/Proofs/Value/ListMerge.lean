import Stencil.Proofs.Value.Knots
import Stencil.Proofs.Value.Layers

/-! Lists of a layer over those of an earlier one. The markers at the start of a list are meant to count
wherever a later layer has a list. They count where the earlier layer has a list, too; elsewhere a later list
stays as it is, with its marker, and an empty one over a list changes nothing. -/
namespace Stencil

/-- What the first item of a list may ask for. -/
inductive Marker where
  | append
  | replace
  deriving DecidableEq

section

variable {α : Type} {marker? marker?' : α → Option Marker} {base? : Option (List α)} {later : List α}

/-- A list over an earlier one, as the markers say. -/
def signed (marker? : α → Option Marker) (base : List α) : List α → List α
  | [] => []
  | first :: rest =>
    match marker? first with
    | some .append => base ++ rest
    | some .replace => rest
    | none => first :: rest

/-- What a list comes to, over an earlier one or where there was none. -/
def overList (marker? : α → Option Marker) : Option (List α) → List α → List α
  | none, later => later
  | some base, [] => base
  | some base, first :: rest => signed marker? base (first :: rest)

/-- Whether a list is not one of those of which the markers are passed over: one with a marker where there was
no list, or an empty one where there was a list with items. -/
def Heeds (marker? : α → Option Marker) : Option (List α) → List α → Prop
  | none, later => ∀ first ∈ later.head?, marker? first = none
  | some base, later => later = [] → base = []

theorem overList_eq_signed_iff :
    overList marker? base? later = signed marker? (base?.getD []) later ↔ Heeds marker? base? later := by
  cases base? with
  | none =>
    cases later with
    | nil => simp [overList, signed, Heeds]
    | cons first rest =>
      cases hm : marker? first with
      | none => simp [overList, signed, Heeds, hm]
      | some m => cases m <;> simp [overList, signed, Heeds, hm]
  | some base =>
    cases later with
    | nil => simp [overList, signed, Heeds]
    | cons first rest => simp [overList, Heeds]

/-- Whether a list that was merged is what the list comes to, and what its markers ask for unless they are
passed over. -/
structure ListMerged (marker? : α → Option Marker) (base? : Option (List α)) (later : List α)
    (result? : Option (List α)) : Prop where
  left : result? = some (overList marker? base? later)
  asked_iff : result? = some (signed marker? (base?.getD []) later) ↔ Heeds marker? base? later

theorem listMerged_of_eq {result? : Option (List α)} (h : result? = some (overList marker? base? later)) :
    ListMerged marker? base? later result? :=
  ⟨h, by rw [h, Option.some.injEq, overList_eq_signed_iff]⟩

theorem signed_congr {base : List α} (h : ∀ first ∈ later, marker? first = marker?' first) :
    signed marker? base later = signed marker?' base later := by
  cases later with
  | nil => rfl
  | cons first rest => rw [signed, signed, h first List.mem_cons_self]

theorem overList_congr (h : ∀ first ∈ later, marker? first = marker?' first) :
    overList marker? base? later = overList marker?' base? later := by
  cases base? with
  | none => rfl
  | some base =>
    cases later with
    | nil => rfl
    | cons first rest => exact signed_congr h

end

/-! ### Mappings by themselves -/

namespace Value

variable {old new : Value} {p : List Scalar} {l : List Value}

/-- What a value asks for at the start of a list. -/
def marker? : Value → Option Marker
  | .str "+" => some .append
  | .str "=" => some .replace
  | _ => none

/-- The list that keys lead to. -/
def listAt? (v : Value) (p : List Scalar) : Option (List Value) :=
  match v.follow? p with
  | some (.list l) => some l
  | _ => none

theorem listAt?_eq_some_iff {v : Value} : v.listAt? p = some l ↔ v.follow? p = some (.list l) := by
  unfold listAt?
  split
  · next h => rw [h, Option.some.injEq, Option.some.injEq, Value.list.injEq]
  · next h =>
    constructor
    · intro hl
      cases hl
    · intro hl
      exact absurd hl (h l)

theorem listAt?_dict_cons (m : Mapping) (key : Scalar) (p : List Scalar) :
    (dict m).listAt? (key :: p) = (Mapping.get? m key).bind (·.listAt? p) := by
  rw [listAt?, follow?_dict]
  cases Mapping.get? m key <;> rfl

theorem mergeLists_eq_overList (base later : List Value) :
    mergeLists base later = overList marker? (some base) later := by
  unfold mergeLists
  split
  · rfl
  · rfl
  · rfl
  · next hnil happend hreplace =>
    cases later with
    | nil => exact absurd rfl hnil
    | cons first rest =>
      have hnone : marker? first = none := by
        unfold marker?
        split
        · exact absurd rfl (happend rest)
        · exact absurd rfl (hreplace rest)
        · rfl
      rw [overList, signed, hnone]

/-- What is under a key of a tree is a tree. -/
theorem hasKnot_of_get? {m : Mapping} {key : Scalar} {v : Value} (h : hasKnotPairs m = false)
    (hv : Mapping.get? m key = some v) : v.hasKnot = false := by
  obtain ⟨p, hfind, rfl⟩ := Option.map_eq_some_iff.mp hv
  exact hasKnotPairs_eq_false_iff.mp h p (List.mem_of_find?_eq_some hfind)

/-- A list of a later value over what stands at its place. -/
theorem listAt?_mergeValue (hkeys : new.KeysOnce) (htree : old.hasKnot = false)
    (hp : ∀ key ∈ p, key.key.equalsItself = true) (h : new.listAt? p = some l) :
    (mergeValue old new).listAt? p = some (overList marker? (old.listAt? p) l) := by
  induction p generalizing old new with
  | nil =>
    obtain rfl : new = .list l := by
      have hl := listAt?_eq_some_iff.mp h
      rw [follow?_nil] at hl
      exact Option.some.inj hl
    rw [mergeValue, opened_of_hasKnot htree]
    cases old with
    | list base => exact congrArg some (mergeLists_eq_overList base l)
    | _ => rfl
  | cons key p ih =>
    obtain ⟨hself, hp⟩ := List.forall_mem_cons.mp hp
    obtain ⟨later, u, rfl, hu, hl⟩ := follow?_cons_eq_some (listAt?_eq_some_iff.mp h)
    have hl : u.listAt? p = some l := listAt?_eq_some_iff.mpr hl
    rw [mergeValue, opened_of_hasKnot htree]
    cases old with
    | dict base =>
      rw [listAt?_dict_cons, listAt?_dict_cons, Mapping.get?_mergeOver hkeys.nodup _ hself, hu]
      cases ho : Mapping.get? base key with
      | none => exact hl
      | some o => exact ih (hkeys.get? hu) (hasKnot_of_get? htree ho) hp hl
    | _ => exact h

end Value

/-! ### Parts of graphs -/

namespace Graph

variable {g g' h : Graph} {n k old new : Nat} {p : List Scalar} {l : List Nat}

/-- What a part asks for at the start of a list. -/
def marker? (g : Graph) (n : Nat) : Option Marker :=
  match g.cell n with
  | .scalar (.str "+") => some .append
  | .scalar (.str "=") => some .replace
  | _ => none

/-- The parts of a list. -/
def items? (g : Graph) (n : Nat) : Option (List Nat) :=
  match g.cell n with
  | .list items => some items
  | _ => none

/-- The parts of the list that keys lead to. -/
def listAt? (g : Graph) (n : Nat) (p : List Scalar) : Option (List Nat) := (g.follow? n p).bind g.items?

theorem items?_eq_some_iff : g.items? n = some l ↔ g.cell n = .list l := by
  unfold items?
  cases g.cell n <;> simp

theorem listAt?_cons (g : Graph) (n : Nat) (key : Scalar) (p : List Scalar) :
    g.listAt? n (key :: p) = (g.find? n key).bind fun k => g.listAt? k p := by
  rw [listAt?, follow?_cons]
  cases g.find? n key <;> rfl

theorem Extends.listAt? (hx : h.Extends g) (hg : g.Closed) (hn : n < g.size) (p : List Scalar) :
    h.listAt? n p = g.listAt? n p := by
  rw [Graph.listAt?, Graph.listAt?, hx.follow? hg hn]
  cases hk : g.follow? n p with
  | none => rfl
  | some k =>
    change h.items? k = g.items? k
    rw [items?, items?, hx.cell_eq k (hg.follow?_lt hn hk)]

theorem Closed.lt_of_listAt? (hg : g.Closed) (hl : g.listAt? n p = some l) : ∀ i ∈ l, i < g.size := by
  obtain ⟨k, -, hk⟩ := Option.bind_eq_some_iff.mp hl
  intro i hi
  refine hg k i ?_
  rw [items?_eq_some_iff.mp hk]
  exact hi

theorem Extends.overList_eq (hx : h.Extends g) (hl : ∀ i ∈ l, i < g.size) (base? : Option (List Nat)) :
    overList h.marker? base? l = overList g.marker? base? l :=
  overList_congr fun i hi => by rw [marker?, marker?, hx.cell_eq i (hl i hi)]

theorem items?_mergeLists {base : List Nat} (hold : g.cell old = .list base)
    (hmerge : g.mergeLists old base l = (k, g')) : g'.items? k = some (overList g.marker? (some base) l) := by
  have hadd (items : List Nat) (h : g.add (.list items) = (k, g')) : g'.items? k = some items := by
    have hcell := cell_add_fst g (.list items)
    rw [h] at hcell
    exact items?_eq_some_iff.mpr hcell
  unfold mergeLists at hmerge
  cases l with
  | nil =>
    cases hmerge
    exact items?_eq_some_iff.mpr hold
  | cons first rest =>
    dsimp only at hmerge
    rw [overList, signed]
    by_cases happend : g.cell first = .scalar (.str "+")
    · have hmarker : g.marker? first = some .append := by rw [marker?, happend]; rfl
      rw [happend] at hmerge
      rw [hmarker]
      exact hadd _ hmerge
    by_cases hreplace : g.cell first = .scalar (.str "=")
    · have hmarker : g.marker? first = some .replace := by rw [marker?, hreplace]; rfl
      rw [hreplace] at hmerge
      rw [hmarker]
      exact hadd _ hmerge
    have hmarker : g.marker? first = none := by
      unfold marker?
      split
      · next hc => exact absurd hc happend
      · next hc => exact absurd hc hreplace
      · rfl
    rw [hmarker]
    split at hmerge
    · next hc => exact absurd hc happend
    · next hc => exact absurd hc hreplace
    · exact hadd _ hmerge

/-- A list over a part. -/
theorem items?_mergeValue {fuel : Nat} (hl : g.items? new = some l)
    (hmerge : mergeValue fuel g old new = some (k, g')) : g'.items? k = some (overList g.marker? (g.items? old) l) := by
  cases fuel with
  | zero => cases hmerge
  | succ fuel =>
    rw [mergeValue, items?_eq_some_iff.mp hl] at hmerge
    split at hmerge
    · next heq => cases heq
    · next base _ hbase heq =>
      cases heq
      rw [items?_eq_some_iff.mpr hbase]
      exact items?_mergeLists hbase (Option.some.inj hmerge)
    · next hnot =>
      cases hmerge
      have hthere : g.items? old = none := by
        unfold items?
        split
        · next base hbase => exact absurd rfl (hnot base l hbase)
        · rfl
      rw [hthere]
      exact hl

/-- A list of a later part over what stands at its place. -/
theorem listAt?_mergeValue {fuel : Nat} (hg : g.Closed) (hold : old < g.size) (hnew : new < g.size)
    (hkeys : g.KeysOnce new) (hp : ∀ key ∈ p, key.key.equalsItself = true) (hl : g.listAt? new p = some l)
    (hmerge : mergeValue fuel g old new = some (k, g')) :
    g'.listAt? k p = some (overList g.marker? (g.listAt? old p) l) := by
  induction p generalizing fuel g g' old new k with
  | nil => exact items?_mergeValue hl hmerge
  | cons key p ih =>
    obtain ⟨hself, hp⟩ := List.forall_mem_cons.mp hp
    cases fuel with
    | zero => cases hmerge
    | succ fuel =>
      rw [listAt?_cons] at hl
      obtain ⟨u, hu, hul⟩ := Option.bind_eq_some_iff.mp hl
      obtain ⟨later, hlater⟩ := exists_dict_of_find? hu
      have hult := hg.find?_lt hu
      by_cases hdict : ∃ base, g.cell old = .dict base
      · obtain ⟨base, hbase⟩ := hdict
        have hkey := find?_mergeValue hg hkeys hbase hlater hmerge key hself
        obtain ⟨hx, hg', -⟩ := (adds_mergeValue _).adds hg hold hnew hmerge
        rw [hu] at hkey
        rw [listAt?_cons, listAt?_cons]
        cases ho : g.find? old key with
        | none =>
          rw [ho] at hkey
          rw [show g'.find? k key = some u from hkey]
          exact (hx.listAt? hg hult p).trans hul
        | some o =>
          rw [ho] at hkey
          obtain ⟨m', g₁, g₂, hx₁, hg₁, hstep, hx₂, hresult⟩ := hkey
          have holt := hg.find?_lt ho
          have holt₁ := Nat.lt_of_lt_of_le holt hx₁.size_le
          have hult₁ := Nat.lt_of_lt_of_le hult hx₁.size_le
          obtain ⟨-, hg₂, hm'⟩ := (adds_mergeValue fuel).adds hg₁ holt₁ hult₁ hstep
          have hdeep := ih hg₁ holt₁ hult₁ ((hkeys.find? hu).extends hx₁ hg hult) hp
            ((hx₁.listAt? hg hult p).trans hul) hstep
          rw [hx₁.overList_eq (hg.lt_of_listAt? hul), hx₁.listAt? hg holt] at hdeep
          rw [hresult]
          exact (hx₂.listAt? hg₂ hm' p).trans hdeep
      · have hthere : g.listAt? old (key :: p) = none := by
          rw [listAt?_cons]
          cases ho : g.find? old key with
          | none => rfl
          | some o => exact absurd (exists_dict_of_find? ho) hdict
        rw [mergeValue, hlater] at hmerge
        split at hmerge
        · next base later hbase _ => exact absurd ⟨base, hbase⟩ hdict
        · next hc => cases hc
        · cases hmerge
          rw [hthere, listAt?_cons, hu]
          exact hul

/-! ### Merges that end -/

/-- Whether mappings stand in one another, so many deep. -/
def Nests (g : Graph) : (depth n : Nat) → Prop
  | 0, _ => True
  | depth + 1, n => ∃ p ∈ g.pairs n, g.Nests depth p.2

theorem Closed.of_pairs (hg : g.Closed) : ∀ q ∈ g.pairs n, q.1 < g.size ∧ q.2 < g.size := by
  unfold pairs
  split
  · next hc => exact hg.of_pair hc
  · intro q hq
    cases hq

theorem Extends.nests (hx : h.Extends g) (hg : g.Closed) (hn : n < g.size) {depth : Nat}
    (hnests : h.Nests depth n) : g.Nests depth n := by
  induction depth generalizing n with
  | zero => trivial
  | succ depth ih =>
    obtain ⟨q, hq, hdeep⟩ := hnests
    rw [pairs, hx.cell_eq n hn, ← pairs] at hq
    exact ⟨q, hq, ih (hg.of_pairs q hq).2 hdeep⟩

theorem exists_mergePairs {merge : Graph → (old later : Nat) → Option (Nat × Graph)} (hadds : Adds merge)
    {base later : List (Nat × Nat)} (hg : g.Closed) (hbase : g.Holds base) (hlater : g.Holds later)
    (hmerge : ∀ q ∈ later, ∀ g' old, g'.Extends g → g'.Closed → old < g'.size →
      ∃ r, merge g' old q.2 = some r) : ∃ r, mergePairs merge g base later = some r := by
  induction later generalizing g base with
  | nil => exact ⟨_, rfl⟩
  | cons q later ih =>
    obtain ⟨key, v⟩ := q
    obtain ⟨hkey, hv⟩ := hlater _ List.mem_cons_self
    have hlater : g.Holds later := fun q hq => hlater q (List.mem_cons_of_mem _ hq)
    have hrest (q : Nat × Nat) (hq : q ∈ later) := hmerge q (List.mem_cons_of_mem _ hq)
    rw [mergePairs]
    split
    · next hfind =>
      rw [← putPair_of_none hfind]
      exact ih hg (hbase.putPair hkey hv) hlater hrest
    · next old hfind =>
      have hold := (hbase _ (List.mem_of_find?_eq_some hfind)).2
      obtain ⟨⟨k, g₁⟩, hstep⟩ := hmerge _ List.mem_cons_self g old (.refl g) hg hold
      obtain ⟨hx₁, hg₁, hk⟩ := hadds.adds hg hold hv hstep
      obtain ⟨r, hr⟩ := ih hg₁ ((hbase.extends hx₁).putPair (Nat.lt_of_lt_of_le hkey hx₁.size_le) hk)
        (hlater.extends hx₁) fun q hq g' old hx => hrest q hq g' old (hx.trans hx₁)
      exact ⟨r, Option.bind_eq_some_iff.mpr ⟨(k, g₁), hstep, hr⟩⟩

/-- A merge ends unless the mappings of the later part stand in one another too deep. -/
theorem exists_mergeValue {fuel : Nat} (hg : g.Closed) (hold : old < g.size) (hnew : new < g.size)
    (hnests : ¬g.Nests fuel new) : ∃ r, mergeValue fuel g old new = some r := by
  induction fuel generalizing g old new with
  | zero => exact absurd trivial hnests
  | succ fuel ih =>
    rw [mergeValue]
    split
    · next base later hbase hlater =>
      have hpairs : g.pairs new = later := by rw [pairs, hlater]
      obtain ⟨⟨pairs, g₁⟩, hmerged⟩ := exists_mergePairs (adds_mergeValue fuel) hg (hg.of_pair hbase)
        (hg.of_pair hlater) fun q hq g' old hx hg' hold' => by
          have hlt := (hg.of_pair hlater q hq).2
          refine ih hg' hold' (Nat.lt_of_lt_of_le hlt hx.size_le) fun hdeep => ?_
          exact hnests ⟨q, hpairs ▸ hq, hx.nests hg hlt hdeep⟩
      exact ⟨_, Option.bind_eq_some_iff.mpr ⟨_, hmerged, rfl⟩⟩
    · exact ⟨_, rfl⟩
    · exact ⟨_, rfl⟩

end Graph

/-! ### Layers -/

namespace Layer

variable {base later : Layer}

/-- The number of a later layer in the graph of both. -/
def laterIn (base later : Layer) : Nat := later.toGraph.1 + base.toGraph.2.size

/-- What a merge makes of lists, and where that is what their markers ask for. Two mappings by themselves always
have a merge. All other layers have one, in a graph with all parts of both, unless the mappings of the later
layer stand in one another too deep. -/
theorem merge_lists (hbase : base.IsWhole) (hlater : later.IsProper) :
    (∀ m n, base = .plain m → later = .plain n → (Value.dict m).hasKnot = false →
      ∃ r, base.merge later = some (.plain r) ∧ ∀ p l, (∀ key ∈ p, key.key.equalsItself = true) →
        (Value.dict n).listAt? p = some l →
        ListMerged Value.marker? ((Value.dict m).listAt? p) l ((Value.dict r).listAt? p)) ∧
    (¬(bothIn base later).Nests Graph.deepestMerge (laterIn base later) →
      ∃ merged, base.merge later = some merged) ∧
    ∀ g k, base.merge later = some (.shared g k) → g.Extends (bothIn base later) ∧
      ∀ p l, (∀ key ∈ p, key.key.equalsItself = true) →
        (bothIn base later).listAt? (laterIn base later) p = some l →
        ListMerged (bothIn base later).marker? ((bothIn base later).listAt? base.toGraph.1 p) l
          (g.listAt? k p) := by
  have hclosed := bothIn_closed hbase hlater
  have hold := hbase.lt_bothIn later
  have hnew := hlater.isWhole.add_lt_bothIn base
  refine ⟨?_, fun hnests => ?_, fun g k hmerge => ?_⟩
  · rintro m n rfl rfl htree
    refine ⟨mergeOver m n, rfl, fun p l hp hl => listMerged_of_eq ?_⟩
    have hkeys : (Value.dict n).KeysOnce := by
      cases hlater with
      | plain proper => exact proper.keysOnce
    rw [← Value.mergeValue_dict_dict]
    exact Value.listAt?_mergeValue hkeys htree hp hl
  · obtain ⟨⟨k, g⟩, hmerge⟩ := Graph.exists_mergeValue hclosed hold hnew hnests
    have hshared : ((Graph.mergeValue Graph.deepestMerge (bothIn base later) base.toGraph.1
        (laterIn base later)).bind fun r => some (shared r.2 r.1)) = some (.shared g k) := by
      rw [laterIn, hmerge]
      rfl
    cases base with
    | plain m =>
      cases later with
      | plain n => exact ⟨_, rfl⟩
      | shared => exact ⟨_, hshared⟩
    | shared => exact ⟨_, hshared⟩
  · rcases merge_cases hmerge with ⟨m, n, -, -, heq⟩ | ⟨k', g', hmerge, heq⟩
    · cases heq
    · cases heq
      obtain ⟨hx, -, -⟩ := (Graph.adds_mergeValue _).adds hclosed hold hnew hmerge
      exact ⟨hx, fun p l hp hl => listMerged_of_eq
        (Graph.listAt?_mergeValue hclosed hold hnew (hlater.keysOnce.append _) hp hl hmerge)⟩

/-- A layer with a list of texts under one name. -/
def listed (name : String) (texts : List String) : Mapping := [(.str name, .list (texts.map .str))]

theorem isProper_listed (name : String) (texts : List String) : (Value.dict (listed name texts)).IsProper := by
  refine .dict (List.nodup_cons.mpr ⟨List.not_mem_nil, .nil⟩) (fun q hq => ?_) fun q hq items => ?_
  · obtain rfl := List.mem_singleton.mp hq
    refine .list fun v hv => ?_
    obtain ⟨text, -, rfl⟩ := List.mem_map.mp hv
    exact .scalar _
  · obtain rfl := List.mem_singleton.mp hq
    exact Value.noConfusion

theorem merge_lists_appended :
    ∃ r, (Layer.plain (listed "paths" ["a"])).merge (.plain (listed "paths" ["+", "b"])) = some (.plain r) ∧
      (Value.dict r).listAt? [.str "paths"] = some [.str "a", .str "b"] := by
  have hlists := (merge_lists (.plain (isProper_listed "paths" ["a"]))
    (.plain (isProper_listed "paths" ["+", "b"]))).1
  obtain ⟨r, hmerge, hlist⟩ := hlists _ _ rfl rfl rfl
  exact ⟨r, hmerge, (hlist [.str "paths"] _ (List.forall_mem_singleton.mpr rfl) rfl).left⟩

/-- Where there was no list, the marker of a list stays in it. -/
theorem not_merge_lists_signed :
    ¬∀ (base later : Mapping) (p : List Scalar) (l : List Value), (Value.dict later).listAt? p = some l →
      (Value.dict (mergeOver base later)).listAt? p =
        some (signed Value.marker? (((Value.dict base).listAt? p).getD []) l) := by
  intro h
  have hlength : some 2 = some 1 :=
    congrArg (Option.map List.length) (h [] (listed "paths" ["=", "vendor"]) [.str "paths"] _ rfl)
  cases hlength

end Layer

end Stencil
