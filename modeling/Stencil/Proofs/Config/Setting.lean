import Stencil.Proofs.Value.GraphWays
import Stencil.Proofs.Value.Layers

/-! Values put at places, step by step. A step may change a mapping before a later key on the way turns out to be
in the way, so what is left of a failure has to be told: nothing has changed, because behind a mapping that was
made nothing is in the way. A success changes one mapping that was there, and no other place sees it unless that
mapping stands there, too. -/
namespace Stencil

/-- Whether a key on the way to a place leads to something that no way goes through. `lead` tells what is at a
place, and `passes` what a way can go on from. -/
def Blocks {β : Type} (lead : List String → Option β) (passes : β → Prop) (path : List String) (part : String) :
    Prop :=
  ∃ front behind t, path = front ++ part :: behind ∧ behind ≠ [] ∧ lead (front ++ [part]) = some t ∧ ¬passes t

section

variable {β : Type} {lead : List String → Option β} {passes : β → Prop} {name next part : String}
  {rest : List String}

theorem not_blocks_singleton : ¬Blocks lead passes [name] part := by
  rintro ⟨front, behind, t, hpath, hne, -⟩
  have hlength := congrArg List.length hpath
  have hpos := List.length_pos_iff.mpr hne
  simp at hlength
  omega

/-- The first key is in the way, or one behind it. -/
theorem blocks_cons_iff : Blocks lead passes (name :: next :: rest) part ↔
    (∃ t, lead [name] = some t ∧ ¬passes t ∧ part = name) ∨
      Blocks (fun q => lead (name :: q)) passes (next :: rest) part := by
  constructor
  · rintro ⟨front, behind, t, hpath, hne, hlead, hpasses⟩
    cases front with
    | nil =>
      obtain ⟨rfl, -⟩ := List.cons.inj hpath
      exact .inl ⟨t, hlead, hpasses, rfl⟩
    | cons first front =>
      obtain ⟨rfl, hrest⟩ := List.cons.inj hpath
      exact .inr ⟨front, behind, t, hrest, hne, hlead, hpasses⟩
  · rintro (⟨t, hlead, hpasses, rfl⟩ | ⟨front, behind, t, hpath, hne, hlead, hpasses⟩)
    · exact ⟨[], next :: rest, t, rfl, List.cons_ne_nil _ _, hlead, hpasses⟩
    · exact ⟨name :: front, behind, t, by rw [hpath]; rfl, hne, hlead, hpasses⟩

/-- Nothing is in the way where nothing is. -/
theorem not_blocks_of_none (h : ∀ first q, lead (first :: q) = none) {path : List String} :
    ¬Blocks lead passes path part := by
  rintro ⟨front, behind, t, -, -, hlead, -⟩
  cases front with
  | nil => cases (h part []).symm.trans hlead
  | cons first front => cases (h first (front ++ [part])).symm.trans hlead

end

theorem Apart.of_append {front p q : List String} (h : Apart (front ++ p) (front ++ q)) : Apart p q where
  notUp hp := h.notUp ((List.prefix_append_right_inj front).mpr hp)
  notDown hq := h.notDown ((List.prefix_append_right_inj front).mpr hq)

/-- Whether a way can go on from a value: from a mapping, and from nothing, in the place of which one is made. -/
def Value.Passes (v : Value) : Prop := v = .null ∨ ∃ inner, v = .dict inner

namespace Config

open Mapping (get? insert)

variable {path p q : List String} {m : Mapping} {v : Value} {part : String}

/-- A value put at a place step by step: what the mapping is then, and the key that was in the way, if one was. -/
def setInPlace : List String → Mapping → Value → Mapping × Option String
  | [], m, _ => (m, none)
  | [key], m, v => (insert m (.str key) v, none)
  | key :: rest, m, v =>
    match (get? m (.str key)).getD .null with
    | .scalar .null =>
      let made := insert m (.str key) (.dict [])
      let inner := setInPlace rest [] v
      (insert made (.str key) (.dict inner.1), inner.2)
    | .dict inner =>
      let inner := setInPlace rest inner v
      (insert m (.str key) (.dict inner.1), inner.2)
    | _ => (m, some key)

/-- What is under the first key of a way, and what the step there does. -/
inductive FirstStep (key : String) (rest : List String) (m : Mapping) (v : Value) : Prop
  | made (hnull : (get? m (.str key)).getD .null = .null)
    (heq : setInPlace (key :: rest) m v =
      (insert m (.str key) (.dict (setInPlace rest [] v).1), (setInPlace rest [] v).2))
  | inside {inner : Mapping} (hget : get? m (.str key) = some (.dict inner))
    (heq : setInPlace (key :: rest) m v =
      (insert m (.str key) (.dict (setInPlace rest inner v).1), (setInPlace rest inner v).2))
  | blocked {w : Value} (hget : get? m (.str key) = some w) (hpasses : ¬w.Passes)
    (heq : setInPlace (key :: rest) m v = (m, some key))

theorem step (key next : String) (rest : List String) (m : Mapping) (v : Value) :
    FirstStep key (next :: rest) m v := by
  have hstep := setInPlace.eq_3 m v key (next :: rest) (List.cons_ne_nil _ _)
  cases hm : get? m (.str key) with
  | none => exact .made (by rw [hm]; rfl) (by simp [hstep, hm, Mapping.insert_insert])
  | some w =>
    by_cases hpasses : w.Passes
    · rcases hpasses with rfl | ⟨inner, rfl⟩
      · exact .made (by rw [hm]; rfl) (by simp [hstep, hm, Mapping.insert_insert])
      · exact .inside hm (by simp [hstep, hm])
    · refine .blocked hm hpasses (hstep.trans ?_)
      rw [hm, Option.getD_some]
      split
      · exact absurd (.inl rfl) hpasses
      · exact absurd (.inr ⟨_, rfl⟩) hpasses
      · rfl

/-- What the step-by-step version comes to is what the whole comes to. -/
theorem setNested_eq (whole : List String) (p : List String) (m : Mapping) (v : Value) :
    setNested whole p m v =
      match setInPlace p m v with
      | (m', none) => .ok m'
      | (_, some part) => .error (.config (.throughScalar part whole)) := by
  induction p generalizing m with
  | nil => rfl
  | cons key rest ih =>
    cases rest with
    | nil => rfl
    | cons next rest =>
      have hset := setNested.eq_3 whole m v key (next :: rest) (List.cons_ne_nil _ _)
      cases step key next rest m v with
      | made hnull heq =>
        rw [hset, heq, hnull]
        dsimp only
        rw [ih]
        rcases setInPlace (next :: rest) [] v with ⟨m', _ | part⟩ <;> rfl
      | @inside inner hget heq =>
        rw [hset, heq, hget]
        dsimp only [Option.getD_some]
        rw [ih]
        rcases setInPlace (next :: rest) inner v with ⟨m', _ | part⟩ <;> rfl
      | @blocked w hget hpasses heq =>
        rw [hset, heq, hget, Option.getD_some]
        split
        · exact absurd (.inl rfl) hpasses
        · exact absurd (.inr ⟨_, rfl⟩) hpasses
        · rfl

theorem at?_dict_singleton (m : Mapping) (name : String) :
    (Value.dict m).at? [name] = get? m (.str name) := by
  rw [Value.at?_dict]
  cases get? m (.str name) <;> rfl

/-- No way goes on from nothing. -/
theorem at?_of_null {name : String} (h : (get? m (.str name)).getD .null = .null) (first : String)
    (q : List String) : (Value.dict m).at? (name :: first :: q) = none := by
  rw [Value.at?_dict]
  cases hget : get? m (.str name) with
  | none => rfl
  | some w =>
    rw [hget, Option.getD_some] at h
    subst h
    rfl

/-- The key that a failure tells is the one that is in the way. -/
theorem setInPlace_snd_eq_some_iff :
    (setInPlace p m v).2 = some part ↔ Blocks (Value.dict m).at? Value.Passes p part := by
  induction p generalizing m with
  | nil =>
    refine iff_of_false nofun ?_
    rintro ⟨front, behind, t, hpath, -⟩
    simp at hpath
  | cons key rest ih =>
    cases rest with
    | nil => exact iff_of_false nofun not_blocks_singleton
    | cons next rest =>
      rw [blocks_cons_iff, at?_dict_singleton]
      cases step key next rest m v with
      | made hnull heq =>
        rw [heq]
        refine iff_of_false ?_ ?_
        · exact mt ih.mp (not_blocks_of_none fun _ _ => rfl)
        · rintro (⟨t, ht, hpasses, -⟩ | hblocks)
          · rw [ht] at hnull
            exact hpasses (.inl hnull)
          · exact not_blocks_of_none (at?_of_null hnull) hblocks
      | @inside inner hget heq =>
        rw [heq, ih]
        have hlead : (fun q => (Value.dict m).at? (key :: q)) = (Value.dict inner).at? := by
          funext q
          rw [Value.at?_dict, hget]
          rfl
        rw [hlead]
        refine ⟨.inr, ?_⟩
        rintro (⟨t, ht, hpasses, -⟩ | hblocks)
        · cases hget.symm.trans ht
          exact absurd (.inr ⟨inner, rfl⟩) hpasses
        · exact hblocks
      | @blocked w hget hpasses heq =>
        rw [heq]
        constructor
        · rintro ⟨⟩
          exact .inl ⟨w, hget, hpasses, rfl⟩
        · rintro (⟨t, -, -, rfl⟩ | hblocks)
          · rfl
          · refine absurd hblocks (not_blocks_of_none fun first q => ?_)
            rw [Value.at?_dict, hget]
            cases w with
            | dict inner => exact absurd (.inr ⟨inner, rfl⟩) hpasses
            | _ => rfl

/-- A failure leaves the mapping as it was. -/
theorem setInPlace_fst_of_failure (h : (setInPlace p m v).2 = some part) : (setInPlace p m v).1 = m := by
  induction p generalizing m with
  | nil => rfl
  | cons key rest ih =>
    cases rest with
    | nil => cases h
    | cons next rest =>
      cases step key next rest m v with
      | made hnull heq =>
        -- in the mapping that was made nothing is in the way
        rw [heq] at h
        exact absurd (setInPlace_snd_eq_some_iff.mp h) (not_blocks_of_none fun _ _ => rfl)
      | inside hget heq =>
        rw [heq] at h ⊢
        rw [ih h]
        exact Mapping.insert_of_get? hget
      | blocked hget hpasses heq => rw [heq]

end Config

/-! ### Parts of graphs -/

namespace Graph

variable {g g' : Graph} {n k : Nat} {pairs : List (Nat × Nat)} {name other part : String} {p q : List String}

/-- Whether a way can go on from a part: from a mapping, and from nothing, in the place of which one is made. -/
def Passes (g : Graph) (n : Nat) : Prop := g.cell n = .scalar .null ∨ ∃ pairs, g.cell n = .dict pairs

/-- A value put at a place step by step: what the graph is then, and the key that was in the way, if one was. -/
def setInPlace (g : Graph) (n : Nat) : (path : List String) → (value : Nat) → Graph × Option String
  | [], _ => (g, none)
  | [name], value => (g.link n name value, none)
  | name :: rest, value =>
    let inner := g.find? n (.str name)
    match inner.map g.cell |>.getD (.scalar .null) with
    | .dict _ => g.setInPlace (inner.getD 0) rest value
    | .scalar .null => (g.open_ n name).setInPlace (g.size + 1) rest value
    | _ => (g, some name)

/-- What is under the first name of a way, and what the step there does. -/
inductive FirstStep (g : Graph) (n : Nat) (name : String) (rest : List String) (k : Nat) : Prop
  | made (hnull : ∀ inner, g.find? n (.str name) = some inner → g.cell inner = .scalar .null)
    (heq : g.setInPlace n (name :: rest) k = (g.open_ n name).setInPlace (g.size + 1) rest k)
    (hset : g.setAt n (name :: rest) k = (g.open_ n name).setAt (g.size + 1) rest k)
  | inside {inner : Nat} {pairs : List (Nat × Nat)} (hfind : g.find? n (.str name) = some inner)
    (hc : g.cell inner = .dict pairs) (heq : g.setInPlace n (name :: rest) k = g.setInPlace inner rest k)
    (hset : g.setAt n (name :: rest) k = g.setAt inner rest k)
  | blocked {inner : Nat} (hfind : g.find? n (.str name) = some inner) (hpasses : ¬g.Passes inner)
    (heq : g.setInPlace n (name :: rest) k = (g, some name)) (hset : g.setAt n (name :: rest) k = .error name)

theorem step (g : Graph) (n : Nat) (name next : String) (rest : List String) (k : Nat) :
    FirstStep g n name (next :: rest) k := by
  have hstep := setInPlace.eq_3 g n k name (next :: rest) (List.cons_ne_nil _ _)
  have hset := setAt.eq_3 g n k name (next :: rest) (List.cons_ne_nil _ _)
  let made := (g.add (.scalar (.str name))).2.add (.dict [])
  have hopen : (made.2.putInto n g.size made.1).setAt made.1 (next :: rest) k =
      (g.open_ n name).setAt (g.size + 1) (next :: rest) k := by
    rw [show made.1 = g.size + 1 from size_add g _]
    rfl
  cases hfind : g.find? n (.str name) with
  | none =>
    rw [hfind] at hstep hset
    refine .made (fun inner hinner => ?_) hstep (hset.trans hopen)
    cases hfind.symm.trans hinner
  | some inner =>
    rw [hfind] at hstep hset
    dsimp only [Option.map_some, Option.getD_some] at hstep hset
    cases hc : g.cell inner with
    | scalar s =>
      rw [hc] at hstep hset
      cases s with
      | null =>
        refine .made (fun inner' hinner => ?_) hstep (hset.trans hopen)
        cases hfind.symm.trans hinner
        exact hc
      | _ => exact .blocked hfind (by simp [Passes, hc]) hstep hset
    | dict pairs =>
      rw [hc] at hstep hset
      exact .inside hfind hc hstep hset
    | _ =>
      rw [hc] at hstep hset
      exact .blocked hfind (by simp [Passes, hc]) hstep hset

/-- What the step-by-step version comes to is what the whole comes to. -/
theorem setAt_eq (g : Graph) (n : Nat) (p : List String) (k : Nat) :
    g.setAt n p k =
      match g.setInPlace n p k with
      | (g', none) => .ok g'
      | (_, some part) => .error part := by
  induction p generalizing g n with
  | nil => rfl
  | cons name rest ih =>
    cases rest with
    | nil => rfl
    | cons next rest =>
      cases step g n name next rest k with
      | made _ heq hset => rw [hset, heq, ih]
      | inside _ _ heq hset => rw [hset, heq, ih]
      | blocked _ _ heq hset => rw [hset, heq]

theorem part?_singleton (g : Graph) (n : Nat) (name : String) : g.part? n [name] = g.find? n (.str name) := by
  rw [part?_cons]
  cases g.find? n (.str name) <;> rfl

theorem part?_cons_of_notDict (hnot : ∀ pairs, g.cell n ≠ .dict pairs) (first : String) (q : List String) :
    g.part? n (first :: q) = none := by
  rw [part?_cons]
  cases hfind : g.find? n (.str first) with
  | none => rfl
  | some k =>
    obtain ⟨pairs, hc⟩ := exists_dict_of_find? hfind
    exact absurd hc (hnot pairs)

theorem part?_of_empty (hc : g.cell n = .dict []) (first : String) (q : List String) :
    g.part? n (first :: q) = none := by
  rw [part?_cons, find?_of_dict hc]
  rfl

/-- The key that a failure tells is the one that is in the way. -/
theorem setInPlace_snd_eq_some_iff (hc : g.cell n = .dict pairs) :
    (g.setInPlace n p k).2 = some part ↔ Blocks (g.part? n) g.Passes p part := by
  induction p generalizing g n pairs with
  | nil =>
    refine iff_of_false nofun ?_
    rintro ⟨front, behind, t, hpath, -⟩
    simp at hpath
  | cons name rest ih =>
    cases rest with
    | nil => exact iff_of_false nofun not_blocks_singleton
    | cons next rest =>
      rw [blocks_cons_iff, part?_singleton]
      have hlead {inner : Nat} (hfind : g.find? n (.str name) = some inner) :
          (fun q => g.part? n (name :: q)) = g.part? inner := by
        funext q
        rw [part?_cons, hfind]
        rfl
      cases step g n name next rest k with
      | made hnull heq =>
        rw [heq]
        refine iff_of_false ?_ ?_
        · exact mt (ih (cell_open_ hc name)).mp (not_blocks_of_none (part?_of_empty (cell_open_ hc name)))
        · rintro (⟨t, ht, hpasses, -⟩ | hblocks)
          · exact hpasses (.inl (hnull t ht))
          · refine not_blocks_of_none (fun first q => ?_) hblocks
            cases hfind : g.find? n (.str name) with
            | none => rw [part?_cons, hfind]; rfl
            | some inner =>
              rw [show g.part? n (name :: first :: q) = g.part? inner (first :: q) from congrFun (hlead hfind) _]
              refine part?_cons_of_notDict (fun pairs hinner => ?_) first q
              cases (hnull inner hfind).symm.trans hinner
      | @inside inner pairs' hfind hc' heq =>
        rw [heq, ih hc', hlead hfind]
        refine ⟨.inr, ?_⟩
        rintro (⟨t, ht, hpasses, -⟩ | hblocks)
        · cases hfind.symm.trans ht
          exact absurd (.inr ⟨pairs', hc'⟩) hpasses
        · exact hblocks
      | @blocked inner hfind hpasses heq =>
        rw [heq, hlead hfind]
        constructor
        · rintro ⟨⟩
          exact .inl ⟨inner, hfind, hpasses, rfl⟩
        · rintro (⟨t, -, -, rfl⟩ | hblocks)
          · rfl
          · refine absurd hblocks (not_blocks_of_none (part?_cons_of_notDict fun pairs hinner => ?_))
            exact hpasses (.inr ⟨pairs, hinner⟩)

/-- A failure leaves the graph as it was. -/
theorem setInPlace_fst_of_failure (hc : g.cell n = .dict pairs) (h : (g.setInPlace n p k).2 = some part) :
    (g.setInPlace n p k).1 = g := by
  induction p generalizing g n pairs with
  | nil => rfl
  | cons name rest ih =>
    cases rest with
    | nil => cases h
    | cons next rest =>
      cases step g n name next rest k with
      | made hnull heq =>
        -- in the mapping that was made nothing is in the way
        have hmade := cell_open_ hc name
        rw [heq] at h
        exact absurd ((setInPlace_snd_eq_some_iff hmade).mp h) (not_blocks_of_none (part?_of_empty hmade))
      | inside hfind hc' heq =>
        rw [heq] at h ⊢
        exact ih hc' h
      | blocked hfind hpasses heq => rw [heq]

/-! ### What a success changes -/

/-- Putting a part at a place below a mapping on the way is putting it at the rest of the way from there. -/
theorem setAt_append {front rest : List String} {at_ : Nat} (hfront : g.part? n front = some at_)
    (hat : g.cell at_ = .dict pairs) (hrest : rest ≠ []) : g.setAt n (front ++ rest) k = g.setAt at_ rest k := by
  induction front generalizing n with
  | nil => rw [Option.some.inj hfront, List.nil_append]
  | cons name front ih =>
    obtain ⟨inner, hinner, hfront⟩ := Option.bind_eq_some_iff.mp hfront
    have hdict : ∃ pairs, g.cell inner = .dict pairs := by
      cases front with
      | nil => exact ⟨pairs, Option.some.inj hfront ▸ hat⟩
      | cons first front =>
        obtain ⟨next, hnext, -⟩ := Option.bind_eq_some_iff.mp hfront
        exact exists_dict_of_find? hnext
    obtain ⟨pairs', hc⟩ := hdict
    rw [← ih hfront]
    obtain ⟨next, behind, hsplit⟩ := List.exists_cons_of_ne_nil (List.append_ne_nil_of_right_ne_nil front hrest)
    rw [List.cons_append, hsplit]
    cases step g n name next behind k with
    | made hnull =>
      cases (hnull inner hinner).symm.trans hc
    | inside hfind _ _ hset =>
      cases hinner.symm.trans hfind
      exact hset
    | blocked hfind hpasses =>
      cases hinner.symm.trans hfind
      exact absurd (.inr ⟨pairs', hc⟩) hpasses

/-- Where a mapping is made under a name, that name leads to it, and the others lead where they led. -/
theorem find?_setAt_open_ (hg : g.Closed) (hc : g.cell n = .dict pairs) (hk : k < g.size) {rest : List String}
    (hrest : rest ≠ []) (hset : (g.open_ n name).setAt (g.size + 1) rest k = .ok g') (other : String) :
    g'.find? n (.str other) = if other = name then some (g.size + 1) else g.find? n (.str other) := by
  have hmade := cell_open_ hc name
  have hopen := relinked_open_ hg hc name
  have hn := lt_size_of_dict hc
  have hsize := size_open_ g n name
  obtain ⟨front, last, behind, at_, top, -, hfront, -, hr, -⟩ :=
    setAt_relinks (closed_open_ hg hc name) hmade (by omega) hrest hset
  cases front with
  | cons first front => cases (part?_of_empty hmade first front).symm.trans hfront
  | nil =>
    cases hfront
    rw [hr.find?_eq n (by omega) other (by omega)]
    split
    · next heq => rw [heq, hopen.find?_self]
    · next hne => exact hopen.find?_eq n hn other fun he => hne he.2

/-- From a mapping that was empty only the way to the place leads anywhere. -/
theorem part?_setAt_of_empty (hg : g.Closed) (hc : g.cell n = .dict []) (hk : k < g.size)
    (hset : g.setAt n p k = .ok g') (hq : Apart q p) : g'.part? n q = none := by
  induction p generalizing g n q with
  | nil => exact absurd hq.symm Apart.not_nil
  | cons name rest ih =>
    cases q with
    | nil => exact absurd hq Apart.not_nil
    | cons first q =>
      cases rest with
      | nil =>
        have hne : first ≠ name := by
          rintro rfl
          exact hq.notDown (List.cons_prefix_cons.mpr ⟨rfl, q.nil_prefix⟩)
        rw [setAt_singleton] at hset
        cases hset
        have hr := relinked_link hg hc name k
        rw [part?_cons, hr.find?_eq n (lt_size_of_dict hc) first fun he => hne he.2, find?_of_dict hc]
        rfl
      | cons next rest =>
        have hmade := cell_open_ hc name
        have hsize := size_open_ g n name
        rcases setAt_cons hset with ⟨inner, pairs, hinner, -⟩ | ⟨-, hset⟩
        · rw [find?_of_dict hc] at hinner
          cases hinner
        · rw [part?_cons, find?_setAt_open_ hg hc hk (List.cons_ne_nil _ _) hset]
          split
          · next heq =>
            subst heq
            exact ih (closed_open_ hg hc first) hmade (by omega) hset hq.of_cons
          · rw [find?_of_dict hc]
            rfl

/-- Whether a mapping is the last one on the way to a place, which goes on with a name from there. -/
structure IsLast (g : Graph) (n : Nat) (front : List String) (name : String) (behind : List String) (at_ : Nat) :
    Prop where
  way : g.part? n front = some at_
  mapping : ∃ pairs, g.cell at_ = .dict pairs
  last : behind ≠ [] → ∀ inner pairs, g.find? at_ (.str name) = some inner → g.cell inner ≠ .dict pairs

/-- Whether a way comes to a part only where the way `front` does. -/
def MeetsAt (g : Graph) (n : Nat) (front : List String) (at_ : Nat) (q : List String) : Prop :=
  ∀ f, IsAbove f q → g.part? n f = some at_ → f = front

section

variable {front behind : List String} {at_ top : Nat} (hr : Relinked g g' at_ name top) (hg : g.Closed)
  (hc : g.cell n = .dict pairs) (hfront : g.part? n front = some at_)
include hr hg hc hfront

/-- The way to the mapping stays. -/
theorem Relinked.part?_front (hmeets : g.MeetsAt n front at_ q) (hbelow : front <+: q) (hne : front ≠ q) :
    g'.part? n front = some at_ := by
  rw [hr.part? hg (lt_size_of_dict hc) fun f hf hat => ?_, hfront]
  exact (IsAbove.of_concat hf).ne (hmeets f (IsAbove.trans_left ⟨hbelow, hne⟩ (IsAbove.of_concat hf).isPrefix) hat)

/-- A way either does not take the name, or goes on to the new part. -/
theorem Relinked.part?_eq_or (hmeets : g.MeetsAt n front at_ q) : g'.part? n q = g.part? n q ∨
    ∃ rest, q = front ++ name :: rest ∧ g'.part? n q = g'.part? top rest := by
  by_cases htakes : ∃ f, f ++ [name] <+: q ∧ g.part? n f = some at_
  · obtain ⟨f, hf, hat⟩ := htakes
    obtain rfl := hmeets f (.of_concat hf) hat
    have hway := hr.part?_front hg hc hfront hmeets (IsAbove.of_concat hf).isPrefix (IsAbove.of_concat hf).ne
    obtain ⟨rest, rfl⟩ := hf
    refine .inr ⟨rest, by rw [List.append_assoc]; rfl, ?_⟩
    rw [List.append_assoc, part?_append, hway]
    change (g'.find? at_ (.str name)).bind _ = _
    rw [hr.find?_self]
    rfl
  · exact .inl (hr.part? hg (lt_size_of_dict hc) fun f hf hat => htakes ⟨f, hf, hat⟩)

end

/-- What is left when a part was put at a place: the last mapping on the way has changed and nothing else. The
place leads to the part, and a place apart leads where it led, to nothing as well, unless the ways there come to
that mapping elsewhere, too. -/
structure IsPut (g g' : Graph) (n : Nat) (p : List String) (k : Nat) (front : List String) (at_ : Nat) : Prop where
  others : ∀ m < g.size, m ≠ at_ → g'.cell m = g.cell m
  self : g.MeetsAt n front at_ p → g'.part? n p = some k
  apart : ∀ q, Apart q p → g.MeetsAt n front at_ q → g'.part? n q = g.part? n q

theorem isPut_setAt (hg : g.Closed) (hc : g.cell n = .dict pairs) (hk : k < g.size) (hp : p ≠ [])
    (hset : g.setAt n p k = .ok g') : ∃ front name behind at_, p = front ++ name :: behind ∧
      g.IsLast n front name behind at_ ∧ IsPut g g' n p k front at_ := by
  obtain ⟨front, name, behind, at_, top, rfl, hfront, hdict, hr, htop, hnew⟩ := setAt_relinks hg hc hk hp hset
  refine ⟨front, name, behind, at_, rfl, ⟨hfront, hdict, hnew⟩, hr.cell_eq, fun hmeets => ?_,
    fun q hq hmeets => ?_⟩
  · have habove := isAbove_append front name behind
    rw [part?_append, hr.part?_front hg hc hfront hmeets habove.isPrefix habove.ne]
    change (g'.find? at_ (.str name)).bind _ = _
    rw [hr.find?_self]
    exact htop
  · rcases hr.part?_eq_or hg hc hfront hmeets with hsame | ⟨rest, rfl, hrest⟩
    · exact hsame
    · obtain ⟨pairs', hat⟩ := hdict
      have hq : Apart rest behind := hq.of_append.of_cons
      cases behind with
      | nil => exact absurd hq.symm Apart.not_nil
      | cons next behind =>
        cases rest with
        | nil => exact absurd hq Apart.not_nil
        | cons first rest =>
          -- nothing was behind the name, and the mapping made there leads to the part only
          have hnone : g.part? n (front ++ name :: first :: rest) = none := by
            rw [part?_append, hfront]
            change (g.find? at_ (.str name)).bind _ = none
            cases hinner : g.find? at_ (.str name) with
            | none => rfl
            | some inner =>
              exact part?_cons_of_notDict (fun pairs => hnew (List.cons_ne_nil _ _) inner pairs hinner) first rest
          rw [setAt_append hfront hat (List.cons_ne_nil _ _)] at hset
          rcases setAt_cons hset with ⟨inner, pairs, hinner, hdict, -⟩ | ⟨-, hset⟩
          · exact absurd hdict (hnew (List.cons_ne_nil _ _) inner pairs hinner)
          · have htop := find?_setAt_open_ hg hat hk (List.cons_ne_nil _ _) hset name
            rw [hr.find?_self, if_pos rfl, Option.some.injEq] at htop
            have hsize := size_open_ g at_ name
            rw [hrest, hnone, htop]
            exact part?_setAt_of_empty (closed_open_ hg hat name) (cell_open_ hat name) (by omega) hset hq

end Graph

namespace Config

open Mapping (get? insert)

/-- Putting a value at a place fails exactly if a key in front of the last one leads to something that is neither
nothing nor a mapping, tells that key, and leaves everything as it was. Else the place leads to the
value, and each place apart leads where it led. Where mappings may stand in several places, one mapping changes,
and these two hold of all places to which the ways do not come to it elsewhere. -/
theorem setting_exact {p : List String} (hp : p ≠ []) :
    (∀ (m : Mapping) (v : Value), match setInPlace p m v with
      | (m', some part) => setAt p m v = .error (.config (.throughScalar part p)) ∧ m' = m ∧
          Blocks (Value.dict m).at? Value.Passes p part
      | (m', none) => setAt p m v = .ok m' ∧ (∀ part, ¬Blocks (Value.dict m).at? Value.Passes p part) ∧
          (Value.dict m').at? p = some v ∧ ∀ q, Apart q p → (Value.dict m').at? q = (Value.dict m).at? q) ∧
    ∀ (g : Graph) (n k : Nat) (pairs : List (Nat × Nat)), g.Closed → g.cell n = .dict pairs → k < g.size →
      match g.setInPlace n p k with
      | (g', some part) => g.setAt n p k = .error part ∧ g' = g ∧ Blocks (g.part? n) g.Passes p part
      | (g', none) => g.setAt n p k = .ok g' ∧ (∀ part, ¬Blocks (g.part? n) g.Passes p part) ∧
          ∃ front name behind at_, p = front ++ name :: behind ∧ g.IsLast n front name behind at_ ∧
            Graph.IsPut g g' n p k front at_ := by
  refine ⟨fun m v => ?_, fun g n k pairs hg hc hk => ?_⟩
  · have hset : setAt p m v = _ := setNested_eq p p m v
    have hblocks (part : String) : (setInPlace p m v).2 = some part ↔
        Blocks (Value.dict m).at? Value.Passes p part := setInPlace_snd_eq_some_iff
    have hsame (part : String) : (setInPlace p m v).2 = some part → (setInPlace p m v).1 = m :=
      setInPlace_fst_of_failure
    rcases hput : setInPlace p m v with ⟨m', _ | part⟩
    · rw [hput] at hset hblocks
      refine ⟨hset, fun part => mt (hblocks part).mpr nofun, at?_setNested hp hset, fun q hq => ?_⟩
      exact at?_setNested_of_apart hq hset
    · rw [hput] at hset hblocks hsame
      exact ⟨hset, hsame part rfl, (hblocks part).mp rfl⟩
  · have hset := g.setAt_eq n p k
    have hblocks (part : String) : (g.setInPlace n p k).2 = some part ↔
        Blocks (g.part? n) g.Passes p part := Graph.setInPlace_snd_eq_some_iff hc
    have hsame (part : String) : (g.setInPlace n p k).2 = some part → (g.setInPlace n p k).1 = g :=
      Graph.setInPlace_fst_of_failure hc
    rcases hput : g.setInPlace n p k with ⟨g', _ | part⟩
    · rw [hput] at hset hblocks
      exact ⟨hset, fun part => mt (hblocks part).mpr nofun, Graph.isPut_setAt hg hc hk hp hset⟩
    · rw [hput] at hset hblocks hsame
      exact ⟨hset, hsame part rfl, (hblocks part).mp rfl⟩

/-- A graph in which the mappings under `x` and `y` are the same mapping. -/
def twice : Graph :=
  ⟨#[.dict [(1, 2), (3, 2)], .scalar (.str "x"), .dict [(4, 5)], .scalar (.str "y"), .scalar (.str "ttl"),
    .scalar (.int 60)]⟩

theorem closed_twice : twice.Closed := by
  have hall : ∀ n < 6, ∀ k ∈ (twice.cell n).parts, k < 6 := by decide
  intro n k hk
  rcases Nat.lt_or_ge n 6 with hn | hn
  · exact hall n hn k hk
  · rw [Graph.cell_of_size_le hn] at hk
    cases hk

theorem setting_exact_ttl :
    setAt ["x", "ttl"] [(.str "x", .int 1)] (.int 5) = .error (.config (.throughScalar "x" ["x", "ttl"])) ∧
      setAt ["x", "ttl"] [(.str "x", .null)] (.int 5) = .ok [(.str "x", .dict [(.str "ttl", .int 5)])] ∧
      ∃ g', twice.setAt 0 ["x", "ttl"] 5 = .ok g' := by
  obtain ⟨hplain, hgraph⟩ := setting_exact (List.cons_ne_nil "x" ["ttl"])
  exact ⟨(hplain [(.str "x", .int 1)] (.int 5)).1, (hplain [(.str "x", .null)] (.int 5)).1, _,
    (hgraph twice 0 5 _ closed_twice rfl (by decide)).1⟩

/-- A value put into a mapping that stands in two places is seen in both. -/
theorem setting_seen_elsewhere : Apart ["y", "ttl"] ["x", "ttl"] ∧
    (Layer.shared twice 0).at? ["y", "ttl"] = some (.int 60) ∧
    ∃ l, setInLayer ["x", "ttl"] (.int 5) (.shared twice 0) = .ok l ∧ l.at? ["y", "ttl"] = some (.int 5) :=
  ⟨by decide, rfl, _, rfl, rfl⟩

end Config

end Stencil
