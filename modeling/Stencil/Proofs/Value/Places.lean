import Stencil.Config.Override
import Stencil.Proofs.Mapping

/-! Places in values. A place is named by the keys on the way to it, most of them names, and the way goes through
mappings only. These lemmas say what stands at a place after a value was merged over another one, and after a value
was put at some place. -/
namespace Stencil

/-- The value at a place. -/
def Value.at? : Value → List String → Option Value
  | v, [] => some v
  | .dict m, name :: rest => (Mapping.get? m (.str name)).bind fun v => v.at? rest
  | _, _ :: _ => none

/-- The value that keys lead to. -/
def Value.follow? : Value → List Scalar → Option Value
  | v, [] => some v
  | .dict m, key :: rest => (Mapping.get? m key).bind fun v => v.follow? rest
  | _, _ :: _ => none

/-- Whether a value is neither a list nor a mapping. A knot is one of the two. -/
def Value.isLeaf : Value → Bool
  | .list _ | .dict _ | .knot _ _ => false
  | .scalar _ | .tuple _ | .set _ => true

/-- Whether neither of two places is on the way to the other, or the same. -/
structure Apart (p q : List String) : Prop where
  notUp : ¬ p <+: q
  notDown : ¬ q <+: p

instance (p q : List String) : Decidable (Apart p q) :=
  decidable_of_iff (¬ p <+: q ∧ ¬ q <+: p) ⟨fun h => ⟨h.1, h.2⟩, fun h => ⟨h.notUp, h.notDown⟩⟩

namespace Apart

theorem symm {p q : List String} (h : Apart p q) : Apart q p := ⟨h.notDown, h.notUp⟩

theorem not_nil {q : List String} : ¬ Apart [] q := fun h => h.notUp q.nil_prefix

theorem of_cons {name : String} {p q : List String} (h : Apart (name :: p) (name :: q)) : Apart p q where
  notUp hp := h.notUp (List.cons_prefix_cons.mpr ⟨rfl, hp⟩)
  notDown hq := h.notDown (List.cons_prefix_cons.mpr ⟨rfl, hq⟩)

end Apart

namespace Mapping

/-- A key has the value of the later mapping, merged over the value of the earlier one if both have one. -/
theorem get?_mergeOver {later : Mapping} (h : (keys later).Nodup) (base : Mapping) {key : Scalar}
    (hself : key.key.equalsItself = true) : get? (mergeOver base later) key =
      match get? later key, get? base key with
      | none, old => old
      | some v, none => some v
      | some v, some old => some (mergeValue old v) := by
  induction later generalizing base with
  | nil => rw [mergeOver_nil]; rfl
  | cons p later ih =>
    obtain ⟨k, v⟩ := p
    obtain ⟨honce, htail⟩ := nodup_keys_cons_iff.mp h
    have ih := ih htail
    by_cases hk : k.key = key.key
    · have hlater : get? later key = none := get?_eq_none_of_notMem hself (hk ▸ honce (hk ▸ hself))
      have hold : get? base k = get? base key := get?_congr hk base
      have hnew : get? ((k, v) :: later) key = some v := by rw [← get?_congr hk, get?_cons_self]
      rw [mergeOver, hold, hnew]
      cases get? base key <;> simp only [ih, hlater, get?_insert, if_pos hk]
    · rw [mergeOver, get?_cons_of_ne hk]
      cases get? base k <;> simp only [ih, get?_insert, if_neg hk]

end Mapping

namespace Value

@[simp] theorem at?_nil (v : Value) : v.at? [] = some v := by
  unfold at?; rfl

@[simp] theorem at?_dict (m : Mapping) (name : String) (p : List String) :
    (dict m).at? (name :: p) = (Mapping.get? m (.str name)).bind (·.at? p) := rfl

/-- A way of at least one step begins at a mapping. -/
theorem at?_cons_eq_some {v w : Value} {name : String} {p : List String}
    (h : v.at? (name :: p) = some w) :
    ∃ m u, v = dict m ∧ Mapping.get? m (.str name) = some u ∧ u.at? p = some w := by
  cases v with
  | dict m =>
    obtain ⟨u, hu, hw⟩ := Option.bind_eq_some_iff.mp h
    exact ⟨m, u, rfl, hu, hw⟩
  | _ => cases h

@[simp] theorem follow?_nil (v : Value) : v.follow? [] = some v := by
  unfold follow?; rfl

@[simp] theorem follow?_dict (m : Mapping) (key : Scalar) (p : List Scalar) :
    (dict m).follow? (key :: p) = (Mapping.get? m key).bind (·.follow? p) := rfl

/-- Keys lead from a mapping on. -/
theorem follow?_cons_eq_some {v w : Value} {key : Scalar} {p : List Scalar} (h : v.follow? (key :: p) = some w) :
    ∃ m u, v = dict m ∧ Mapping.get? m key = some u ∧ u.follow? p = some w := by
  cases v with
  | dict m =>
    obtain ⟨u, hu, hw⟩ := Option.bind_eq_some_iff.mp h
    exact ⟨m, u, rfl, hu, hw⟩
  | _ => cases h

/-- Whether each mapping that keys lead to lists each key once. -/
def KeysOnce (v : Value) : Prop := ∀ p m, v.follow? p = some (dict m) → (Mapping.keys m).Nodup

/-- Whether a value says nothing of a place: the way to it leads through mappings, and ends where one of them
does not have the next name. -/
structure Spares (v : Value) (p : List String) : Prop where
  none : v.at? p = none
  mapping : ∀ q w, q <+: p → v.at? q = some w → ∃ m, w = dict m

theorem KeysOnce.nodup {m : Mapping} (h : (dict m).KeysOnce) : (Mapping.keys m).Nodup := h [] m (follow?_nil _)

theorem KeysOnce.get? {m : Mapping} (h : (dict m).KeysOnce) {key : Scalar} {v : Value}
    (hv : Mapping.get? m key = some v) : v.KeysOnce := by
  intro p later hp
  refine h (key :: p) later ?_
  rw [follow?_dict, hv]
  exact hp

theorem not_spares_nil (v : Value) : ¬ v.Spares [] := by
  intro h
  have hnone := h.none
  rw [at?_nil] at hnone
  cases hnone

theorem Spares.exists_dict {v : Value} {p : List String} (h : v.Spares p) : ∃ m, v = dict m :=
  h.mapping [] v p.nil_prefix (at?_nil v)

theorem Spares.get? {m : Mapping} {name : String} {p : List String} (h : (dict m).Spares (name :: p))
    {v : Value} (hv : Mapping.get? m (.str name) = some v) : v.Spares p where
  none := by
    have hnone := h.none
    rwa [at?_dict, hv] at hnone
  mapping q w hq hw := by
    refine h.mapping (name :: q) w (List.cons_prefix_cons.mpr ⟨rfl, hq⟩) ?_
    rw [at?_dict, hv]
    exact hw

/-! ### Merging -/

theorem mergeValue_dict_dict (base later : Mapping) :
    mergeValue (dict base) (dict later) = dict (mergeOver base later) := by
  rw [mergeValue]; rfl

/-- What is neither a list nor a mapping takes the place of what was there. -/
theorem at?_mergeValue_of_leaf {old new v : Value} {p : List String} (hkeys : new.KeysOnce)
    (h : new.at? p = some v) (hleaf : v.isLeaf = true) : (mergeValue old new).at? p = some v := by
  induction p generalizing old new with
  | nil =>
    rw [at?_nil, Option.some.injEq] at h
    subst h
    cases new with
    | scalar | tuple | set => simp [mergeValue]
    | list | dict | knot => cases hleaf
  | cons name p ih =>
    obtain ⟨later, u, rfl, hu, hv⟩ := at?_cons_eq_some h
    rw [mergeValue]
    split
    · next base _ =>
      rw [at?_dict, Mapping.get?_mergeOver hkeys.nodup _ rfl, hu]
      cases Mapping.get? base (.str name) with
      | none => exact hv
      | some o => exact ih (hkeys.get? hu) hv
    · exact h

/-- What was there stays where the later value says nothing of the place. -/
theorem at?_mergeValue_of_spares {old new v : Value} {p : List String} (hkeys : new.KeysOnce)
    (h : old.at? p = some v) (hspares : new.Spares p) : (mergeValue old new).at? p = some v := by
  induction p generalizing old new with
  | nil => exact absurd hspares (not_spares_nil new)
  | cons name p ih =>
    obtain ⟨later, rfl⟩ := hspares.exists_dict
    obtain ⟨base, o, rfl, ho, hv⟩ := at?_cons_eq_some h
    rw [mergeValue_dict_dict, at?_dict, Mapping.get?_mergeOver hkeys.nodup _ rfl, ho]
    cases hlater : Mapping.get? later (.str name) with
    | none => exact hv
    | some w => exact ih (hkeys.get? hlater) hv (hspares.get? hlater)

end Value

/-! ### Putting a value at a place -/

namespace Config

open Mapping (get? get?_insert)

variable {path p : List String} {m m' : Mapping} {v : Value}

/-- On the way to a place the mapping under the first name is changed; it is empty if nothing is there. -/
theorem setNested_cons {name next : String} {rest : List String}
    (h : setNested path (name :: next :: rest) m v = .ok m') :
    ∃ inner inner', (get? m (.str name) = some (.dict inner) ∨
        (get? m (.str name)).getD .null = .null ∧ inner = []) ∧
      setNested path (next :: rest) inner v = .ok inner' ∧
      m' = Mapping.insert m (.str name) (.dict inner') := by
  have hinner (inner : Mapping) (h : (setNested path (next :: rest) inner v).map
      (fun inner => Mapping.insert m (.str name) (.dict inner)) = .ok m') :
      ∃ inner', setNested path (next :: rest) inner v = .ok inner' ∧
        m' = Mapping.insert m (.str name) (.dict inner') := by
    cases hset : setNested path (next :: rest) inner v with
    | error e =>
      rw [hset] at h
      cases h
    | ok inner' =>
      rw [hset] at h
      exact ⟨inner', rfl, (Except.ok.inj h).symm⟩
  rw [setNested] at h
  · split at h
    · next hnull =>
      obtain ⟨inner', hset, hm⟩ := hinner [] h
      exact ⟨[], inner', .inr ⟨hnull, rfl⟩, hset, hm⟩
    · next inner hget =>
      obtain ⟨inner', hset, hm⟩ := hinner inner h
      refine ⟨inner, inner', .inl ?_, hset, hm⟩
      cases hm : get? m (.str name) with
      | none =>
        rw [hm] at hget
        cases hget
      | some w =>
        rw [hm] at hget
        exact congrArg some hget
    · cases h
  · exact List.cons_ne_nil _ _

/-- A value that is put at a place is there. -/
theorem at?_setNested (hp : p ≠ []) (h : setNested path p m v = .ok m') :
    (Value.dict m').at? p = some v := by
  induction p generalizing m m' with
  | nil => exact absurd rfl hp
  | cons name rest ih =>
    cases rest with
    | nil =>
      cases h
      rw [Value.at?_dict, get?_insert, if_pos rfl]
      exact Value.at?_nil v
    | cons next rest =>
      obtain ⟨inner, inner', -, hset, rfl⟩ := setNested_cons h
      rw [Value.at?_dict, get?_insert, if_pos rfl]
      exact ih (List.cons_ne_nil _ _) hset

/-- What stands apart from the place stays, and where nothing was nothing comes. -/
theorem at?_setNested_of_apart {q : List String} (hq : Apart q p) (h : setNested path p m v = .ok m') :
    (Value.dict m').at? q = (Value.dict m).at? q := by
  induction p generalizing m m' q with
  | nil => exact absurd hq.symm Apart.not_nil
  | cons name rest ih =>
    cases q with
    | nil => exact absurd hq Apart.not_nil
    | cons other q =>
      have hinsert (w : Value) (hne : name ≠ other) :
          (Value.dict (Mapping.insert m (.str name) w)).at? (other :: q) = (Value.dict m).at? (other :: q) := by
        rw [Value.at?_dict, get?_insert, if_neg fun he => hne (by simpa using he), Value.at?_dict]
      cases rest with
      | nil =>
        cases h
        refine hinsert v ?_
        rintro rfl
        exact hq.notDown (List.cons_prefix_cons.mpr ⟨rfl, q.nil_prefix⟩)
      | cons next rest =>
        obtain ⟨inner, inner', hinner, hset, rfl⟩ := setNested_cons h
        by_cases hne : name = other
        · subst hne
          rw [Value.at?_dict, get?_insert, if_pos rfl, Value.at?_dict]
          refine (ih hq.of_cons hset).trans ?_
          rcases hinner with hget | ⟨hnull, rfl⟩
          · rw [hget]
            rfl
          · -- nothing is in the mapping that is made, and nothing was there
            cases q with
            | nil => exact absurd hq.of_cons Apart.not_nil
            | cons first q =>
              cases hget : get? m (.str name) with
              | none => rfl
              | some w =>
                rw [hget, Option.getD_some] at hnull
                subst hnull
                rfl
        · exact hinsert _ hne

end Config

end Stencil
