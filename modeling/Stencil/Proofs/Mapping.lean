import Stencil.Value.Basic

/-! Keys of mappings: what a mapping holds under a key, and under a name above all, after changes of it. -/
namespace Stencil

namespace Scalar

variable {α β : Type} {f : α → Scalar} {g : β → Scalar} {x : α} {xs : List α} {ys : List β} {c : Key}

/-- What keys count as, of those that are equal to themselves. -/
def keysOf (f : α → Scalar) (xs : List α) : List Key := (xs.map fun x => (f x).key).filter Key.equalsItself

theorem mem_keysOf_iff : c ∈ keysOf f xs ↔ (∃ x ∈ xs, (f x).key = c) ∧ c.equalsItself = true := by
  simp [keysOf]

theorem nodup_keysOf_cons_iff : (keysOf f (x :: xs)).Nodup ↔
    ((f x).key.equalsItself = true → (f x).key ∉ keysOf f xs) ∧ (keysOf f xs).Nodup := by
  rw [keysOf, List.map_cons, List.filter_cons]
  split
  · next hself =>
    change ((f x).key :: keysOf f xs).Nodup ↔ _
    simp [hself]
  · next hself => exact (and_iff_right fun h => absurd h hself).symm

theorem keysOf_eq_of_map_eq (h : xs.map f = ys.map g) : keysOf f xs = keysOf g ys := by
  have hcounts := congrArg (List.map key) h
  rw [List.map_map, List.map_map] at hcounts
  exact congrArg (List.filter Key.equalsItself) hcounts

end Scalar

namespace Mapping

theorem lookup_filter_key {κ α : Type} [BEq κ] [LawfulBEq κ] (p : κ → Bool) (entries : List (κ × α))
    (key : κ) :
    (entries.filter fun e => p e.1).lookup key = if p key then entries.lookup key else none := by
  induction entries with
  | nil => simp
  | cons e entries ih =>
    obtain ⟨k, kept⟩ := e
    simp only [List.filter_cons, List.lookup_cons]
    by_cases hk : key = k
    · subst hk
      cases hp : p key <;> simp [hp, ih]
    · have hne : (key == k) = false := by simpa using hk
      cases hp : p k <;> simp [List.lookup_cons, hne, ih]

/-- A key is the same as a name only if it is that name. -/
theorem sameKey_name_iff {k : Scalar} {name : String} : k.sameKey (.str name) = true ↔ k = .str name :=
  Scalar.sameKey_iff.trans Scalar.key_eq_str_iff

theorem sameKey_comm (a b : Scalar) : a.sameKey b = b.sameKey a := Bool.beq_comm

theorem contains_insert (m : Mapping) (k : Scalar) (v : Value) (key : Scalar) :
    Mapping.contains (insert m k v) key = (k.sameKey key || Mapping.contains m key) := by
  induction m with
  | nil => simp [insert, Mapping.contains]
  | cons p m ih =>
    obtain ⟨old, w⟩ := p
    simp only [Mapping.contains] at ih ⊢
    rw [insert]
    split
    · next hsame =>
      have hold : old.sameKey key = k.sameKey key := by
        rw [Scalar.sameKey, Scalar.sameKey, Scalar.sameKey_iff.mp hsame]
      rw [List.any_cons, List.any_cons, hold]
      simp
    · rw [List.any_cons, List.any_cons, ih, Bool.or_left_comm]

theorem contains_overlay (m later : Mapping) (key : Scalar) :
    Mapping.contains (overlay m later) key = (Mapping.contains later key || Mapping.contains m key) := by
  induction later generalizing m with
  | nil => rfl
  | cons p later ih =>
    change Mapping.contains (overlay (insert m p.1 p.2) later) key = _
    rw [ih, contains_insert, ← Bool.or_assoc]
    congr 1
    exact Bool.or_comm _ _

/-- A name that is not erased keeps its value. -/
theorem get?_erase (m : Mapping) {erased name : String} (h : name ≠ erased) :
    get? (erase m (.str erased)) (.str name) = get? m (.str name) := by
  induction m with
  | nil => rfl
  | cons p m ih =>
    obtain ⟨k, v⟩ := p
    simp only [get?, erase] at ih ⊢
    by_cases hk : k.sameKey (.str erased) = true
    · have hname : k.sameKey (.str name) = false := by
        rw [sameKey_name_iff.mp hk]
        simpa using Ne.symm h
      rw [List.filter_cons_of_neg (by simp [hk]), ih, List.find?_cons]
      simp only [hname]
    · rw [List.filter_cons_of_pos (by simp [hk]), List.find?_cons, List.find?_cons]
      split
      · rfl
      · exact ih

/-- A key that is erased has no value. -/
theorem get?_erase_self (m : Mapping) (key : Scalar) : get? (erase m key) key = none := by
  rw [get?, Option.map_eq_none_iff, List.find?_eq_none]
  intro p hp
  simpa using (List.mem_filter.mp hp).2

/-- A mapping contains the names that it has a value for. -/
theorem contains_eq_isSome (m : Mapping) (key : Scalar) :
    Mapping.contains m key = (get? m key).isSome := by
  induction m with
  | nil => rfl
  | cons p m ih =>
    simp only [Mapping.contains, get?] at ih ⊢
    rw [List.any_cons, List.find?_cons]
    cases p.1.sameKey key with
    | true => rfl
    | false => simpa using ih

theorem get?_cons_self (key : Scalar) (v : Value) (m : Mapping) : get? ((key, v) :: m) key = some v := by
  simp [get?, Scalar.sameKey]

theorem get?_cons_of_ne {k key : Scalar} (h : k.key ≠ key.key) (v : Value) (m : Mapping) :
    get? ((k, v) :: m) key = get? m key := by
  simp [get?, Scalar.sameKey, h]

/-- Keys that count as the same have the same value. -/
theorem get?_congr {k key : Scalar} (h : k.key = key.key) (m : Mapping) : get? m k = get? m key := by
  simp only [get?, Scalar.sameKey, h]

/-- A key has the value that was put under it last. -/
theorem get?_insert (m : Mapping) (k : Scalar) (v : Value) (key : Scalar) :
    get? (insert m k v) key = if k.key = key.key then some v else get? m key := by
  induction m with
  | nil =>
    rw [insert]
    split
    · next hk => rw [← get?_congr hk, get?_cons_self]
    · next hk => rw [get?_cons_of_ne hk]
  | cons p m ih =>
    obtain ⟨old, w⟩ := p
    rw [insert]
    by_cases hold : old.key = key.key
    · have hvalue : get? ((old, w) :: m) key = some w := by rw [← get?_congr hold, get?_cons_self]
      split
      · next hsame =>
        rw [← get?_congr hold, get?_cons_self, if_pos ((Scalar.sameKey_iff.mp hsame).symm.trans hold)]
      · next hdiffers =>
        have hk : k.key ≠ key.key := fun hk => hdiffers (Scalar.sameKey_iff.mpr (hold.trans hk.symm))
        rw [if_neg hk, hvalue, ← get?_congr hold, get?_cons_self]
    · split
      · next hsame =>
        have hk : k.key ≠ key.key := fun hk => hold ((Scalar.sameKey_iff.mp hsame).trans hk)
        rw [get?_cons_of_ne hold, if_neg hk, get?_cons_of_ne hold]
      · rw [get?_cons_of_ne hold, ih, get?_cons_of_ne hold]

/-! ### Keys that are listed once -/

/-- What the keys of a mapping count as, of those that are equal to themselves. -/
def keys (m : Mapping) : List Key := Scalar.keysOf Prod.fst m

theorem mem_keys_iff {m : Mapping} {c : Key} : c ∈ keys m ↔ (∃ p ∈ m, p.1.key = c) ∧ c.equalsItself = true :=
  Scalar.mem_keysOf_iff

theorem nodup_keys_cons_iff {p : Scalar × Value} {m : Mapping} : (keys (p :: m)).Nodup ↔
    (p.1.key.equalsItself = true → p.1.key ∉ keys m) ∧ (keys m).Nodup := Scalar.nodup_keysOf_cons_iff

/-- A key that is none of those of a mapping has no value in it. -/
theorem get?_eq_none_of_notMem {m : Mapping} {key : Scalar} (hself : key.key.equalsItself = true)
    (h : key.key ∉ keys m) : get? m key = none := by
  rw [get?, Option.map_eq_none_iff, List.find?_eq_none]
  intro p hp hsame
  exact h (mem_keys_iff.mpr ⟨⟨p, hp, Scalar.sameKey_iff.mp hsame⟩, hself⟩)

theorem names_cons_name (name : String) (v : Value) (m : Mapping) :
    names ((.str name, v) :: m) = name :: names m := rfl

/-! ### Putting values in -/

theorem insert_insert (m : Mapping) (name : String) (v w : Value) :
    insert (insert m (.str name) v) (.str name) w = insert m (.str name) w := by
  induction m with
  | nil => simp [insert]
  | cons p m ih =>
    obtain ⟨k, old⟩ := p
    by_cases hk : k.sameKey (.str name) = true
    · simp [insert, hk]
    · simp [insert, hk, ih]

/-- A value put under a name that has it changes nothing. -/
theorem insert_of_get? {m : Mapping} {key : Scalar} {v : Value} (h : get? m key = some v) :
    insert m key v = m := by
  induction m with
  | nil => cases h
  | cons p m ih =>
    obtain ⟨k, old⟩ := p
    rw [insert]
    by_cases hk : k.sameKey key = true
    · rw [if_pos hk]
      simp only [get?, List.find?_cons, hk, Option.map_some, Option.some.injEq] at h
      rw [h]
    · rw [if_neg hk, ih]
      simpa [get?, List.find?_cons, hk] using h

theorem insert_of_not_contains {m : Mapping} {name : String} (h : Mapping.contains m (.str name) = false)
    (v : Value) : insert m (.str name) v = m ++ [(.str name, v)] := by
  induction m with
  | nil => rfl
  | cons p m ih =>
    obtain ⟨k, w⟩ := p
    rw [Mapping.contains, List.any_cons, Bool.or_eq_false_iff] at h
    have hk : ¬ k.sameKey (.str name) = true := by rw [h.1]; exact Bool.false_ne_true
    rw [insert, if_neg hk, ih h.2, List.cons_append]

theorem mem_insert {m : Mapping} {key : Scalar} {v : Value} {p : Scalar × Value} (h : p ∈ insert m key v) :
    p ∈ m ∨ p.2 = v := by
  induction m with
  | nil => exact .inr (by rw [List.mem_singleton.mp h])
  | cons q m ih =>
    rw [insert] at h
    split at h
    · rcases List.mem_cons.mp h with rfl | h
      · exact .inr rfl
      · exact .inl (List.mem_cons_of_mem _ h)
    · rcases List.mem_cons.mp h with rfl | h
      · exact .inl List.mem_cons_self
      · exact (ih h).imp_left (List.mem_cons_of_mem _)

/-- No key comes in but the one that a value is put under. -/
theorem key_of_mem_insert {m : Mapping} {key : Scalar} {v : Value} {p : Scalar × Value}
    (h : p ∈ insert m key v) : p.1 = key ∨ ∃ q ∈ m, q.1 = p.1 := by
  induction m with
  | nil => exact .inl (by rw [List.mem_singleton.mp h])
  | cons q m ih =>
    rw [insert] at h
    split at h
    · rcases List.mem_cons.mp h with rfl | h
      · exact .inr ⟨q, List.mem_cons_self, rfl⟩
      · exact .inr ⟨p, List.mem_cons_of_mem _ h, rfl⟩
    · rcases List.mem_cons.mp h with rfl | h
      · exact .inr ⟨q, List.mem_cons_self, rfl⟩
      · exact (ih h).imp_right fun ⟨r, hr, hkey⟩ => ⟨r, List.mem_cons_of_mem _ hr, hkey⟩

/-- Putting a value in leaves the keys as they are, or adds the one that is missing. -/
theorem nodup_keys_insert {m : Mapping} (h : (keys m).Nodup) (key : Scalar) (v : Value) :
    (keys (insert m key v)).Nodup := by
  induction m with
  | nil => exact nodup_keys_cons_iff.mpr ⟨fun _ => List.not_mem_nil, List.nodup_nil⟩
  | cons p m ih =>
    obtain ⟨old, w⟩ := p
    obtain ⟨honce, htail⟩ := nodup_keys_cons_iff.mp h
    rw [insert]
    split
    · exact nodup_keys_cons_iff.mpr ⟨honce, htail⟩
    · next hdiffers =>
      refine nodup_keys_cons_iff.mpr ⟨fun hself hmem => ?_, ih htail⟩
      obtain ⟨⟨q, hq, hkey⟩, -⟩ := mem_keys_iff.mp hmem
      rcases key_of_mem_insert hq with rfl | ⟨r, hr, hsame⟩
      · exact hdiffers (Scalar.sameKey_iff.mpr hkey.symm)
      · exact honce hself (mem_keys_iff.mpr ⟨⟨r, hr, (congrArg Scalar.key hsame).trans hkey⟩, hself⟩)

/-- Of two names that a mapping has, it makes no difference which one gets its value first; of the one that is put
in last it is enough to be there. -/
theorem insert_comm {m : Mapping} {name other : String} (hne : other ≠ name)
    (hname : Mapping.contains m (.str name) = true) (v w : Value) :
    insert (insert m (.str other) w) (.str name) v = insert (insert m (.str name) v) (.str other) w := by
  induction m with
  | nil => cases hname
  | cons p m ih =>
    obtain ⟨k, old⟩ := p
    by_cases hk : k = .str name
    · subst hk
      have hother : ¬(Scalar.str name).sameKey (.str other) = true := by simpa using hne.symm
      simp [insert, hother]
    · have hdiffers : ¬k.sameKey (.str name) = true := fun h => hk (sameKey_name_iff.mp h)
      by_cases hsame : k.sameKey (.str other) = true
      · simp [insert, hdiffers, hsame]
      · have hrest : Mapping.contains m (.str name) = true := by
          simpa [Mapping.contains, hdiffers] using hname
        simp [insert, hdiffers, hsame, ih hrest]

/-! ### Mappings of names -/

theorem keys_of_named {m : Mapping} (h : ∀ p ∈ m, ∃ name, p.1 = .str name) :
    keys m = (names m).map fun name => (Scalar.str name).key := by
  induction m with
  | nil => rfl
  | cons p m ih =>
    obtain ⟨k, v⟩ := p
    obtain ⟨name, rfl⟩ : ∃ name, k = .str name := h _ List.mem_cons_self
    rw [names_cons_name, List.map_cons, ← ih fun q hq => h q (List.mem_cons_of_mem _ hq)]
    rfl

/-- Where all keys are names, each is listed once if each name is. -/
theorem nodup_keys_iff_of_named {m : Mapping} (h : ∀ p ∈ m, ∃ name, p.1 = .str name) :
    (keys m).Nodup ↔ (names m).Nodup := by
  rw [keys_of_named h, List.Nodup, List.pairwise_map]
  simp [List.Nodup]

/-- Whether all keys of a mapping are names, and no name is there twice. -/
structure IsNamed (m : Mapping) : Prop where
  named : ∀ p ∈ m, ∃ name, p.1 = .str name
  once : (names m).Nodup

theorem isNamed_nil : IsNamed [] := ⟨nofun, List.nodup_nil⟩

theorem IsNamed.of_cons {p : Scalar × Value} {m : Mapping} (h : IsNamed (p :: m)) :
    ∃ name, p.1 = .str name ∧ name ∉ names m ∧ IsNamed m := by
  obtain ⟨k, v⟩ := p
  obtain ⟨name, rfl⟩ : ∃ name, k = .str name := h.named _ List.mem_cons_self
  have honce := h.once
  rw [names_cons_name, List.nodup_cons] at honce
  exact ⟨name, rfl, honce.1, fun p hp => h.named p (List.mem_cons_of_mem _ hp), honce.2⟩

theorem IsNamed.insert {m : Mapping} (h : IsNamed m) (name : String) (v : Value) :
    IsNamed (insert m (.str name) v) := by
  have hnamed : ∀ p ∈ Mapping.insert m (.str name) v, ∃ name, p.1 = .str name := by
    intro p hp
    rcases key_of_mem_insert hp with hkey | ⟨q, hq, hkey⟩
    · exact ⟨name, hkey⟩
    · exact hkey ▸ h.named q hq
  have honce := (nodup_keys_iff_of_named h.named).mpr h.once
  exact ⟨hnamed, (nodup_keys_iff_of_named hnamed).mp (nodup_keys_insert honce _ v)⟩

/-- A name that is there, but not in what is laid over, can get its value before. -/
theorem insert_overlay {m later : Mapping} {name : String} (hlater : IsNamed later)
    (hfresh : name ∉ names later) (hname : Mapping.contains m (.str name) = true) (v : Value) :
    insert (overlay m later) (.str name) v = overlay (insert m (.str name) v) later := by
  induction later generalizing m with
  | nil => rfl
  | cons p later ih =>
    obtain ⟨k, w⟩ := p
    obtain ⟨other, rfl, -, hlater⟩ := hlater.of_cons
    rw [names_cons_name, List.mem_cons, not_or] at hfresh
    have hstill : Mapping.contains (insert m (.str other) w) (.str name) = true := by
      rw [contains_insert, hname, Bool.or_true]
    change insert (overlay (insert m (.str other) w) later) (.str name) v =
      overlay (insert (insert m (.str name) v) (.str other) w) later
    rw [ih hlater hfresh.2 hstill, insert_comm (Ne.symm hfresh.1) hname]

/-- A value put into what is laid over a mapping is put into the mapping last. -/
theorem overlay_insert {later : Mapping} (hlater : IsNamed later) (m : Mapping) (name : String) (v : Value) :
    overlay m (insert later (.str name) v) = insert (overlay m later) (.str name) v := by
  induction later generalizing m with
  | nil => rfl
  | cons p later ih =>
    obtain ⟨k, w⟩ := p
    obtain ⟨other, rfl, hfresh, hlater⟩ := hlater.of_cons
    by_cases hname : other = name
    · subst hname
      have hthere : Mapping.contains (insert m (.str other) w) (.str other) = true := by
        simp [contains_insert]
      rw [insert, if_pos (by simp)]
      change overlay (insert m (.str other) v) later = insert (overlay (insert m (.str other) w) later) _ v
      rw [insert_overlay hlater hfresh hthere, insert_insert]
    · rw [insert, if_neg (by simpa using hname)]
      exact ih hlater (insert m (.str other) w)

/-- What is laid over a mapping a second time changes nothing. -/
theorem overlay_overlay_self {later : Mapping} (hlater : IsNamed later) (m : Mapping) :
    overlay (overlay m later) later = overlay m later := by
  induction later generalizing m with
  | nil => rfl
  | cons p later ih =>
    obtain ⟨k, v⟩ := p
    obtain ⟨name, rfl, hfresh, hlater⟩ := hlater.of_cons
    have hthere : Mapping.contains (insert m (.str name) v) (.str name) = true := by
      simp [contains_insert]
    change overlay (insert (overlay (insert m (.str name) v) later) (.str name) v) later =
      overlay (insert m (.str name) v) later
    rw [insert_overlay hlater hfresh hthere, insert_insert, ih hlater]

end Mapping

end Stencil
