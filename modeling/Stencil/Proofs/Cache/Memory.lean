import Stencil.Cache.Memory
import Stencil.Proofs.Mapping
import Stencil.Proofs.Number.Unpacked

/-! Looks at a memory by key, and deaths of entries: an entry that is dead stays dead as the clock goes on. -/
namespace Stencil.Cache

/-- When an entry written at `now` and kept for a whole number of seconds expires. -/
theorem expiry_whole (now : Float) (seconds : Int) :
    expiry now (some (.whole seconds)) =
      if seconds ≤ 0 then .ok none
      else match Number.floatOfInt? seconds with
        | some span => .ok (some (now + span))
        | none => .error .tooLarge := by
  simp only [expiry]
  by_cases hseconds : seconds ≤ 0
  · rw [if_pos hseconds, if_neg (Int.not_lt.mpr hseconds)]
  · rw [if_neg hseconds, if_pos (Int.not_le.mp hseconds)]
    simp only [Value.toFloat]
    cases Number.floatOfInt? seconds <;> rfl

theorem Kept.isDead_mono {e : Kept} {now later : Float} (h : e.isDead now = true)
    (hlater : now ≤ later) : e.isDead later = true := by
  unfold isDead at *
  cases hexpires : e.expires with
  | none =>
    rw [hexpires] at h
    cases h
  | some t =>
    simp only [hexpires, decide_eq_true_eq] at h ⊢
    exact Number.le_trans_float h hlater

namespace Memory

/-- The value of an entry, as long as it lives. -/
def liveValue (now : Float) (e : Kept) : Option String := if e.isDead now then none else some e.value

theorem read_fst (m : Memory) (now : Float) (key : String) :
    (m.read now key).1 = (m.entries.lookup key).bind (liveValue now) := by
  unfold read liveValue
  cases m.entries.lookup key with
  | none => rfl
  | some e =>
    simp only [Option.bind_some]
    split <;> rfl

/-- What is not found is not found later either. -/
theorem read_none_mono {m : Memory} {now later : Float} {key : String}
    (h : (m.read now key).1 = none) (hlater : now ≤ later) : (m.read later key).1 = none := by
  rw [read_fst] at h ⊢
  cases he : m.entries.lookup key with
  | none => rfl
  | some e =>
    rw [he] at h
    simp only [Option.bind_some, liveValue, ite_eq_left_iff, reduceCtorEq, imp_false,
      Bool.not_eq_true, Bool.not_eq_false] at h ⊢
    exact Kept.isDead_mono h hlater

theorem lookup_remove (m : Memory) (key k : String) :
    (m.remove key).entries.lookup k = if k = key then none else m.entries.lookup k := by
  have h := Mapping.lookup_filter_key (· != key) m.entries k
  by_cases hk : k = key <;> simpa [remove, hk] using h

theorem lookup_removeLike (m : Memory) (start k : String) :
    (m.removeLike start).2.entries.lookup k =
      if k.startsWith start then none else m.entries.lookup k := by
  have h := Mapping.lookup_filter_key (fun k => !k.startsWith start) m.entries k
  by_cases hk : k.startsWith start = true <;> simpa [removeLike, hk] using h

/-- Keys are taken away if there are some to be taken away. -/
theorem removeLike_fst (m : Memory) (start : String) :
    (m.removeLike start).1 = true ↔
      ∃ key e, m.entries.lookup key = some e ∧ key.startsWith start = true := by
  have hlookup (key : String) : (∃ e, m.entries.lookup key = some e) ↔ ∃ p ∈ m.entries, p.1 = key := by
    rw [← Option.isSome_iff_exists, List.lookup_isSome_iff]
    simp
  rw [removeLike, List.any_eq_true]
  constructor
  · rintro ⟨p, hp, hstart⟩
    obtain ⟨e, he⟩ := (hlookup p.1).mpr ⟨p, hp, rfl⟩
    exact ⟨p.1, e, he, hstart⟩
  · rintro ⟨key, e, he, hstart⟩
    obtain ⟨p, hp, rfl⟩ := (hlookup key).mp ⟨e, he⟩
    exact ⟨p, hp, hstart⟩

/-- A look leaves an entry that is live, and an entry under another key. -/
theorem lookup_read (m : Memory) (now : Float) (key k : String) :
    (m.read now key).2.entries.lookup k =
      if k = key ∧ (m.entries.lookup key).any (·.isDead now) then none else m.entries.lookup k := by
  unfold read
  cases hkey : m.entries.lookup key with
  | none => simp
  | some e =>
    by_cases hdead : e.isDead now = true
    · simp [hdead, lookup_remove]
    · simp [hdead]

/-- What is refused is refused for its time of expiry. -/
theorem put_eq_error_iff {m : Memory} {now : Float} {key value : String} {lifetime : Option Lifetime}
    {e : Error} : m.put now key value lifetime = .error e ↔ expiry now lifetime = .error e := by
  rw [put]
  cases expiry now lifetime with
  | error e' => simp [Except.map]
  | ok expires => exact ⟨nofun, nofun⟩

theorem exists_expiry {m m' : Memory} {now : Float} {key value : String} {lifetime : Option Lifetime}
    (h : m.put now key value lifetime = .ok m') : ∃ expires, expiry now lifetime = .ok expires := by
  cases hexpiry : expiry now lifetime with
  | error e =>
    rw [put_eq_error_iff.mpr hexpiry] at h
    cases h
  | ok expires => exact ⟨expires, rfl⟩

theorem lookup_put {m m' : Memory} {now : Float} {key value : String} {lifetime : Option Lifetime}
    {expires : Option Float} (hexpiry : expiry now lifetime = .ok expires)
    (h : m.put now key value lifetime = .ok m') (k : String) :
    m'.entries.lookup k = if k = key then some ⟨value, expires⟩ else m.entries.lookup k := by
  rw [put, hexpiry] at h
  cases h
  by_cases hk : k = key
  · subst hk
    simp [List.lookup_append]
  · have hne : (k == key) = false := by simpa using hk
    simp [List.lookup_append, lookup_remove, hk, List.lookup_cons, hne]

end Memory

end Stencil.Cache
