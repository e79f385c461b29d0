import Stencil.Cache.Renders
import Stencil.Proofs.Session

/-! What a cache in memory does with a render: it answers from an entry under the key, or it computes and
may put in one entry with what was computed. -/
namespace Stencil.Cache

/-- An entry kept so long has a time of expiry, or has none for good. -/
def CanExpire (lifetime : Option Lifetime) : Prop := ∀ now, ∃ t, expiry now lifetime = .ok t

theorem canExpire_never : CanExpire (some (.whole 0)) := fun _ => ⟨none, rfl⟩

namespace Memory

variable {m m' : Memory} {now : Float} {key value : String}

theorem mem_remove {p : String × Kept} (h : p ∈ (m.remove key).entries) : p ∈ m.entries :=
  (List.mem_filter.mp h).1

/-- A look adds no entries. -/
theorem mem_read {p : String × Kept} (h : p ∈ (m.read now key).2.entries) : p ∈ m.entries := by
  unfold read at h
  split at h
  · exact h
  · split at h
    · exact mem_remove h
    · exact h

theorem mem_of_lookup {kept : Kept} (h : m.entries.lookup key = some kept) :
    (key, kept) ∈ m.entries := by
  obtain ⟨before, after, hentries, -⟩ := List.lookup_eq_some_iff.mp h
  rw [hentries]
  exact List.mem_append_right _ List.mem_cons_self

/-- What a look finds is the value of an entry. -/
theorem exists_of_read (h : (m.read now key).1 = some value) :
    ∃ kept, (key, kept) ∈ m.entries ∧ kept.value = value := by
  unfold read at h
  split at h
  · cases h
  next kept hkept =>
    split at h
    · cases h
    · exact ⟨kept, mem_of_lookup hkept, Option.some.inj h⟩

/-- Putting in a value adds one entry. -/
theorem mem_put {lifetime : Option Lifetime} (h : m.put now key value lifetime = .ok m')
    {p : String × Kept} (hp : p ∈ m'.entries) :
    p ∈ m.entries ∨ p.1 = key ∧ p.2.value = value := by
  unfold put at h
  cases he : expiry now lifetime with
  | error e =>
    rw [he] at h
    cases h
  | ok expires =>
    rw [he] at h
    cases h
    rcases List.mem_append.mp hp with h | h
    · exact .inl (mem_remove h)
    · obtain rfl := List.mem_singleton.mp h
      exact .inr ⟨rfl, rfl⟩

theorem mem_removeLike {start : String} {p : String × Kept}
    (h : p ∈ (m.removeLike start).2.entries) : p ∈ m.entries := (List.mem_filter.mp h).1

end Memory

namespace Renders

variable {m m' : Memory} {space name fp key value : String} {lifetime own : Option Lifetime}
  {compute : Act String} {s : Session}

/-- What the cache writes to the log. -/
def record (message : String) : Log.Record := ⟨.debug, "modx.core.cache.template_cache", message⟩

theorem read_memory (m : Memory) (key : String) (s : Session) :
    (Store.memory m).read key s = .ok ((m.read s.now key).1, .memory (m.read s.now key).2) s := rfl

theorem render_hit (h : m.read s.now (renderKey space name fp) = (some value, m')) :
    render ⟨.memory m, space, lifetime⟩ name fp compute own s =
      .ok (.ok value, ⟨.memory m', space, lifetime⟩)
        (s.log (record s!"Cache hit for {renderKey space name fp}")) := by
  have hread : (Store.memory m).read (renderKey space name fp) s = .ok (some value, .memory m') s := by
    rw [read_memory, h]
  exact Act.run_bind_ok hread

theorem render_miss (h : m.read s.now (renderKey space name fp) = (none, m')) :
    render ⟨.memory m, space, lifetime⟩ name fp compute own s =
      (do keep ⟨.memory m', space, lifetime⟩ (renderKey space name fp) own (← Act.attempt compute))
        (s.log (record s!"Cache miss for {renderKey space name fp}")) := by
  have hread : (Store.memory m).read (renderKey space name fp) s = .ok (none, .memory m') s := by
    rw [read_memory, h]
  exact Act.run_bind_ok hread

theorem put_memory (m : Memory) (key value : String) (lifetime : Option Lifetime) (s : Session) :
    Act.attempt ((Store.memory m).put key value lifetime) s =
      .ok ((m.put s.now key value lifetime).map .memory) s := by
  have hput : (Store.memory m).put key value lifetime s =
      (do return Store.memory (← Act.ofExcept (m.put s.now key value lifetime)) : Act Store) s := rfl
  cases h : m.put s.now key value lifetime with
  | ok m' =>
    rw [h] at hput
    exact Act.run_attempt_ok hput
  | error e =>
    rw [h] at hput
    exact Act.run_attempt_error hput

theorem keep_memory (hvalue : value ≠ "") :
    keep ⟨.memory m, space, lifetime⟩ key own (.ok value) s =
      match m.put s.now key value (own.or lifetime) with
      | .ok m' => .ok (.ok value, ⟨.memory m', space, lifetime⟩) s
      | .error e => .ok (.error e, ⟨.memory m, space, lifetime⟩) s := by
  unfold keep
  change (if value = "" then _ else _ : Act _) s = _
  rw [if_neg hvalue]
  refine (Act.run_bind_ok (put_memory m key value (own.or lifetime) s)).trans ?_
  cases m.put s.now key value (own.or lifetime) <;> rfl

/-- The session in which a render that is not found is computed. -/
def missed (s : Session) (space name fp : String) : Session :=
  s.log (record s!"Cache miss for {renderKey space name fp}")

/-- A render is answered from an entry under its key or else as it is computed, unless it cannot be
kept; the entries are old ones and at most what was computed, under that key. -/
theorem render_memory (m : Memory) (space name fp : String) (lifetime own : Option Lifetime)
    (compute : Act String) (s : Session) :
    ∃ answer m' s', render ⟨.memory m, space, lifetime⟩ name fp compute own s =
        .ok (answer, ⟨.memory m', space, lifetime⟩) s' ∧
      (∀ p ∈ m'.entries, p ∈ m.entries ∨ p.1 = renderKey space name fp ∧
        compute.outcome (missed s space name fp) = .ok p.2.value) ∧
      ((∃ kept, (renderKey space name fp, kept) ∈ m.entries ∧ answer = .ok kept.value) ∨
        answer = compute.outcome (missed s space name fp) ∨ ¬CanExpire (own.or lifetime)) := by
  cases hread : m.read s.now (renderKey space name fp) with
  | mk found m₁ =>
  have hentries : ∀ p ∈ m₁.entries, p ∈ m.entries := by
    intro p hp
    have hfound : p ∈ (m.read s.now (renderKey space name fp)).2.entries := by rw [hread]; exact hp
    exact Memory.mem_read hfound
  cases found with
  | some value =>
    obtain ⟨kept, hkept, rfl⟩ := Memory.exists_of_read (congrArg Prod.fst hread)
    exact ⟨_, m₁, _, render_hit hread, fun p hp => .inl (hentries p hp), .inl ⟨kept, hkept, rfl⟩⟩
  | none =>
    obtain ⟨s₁, hcompute⟩ := Act.exists_attempt compute (missed s space name fp)
    have hrender : render ⟨.memory m, space, lifetime⟩ name fp compute own s =
        keep ⟨.memory m₁, space, lifetime⟩ (renderKey space name fp) own
          (compute.outcome (missed s space name fp)) s₁ := by
      rw [render_miss hread]
      exact Act.run_bind_ok hcompute
    rw [hrender]
    cases hout : compute.outcome (missed s space name fp) with
    | error e => exact ⟨_, m₁, s₁, rfl, fun p hp => .inl (hentries p hp), .inr (.inl rfl)⟩
    | ok value =>
      by_cases hvalue : value = ""
      · subst hvalue
        exact ⟨_, m₁, s₁, rfl, fun p hp => .inl (hentries p hp), .inr (.inl rfl)⟩
      · rw [keep_memory hvalue]
        cases hput : m₁.put s₁.now (renderKey space name fp) value (own.or lifetime) with
        | ok m₂ =>
          refine ⟨_, m₂, s₁, rfl, fun p hp => ?_, .inr (.inl rfl)⟩
          rcases Memory.mem_put hput hp with hold | ⟨hkey, rfl⟩
          · exact .inl (hentries p hold)
          · exact .inr ⟨hkey, rfl⟩
        | error e =>
          refine ⟨_, m₁, s₁, rfl, fun p hp => .inl (hentries p hp), .inr (.inr fun hexpire => ?_)⟩
          obtain ⟨t, ht⟩ := hexpire s₁.now
          rw [Memory.put, ht] at hput
          cases hput

/-- An empty cache takes in a render that is computed, if it may keep it for good. -/
theorem render_empty (space : String) {name fp value : String} (lifetime : Option Lifetime)
    {compute : Act String} {s : Session} (hvalue : value ≠ "")
    (h : compute.outcome (missed s space name fp) = .ok value) :
    ∃ s', render ⟨.memory {}, space, lifetime⟩ name fp compute (some (.whole 0)) s =
      .ok (.ok value, ⟨.memory ⟨[(renderKey space name fp, ⟨value, none⟩)]⟩, space, lifetime⟩) s' := by
  obtain ⟨s₁, hcompute⟩ := Act.exists_attempt compute (missed s space name fp)
  refine ⟨s₁, ?_⟩
  rw [render_miss (show Memory.read {} s.now _ = (none, {}) from rfl)]
  refine (Act.run_bind_ok hcompute).trans ?_
  rw [h, keep_memory hvalue]
  rfl

/-- A render that is kept for good is found. -/
theorem render_kept (space name fp value : String) (lifetime own : Option Lifetime)
    (compute : Act String) (s : Session) :
    ∃ s', render ⟨.memory ⟨[(renderKey space name fp, ⟨value, none⟩)]⟩, space, lifetime⟩ name fp
        compute own s =
      .ok (.ok value, ⟨.memory ⟨[(renderKey space name fp, ⟨value, none⟩)]⟩, space, lifetime⟩) s' := by
  refine ⟨_, render_hit ?_⟩
  simp [Memory.read, Kept.isDead]

/-- Clearing adds no entries. -/
theorem clear_memory (m : Memory) (space : String) (lifetime : Option Lifetime)
    (name : Option String) (s : Session) :
    ∃ cleared m' s', clear ⟨.memory m, space, lifetime⟩ name s =
        .ok (cleared, ⟨.memory m', space, lifetime⟩) s' ∧ ∀ p ∈ m'.entries, p ∈ m.entries := by
  cases name with
  | none => exact ⟨_, {}, _, rfl, fun p hp => nomatch hp⟩
  | some name => exact ⟨_, _, _, rfl, fun p => Memory.mem_removeLike⟩

end Renders

end Stencil.Cache
