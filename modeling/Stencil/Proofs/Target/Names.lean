import Stencil.Target.Run

/-! What names stand for inside a tag. A tag puts values into slots, one for each compatibility form; where
no two names in use share a form, a slot is as good as the name. -/
namespace Stencil.Target

/-- The slot of a name. -/
def slotOf (name : String) : List Nat := Unicode.foldText name.toList

/-- Whether no two of some names share a slot. -/
def Apart (names : List String) : Prop :=
  ∀ a ∈ names, ∀ b ∈ names, slotOf a = slotOf b → a = b

section Lookup

variable {α β : Type}

theorem lookup_isSome_iff_mem (l : List (String × β)) (name : String) :
    (l.lookup name).isSome = true ↔ name ∈ l.map Prod.fst := by
  rw [List.lookup_isSome_iff, List.mem_map]
  simp only [beq_iff_eq]
  exact ⟨fun ⟨p, hp, he⟩ => ⟨p, hp, he.symm⟩, fun ⟨p, hp, he⟩ => ⟨p, hp, he.symm⟩⟩

theorem lookup_eq_none_iff_notMem (l : List (String × β)) (name : String) :
    l.lookup name = none ↔ name ∉ l.map Prod.fst := by
  rw [← lookup_isSome_iff_mem, Bool.not_eq_true, Option.isSome_eq_false_iff, Option.isNone_iff_eq_none]

theorem lookup_cons_name [BEq α] (n : α) (b : β) (l : List (α × β)) (name : α) :
    List.lookup name ((n, b) :: l) = if name == n then some b else l.lookup name := by
  rw [List.lookup_cons]
  cases name == n <;> rfl

/-- A slot is found wherever its name would be, if no other name shares it. -/
theorem lookup_slots (l : List (String × β)) {name : String}
    (h : ∀ p ∈ l, slotOf p.1 = slotOf name → p.1 = name) :
    (l.map fun p => (slotOf p.1, p.2)).lookup (slotOf name) = l.lookup name := by
  induction l with
  | nil => rfl
  | cons p l ih =>
    obtain ⟨n, b⟩ := p
    have hrest := ih fun q hq => h q (List.mem_cons_of_mem _ hq)
    rw [List.map_cons, lookup_cons_name, lookup_cons_name, hrest]
    by_cases hn : name = n
    · simp [hn]
    · have hslot : slotOf name ≠ slotOf n := fun he =>
        hn (h (n, b) List.mem_cons_self he.symm).symm
      simp [hn, hslot]

/-- Where names are different, their order does not matter. -/
theorem lookup_reverse {l : List (String × β)} (h : (l.map Prod.fst).Nodup) (name : String) :
    l.reverse.lookup name = l.lookup name := by
  induction l with
  | nil => rfl
  | cons p l ih =>
    obtain ⟨n, b⟩ := p
    rw [List.map_cons, List.nodup_cons] at h
    rw [List.reverse_cons, List.lookup_append, ih h.2, lookup_cons_name, lookup_cons_name]
    by_cases hn : name = n
    · subst hn
      have hnone : l.lookup name = none := (lookup_eq_none_iff_notMem l name).mpr h.1
      simp [hnone]
    · simp [hn]

/-- Names with values that depend on them alone. -/
theorem lookup_map_name (names : List String) (f : String → β) (name : String) :
    (names.map fun n => (n, f n)).lookup name = if name ∈ names then some (f name) else none := by
  induction names with
  | nil => rfl
  | cons n names ih =>
    rw [List.map_cons, lookup_cons_name, ih]
    by_cases hn : name = n
    · simp [hn]
    · simp [hn]

theorem lookup_map_value {γ : Type} (l : List (String × β)) (f : β → γ) (name : String) :
    (l.map fun p => (p.1, f p.2)).lookup name = (l.lookup name).map f := by
  induction l with
  | nil => rfl
  | cons p l ih =>
    obtain ⟨n, b⟩ := p
    rw [List.map_cons, lookup_cons_name, lookup_cons_name, ih]
    split <;> rfl

end Lookup

theorem mem_firstOccurrences (names : List String) (name : String) :
    name ∈ firstOccurrences names ↔ name ∈ names := by
  suffices h : ∀ seen : List String,
      name ∈ names.foldl (fun seen n => if seen.contains n then seen else seen ++ [n]) seen ↔
        name ∈ seen ∨ name ∈ names by
    exact (h []).trans (by simp)
  induction names with
  | nil => simp
  | cons n names ih =>
    intro seen
    rw [List.foldl_cons, ih, List.mem_cons]
    split
    · next hn =>
      have hmem : n ∈ seen := List.contains_iff_mem.mp hn
      refine ⟨fun h => h.imp_right .inr, ?_⟩
      rintro (h | rfl | h)
      · exact .inl h
      · exact .inl hmem
      · exact .inr h
    · rw [List.mem_append, List.mem_singleton, or_assoc]

namespace Env

variable {env : Env} {given : List (String × Binding)} {early : Bool} {body : List Block} {name : String}

theorem mem_freshNames :
    name ∈ env.freshNames given body ↔
      name ∈ body.flatMap Block.ownNames ∧ given.lookup name = none ∧ env.knows name = false := by
  simp only [freshNames, List.mem_filter, mem_firstOccurrences, Bool.and_eq_true,
    Option.isNone_iff_eq_none, Bool.not_eq_true']

/-- A name that a tag binds is none that it has to look up. -/
theorem lookup_eq_none_of_mem_freshNames (h : name ∈ env.freshNames given body) : given.lookup name = none :=
  (mem_freshNames.mp h).2.1

/-- What a tag puts into slots for its body: its own bindings, and what the body refers to. -/
def found (env : Env) (given : List (String × Binding)) (early : Bool) (body : List Block) :
    List (String × Option Binding) :=
  let mine := given.map fun g => (g.1, some g.2)
  let fresh := (env.freshNames given body).map fun n => (n, resolve env.data n)
  if early then mine ++ fresh else fresh ++ mine

theorem mem_found {p : String × Option Binding} :
    p ∈ env.found given early body ↔
      (∃ g ∈ given, (g.1, some g.2) = p) ∨ ∃ n ∈ env.freshNames given body, (n, resolve env.data n) = p := by
  unfold found
  cases early <;> simp [or_comm]

/-- The frame of a tag. -/
def innerFrame (env : Env) (given : List (String × Binding)) (early : Bool) (body : List Block) : Frame where
  names := given.map (fun g => (g.1, true)) ++ (env.freshNames given body).map fun n => (n, false)
  slots := ((env.found given early body).map fun p => (slotOf p.1, p.2)).reverse

theorem enter_eq (env : Env) (given : List (String × Binding)) (early : Bool) (body : List Block) :
    env.enter given early body = ⟨env.innerFrame given early body :: env.frames, env.data⟩ := by
  cases early <;> simp [enter, innerFrame, found, slotOf, Function.comp_def]

@[simp] theorem enter_data : (env.enter given early body).data = env.data := rfl

theorem innerFrame_names :
    (env.innerFrame given early body).names.lookup name =
      if name ∈ given.map Prod.fst then some true
      else if name ∈ env.freshNames given body then some false else none := by
  have hgiven : (given.map fun g => (g.1, true)).lookup name =
      if name ∈ given.map Prod.fst then some true else none := by
    rw [← lookup_map_name (given.map Prod.fst) (fun _ => true) name, List.map_map]
    rfl
  rw [innerFrame, List.lookup_append, hgiven, lookup_map_name]
  split <;> rfl

theorem lookup_reverse_eq_none_iff (given : List (String × Binding)) (name : String) :
    given.reverse.lookup name = none ↔ given.lookup name = none := by
  rw [lookup_eq_none_iff_notMem, lookup_eq_none_iff_notMem, List.map_reverse, List.mem_reverse]

/-- Since no name is both bound and looked up by a tag, it makes no difference which is done first. -/
theorem lookup_reverse_found :
    (env.found given early body).reverse.lookup name =
      match given.reverse.lookup name with
      | some b => some (some b)
      | none => if name ∈ env.freshNames given body then some (resolve env.data name) else none := by
  have hmine : (given.map fun g => (g.1, some g.2)).reverse.lookup name =
      (given.reverse.lookup name).map some := by
    rw [← List.map_reverse, lookup_map_value]
  have hfresh : ((env.freshNames given body).map fun n => (n, resolve env.data n)).reverse.lookup name =
      if name ∈ env.freshNames given body then some (resolve env.data name) else none := by
    rw [← List.map_reverse, lookup_map_name]
    simp only [List.mem_reverse]
  unfold found
  cases hgiven : given.reverse.lookup name with
  | none =>
    rw [hgiven] at hmine
    cases early <;> simp [List.reverse_append, List.lookup_append, hmine, hfresh]
  | some b =>
    have hnone : name ∉ env.freshNames given body := fun h => by
      have hbound := (lookup_reverse_eq_none_iff given name).mpr (lookup_eq_none_of_mem_freshNames h)
      rw [hgiven] at hbound
      cases hbound
    rw [hgiven] at hmine
    rw [if_neg hnone] at hfresh
    cases early <;> simp [List.reverse_append, List.lookup_append, hmine, hfresh]

theorem innerFrame_slot (hslot : ∀ p ∈ env.found given early body, slotOf p.1 = slotOf name → p.1 = name) :
    (env.innerFrame given early body).slot name =
      match given.reverse.lookup name with
      | some b => some b
      | none => if name ∈ env.freshNames given body then resolve env.data name else none := by
  have hlookup : (env.innerFrame given early body).slots.lookup (slotOf name) =
      (env.found given early body).reverse.lookup name := by
    rw [innerFrame, ← List.map_reverse]
    exact lookup_slots _ fun p hp => hslot p (List.mem_reverse.mp hp)
  have hslot : (env.innerFrame given early body).slot name =
      ((env.innerFrame given early body).slots.lookup (slotOf name)).join := rfl
  rw [hslot, hlookup, lookup_reverse_found]
  cases given.reverse.lookup name with
  | some b => rfl
  | none => by_cases hfresh : name ∈ env.freshNames given body <;> simp [hfresh]

/-- What a name stands for inside of a tag: what the tag binds it to last, else, if nothing around the tag knew it,
what the data and the names without data make of it, else what it stood for before. -/
theorem lookup_enter (hslot : ∀ p ∈ env.found given early body, slotOf p.1 = slotOf name → p.1 = name) :
    (env.enter given early body).lookup name =
      match given.reverse.lookup name with
      | some b => b
      | none =>
        if name ∈ env.freshNames given body then (resolve env.data name).getD (.missing name)
        else env.lookup name := by
  have hframe := innerFrame_slot hslot
  rw [enter_eq, lookup, List.findSome?_cons, innerFrame_names]
  cases hgiven : given.reverse.lookup name with
  | some b =>
    have hmem : name ∈ given.map Prod.fst := by
      rw [← List.mem_reverse, ← List.map_reverse, ← lookup_isSome_iff_mem, hgiven]
      rfl
    rw [hgiven] at hframe
    simp [hmem, hframe]
  | none =>
    have hmem : name ∉ given.map Prod.fst := by
      rwa [← lookup_eq_none_iff_notMem, ← lookup_reverse_eq_none_iff]
    rw [hgiven] at hframe
    rw [if_neg hmem]
    by_cases hfresh : name ∈ env.freshNames given body
    · simp only [hfresh, if_true] at hframe ⊢
      cases hresolve : resolve env.data name <;> simp [hframe, hresolve]
    · simp only [hfresh, if_false]
      rfl

/-- Inside of a tag a name is known if the tag binds it, or the body refers to it, or it was known. -/
theorem knows_enter :
    (env.enter given early body).knows name = true ↔
      name ∈ given.map Prod.fst ∨ name ∈ env.freshNames given body ∨ env.knows name = true := by
  rw [enter_eq]
  simp only [knows, List.any_cons, innerFrame_names, Bool.or_eq_true]
  split
  · simp [*]
  split <;> simp [*]

/-- A tag knows all names that its body refers to. -/
theorem knows_of_mem_ownNames (h : name ∈ body.flatMap Block.ownNames) :
    (env.enter given early body).knows name = true := by
  rw [knows_enter]
  by_cases hgiven : name ∈ given.map Prod.fst
  · exact .inl hgiven
  cases hknows : env.knows name with
  | true => exact .inr (.inr rfl)
  | false =>
    exact .inr (.inl (mem_freshNames.mpr
      ⟨h, (lookup_eq_none_iff_notMem given name).mpr hgiven, hknows⟩))

end Env

end Stencil.Target
