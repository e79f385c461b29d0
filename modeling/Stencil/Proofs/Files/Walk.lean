import Stencil.Files.Tree
import Stencil.Proofs.Mapping

/-! Where paths lead after a tree was changed. A walk passes through directories and links only; what stands
where none of them stood before is not on the way. -/
namespace Stencil

/-- Whether a walk passes on from an entry. -/
def Entry.isRoad : Entry → Bool
  | .directory | .link _ => true
  | .file _ _ _ => false

namespace FileTree

variable {t t' t'' : FileTree} {follow : Bool} {budget left : Nat}
  {here todo more cwd place : List String} {p : Path}

/-! ### Entries -/

theorem get?_remove (hplace : place ≠ []) (q : List String) :
    (t.remove place).get? q = if q = place then none else t.get? q := by
  have hlookup := Mapping.lookup_filter_key (· != place) t.entries q
  by_cases hq : q = place
  · subst hq
    simpa [get?, hplace, remove] using hlookup
  · rw [if_neg hq, get?, get?]
    split
    · rfl
    · simpa [remove, hq] using hlookup

theorem get?_put (hplace : place ≠ []) (e : Entry) (q : List String) :
    (t.put place e).get? q = if q = place then some e else t.get? q := by
  have hput : (t.put place e).get? q = ((t.remove place).get? q).or (if q = place then some e else none) := by
    by_cases hnil : q = []
    · subst hnil
      rfl
    · rw [get?, get?, if_neg hnil, if_neg hnil, put, List.lookup_append]
      congr 1
      by_cases hq : q = place
      · simp [hq]
      · have hne : (q == place) = false := by simpa using hq
        simp [hq, List.lookup_cons, hne]
  rw [hput, get?_remove hplace]
  by_cases hq : q = place
  · simp [hq]
  · simp [hq]

theorem get?_write (hplace : place ≠ []) (content : List UInt8) (serial : Nat) (q : List String) :
    (t.write place content serial).get? q =
      if q = place then some (.file content t.stamp serial) else t.get? q :=
  get?_put hplace _ q

theorem mem_namesBelow {name : String} :
    name ∈ t.namesBelow place ↔ t.get? (place ++ [name]) ≠ none := by
  have hlookup : t.get? (place ++ [name]) = t.entries.lookup (place ++ [name]) :=
    if_neg (List.append_ne_nil_of_right_ne_nil place (List.cons_ne_nil name []))
  rw [namesBelow, List.mem_mergeSort, List.mem_filterMap, hlookup, ne_eq, List.lookup_eq_none_iff]
  constructor
  · rintro ⟨e, he, hname⟩ hnone
    split at hname
    · next hbelow =>
      obtain ⟨above, habove⟩ := List.getLast?_eq_some_iff.mp hname
      have hplace : above = place := by simpa [habove] using hbelow.1
      have hne := hnone e he
      simp [habove, hplace] at hne
    · cases hname
  · intro h
    refine Classical.byContradiction fun hnone => h fun e he => bne_iff_ne.mpr fun hkey => ?_
    exact hnone ⟨e, he, by simp [← hkey]⟩

/-- Whether a tree is another one but for what stands at one place. -/
structure ChangesAt (t t' : FileTree) (place : List String) (e : Option Entry) : Prop where
  entries : ∀ q, t'.get? q = if q = place then e else t.get? q
  locked : t'.locked = t.locked

/-! ### Trees with the same roads -/

/-- Whether everything that stands in a tree stands in another one, and the same directories are locked. -/
structure Keeps (t t' : FileTree) : Prop where
  entries : ∀ place e, t.get? place = some e → t'.get? place = some e
  locked : t'.locked = t.locked

/-- Whether every directory and every link of a tree stands in another one, and the same directories are locked. -/
structure KeepsRoads (t t' : FileTree) : Prop where
  roads : ∀ place e, e.isRoad = true → t.get? place = some e → t'.get? place = some e
  locked : t'.locked = t.locked

theorem Keeps.refl (t : FileTree) : Keeps t t := ⟨fun _ _ h => h, rfl⟩

theorem Keeps.trans (h : Keeps t t') (h' : Keeps t' t'') : Keeps t t'' :=
  ⟨fun place e he => h'.entries place e (h.entries place e he), h'.locked.trans h.locked⟩

theorem keeps_put (hplace : t.get? place = none) (e : Entry) : Keeps t (t.put place e) := by
  have hne : place ≠ [] := by
    rintro rfl
    cases hplace
  refine ⟨fun q entry hq => ?_, rfl⟩
  rw [get?_put hne, if_neg, hq]
  rintro rfl
  rw [hplace] at hq
  cases hq

/-- Whether no directory and no link stands at a place. -/
def IsOffRoad (t : FileTree) (place : List String) : Prop := ∀ e, t.get? place = some e → e.isRoad = false

theorem IsOffRoad.keepsRoads (h : IsOffRoad t place) {e : Option Entry} (ht : ChangesAt t t' place e) :
    KeepsRoads t t' := by
  refine ⟨fun q e he hq => ?_, ht.locked⟩
  rw [ht.entries, if_neg, hq]
  rintro rfl
  rw [h e hq] at he
  cases he

theorem Admits.of_locked {name : String} (h : t.Admits here name) (hlocked : t'.locked = t.locked) :
    t'.Admits here name :=
  { h with opened := hlocked ▸ h.opened }

/-! ### Walks through directories -/

/-- Whether a walk passes through all names ahead, by directories and links, to the place where it is then. -/
inductive Leads (t : FileTree) : (budget : Nat) → (here todo : List String) → (left : Nat) →
    (place : List String) → Prop
  | done (budget : Nat) (here : List String) : Leads t budget here [] budget here
  | dot {budget left : Nat} {here rest place : List String} (hopen : here ∉ t.locked) :
    Leads t budget here rest left place → Leads t budget here ("." :: rest) left place
  | up {budget left : Nat} {here rest place : List String} (hopen : here ∉ t.locked) :
    Leads t budget here.dropLast rest left place → Leads t budget here (".." :: rest) left place
  | directory {budget left : Nat} {here rest place : List String} {name : String}
    (hname : t.Admits here name) (hentry : t.get? (here ++ [name]) = some .directory) :
    Leads t budget (here ++ [name]) rest left place → Leads t budget here (name :: rest) left place
  | link {budget left : Nat} {here rest place : List String} {name target : String}
    (hname : t.Admits here name) (hentry : t.get? (here ++ [name]) = some (.link target)) :
    Leads t budget (linkStart target here) (linkParts target ++ rest) left place →
      Leads t (budget + 1) here (name :: rest) left place

theorem Leads.mono (h : Leads t budget here todo left place) (hroads : KeepsRoads t t') :
    Leads t' budget here todo left place := by
  induction h with
  | done => exact .done _ _
  | dot hopen _ ih => exact .dot (hroads.locked ▸ hopen) ih
  | up hopen _ ih => exact .up (hroads.locked ▸ hopen) ih
  | directory hname hentry _ ih => exact .directory (hname.of_locked hroads.locked) (hroads.roads _ _ rfl hentry) ih
  | link hname hentry _ ih => exact .link (hname.of_locked hroads.locked) (hroads.roads _ _ rfl hentry) ih

/-- A walk goes on at the target of a link. -/
theorem walk_link {name target : String} (hname : t.Admits here name)
    (h : t.get? (here ++ [name]) = some (.link target)) (hgo : ¬(todo = [] ∧ (!follow) = true)) :
    t.walk follow (budget + 1) here (name :: todo) =
      t.walk follow budget (linkStart target here) (linkParts target ++ todo) := by
  rw [walk_cons hname, h]
  exact if_neg hgo

/-- A walk that does not follow a last link ends at it. -/
theorem walk_last_link {name target : String} (hname : t.Admits here name)
    (h : t.get? (here ++ [name]) = some (.link target)) :
    t.walk false budget here [name] = .ok (here ++ [name], some (.link target)) := by
  rw [walk_cons hname, h]
  rfl

/-- A walk goes on from where the names ahead lead, unless a last link is not followed. -/
theorem Leads.walk_append (h : Leads t budget here todo left place) (hmore : follow = true ∨ more ≠ []) :
    t.walk follow budget here (todo ++ more) = t.walk follow left place more := by
  induction h with
  | done => rfl
  | dot hopen _ ih => rw [List.cons_append, walk, if_neg hopen, if_pos rfl, ih]
  | up hopen _ ih => rw [List.cons_append, walk, if_neg hopen, if_neg (by decide), if_pos rfl, ih]
  | directory hname hentry _ ih => rw [List.cons_append, walk_directory hname hentry, ih]
  | @link _ _ _ rest _ _ _ hname hentry _ ih =>
    have hgo : ¬(rest ++ more = [] ∧ (!follow) = true) := by
      rintro ⟨hnil, hfollow⟩
      rcases hmore with rfl | hmore
      · cases hfollow
      · exact hmore (List.append_eq_nil_iff.mp hnil).2
    rw [List.cons_append, walk_link hname hentry hgo, ← List.append_assoc, ih]

theorem Leads.walk_eq (h : Leads t budget here todo left place) :
    t.walk true budget here todo = .ok (place, t.get? place) := by
  have hwalk : t.walk true budget here (todo ++ []) = t.walk true left place [] := h.walk_append (.inl rfl)
  rw [List.append_nil] at hwalk
  rw [hwalk, walk]

theorem exists_leads (h : t.walk true budget here todo = .ok (place, some .directory)) :
    ∃ left, Leads t budget here todo left place := by
  fun_induction walk t true budget here todo with
  | case1 budget here =>
    rw [Except.ok.injEq, Prod.mk.injEq] at h
    obtain ⟨rfl, -⟩ := h
    exact ⟨budget, .done _ _⟩
  | case3 budget here rest hopen ih =>
    obtain ⟨left, hleft⟩ := ih h
    exact ⟨left, .dot hopen hleft⟩
  | case4 budget here rest hopen hdot ih =>
    obtain ⟨left, hleft⟩ := ih h
    exact ⟨left, .up hopen hleft⟩
  | case8 budget here name rest hopen hdot hup hsize next hentry ih =>
    obtain ⟨left, hleft⟩ := ih h
    exact ⟨left, .directory ⟨hopen, hdot, hup, Nat.not_lt.mp hsize⟩ hentry hleft⟩
  | case13 here name rest hopen hdot hup hsize next target hentry hgo budget ih =>
    obtain ⟨left, hleft⟩ := ih h
    exact ⟨left, .link ⟨hopen, hdot, hup, Nat.not_lt.mp hsize⟩ hentry hleft⟩
  | case11 budget here name rest hopen hdot hup hsize next target hentry hgo => cases hgo.2
  | _ => simp at h

/-- A walk tells what stands where it ends. -/
theorem get?_of_walk {e : Option Entry} (h : t.walk follow budget here todo = .ok (place, e)) :
    t.get? place = e := by
  fun_induction walk t follow budget here todo with
  | case1 budget here =>
    rw [Except.ok.injEq, Prod.mk.injEq] at h
    obtain ⟨rfl, rfl⟩ := h
    rfl
  | case3 budget here rest hopen ih => exact ih h
  | case4 budget here rest hopen hdot ih => exact ih h
  | case8 budget here name rest hopen hdot hup hsize next hentry ih => exact ih h
  | case13 here name rest hopen hdot hup hsize next target hentry hgo budget ih => exact ih h
  | _ => simp_all

/-! ### Walks in a tree that has more -/

/-- A walk that finds something, or fails for a reason other than that nothing is there, goes the same way where
more things stand. -/
theorem Keeps.walk (h : Keeps t t') (follow : Bool) (budget : Nat) (here todo : List String) :
    t.walk follow budget here todo = .error .missing ∨
      (∃ place, t.walk follow budget here todo = .ok (place, none)) ∨
      t'.walk follow budget here todo = t.walk follow budget here todo := by
  have hopen' {here : List String} (hopen : here ∉ t.locked) : here ∉ t'.locked := h.locked ▸ hopen
  have hname' {here : List String} {name : String} (hopen : here ∉ t.locked) (hdot : name ≠ ".") (hup : name ≠ "..")
      (hsize : ¬nameLimit < nameSize name) : t'.Admits here name := ⟨hopen' hopen, hdot, hup, Nat.not_lt.mp hsize⟩
  fun_induction FileTree.walk t follow budget here todo with
  | case1 budget here =>
    cases hhere : t.get? here with
    | none => exact .inr (.inl ⟨here, rfl⟩)
    | some e =>
      refine .inr (.inr ?_)
      rw [FileTree.walk, h.entries here e hhere]
  | case2 budget here name rest hclosed =>
    refine .inr (.inr ?_)
    rw [FileTree.walk, if_pos (h.locked.symm ▸ hclosed)]
  | case3 budget here rest hopen ih => rwa [FileTree.walk, if_neg (hopen' hopen), if_pos rfl]
  | case4 budget here rest hopen hdot ih =>
    rwa [FileTree.walk, if_neg (hopen' hopen), if_neg hdot, if_pos rfl]
  | case5 budget here name rest hopen hdot hup hsize =>
    refine .inr (.inr ?_)
    rw [FileTree.walk, if_neg (hopen' hopen), if_neg hdot, if_neg hup, if_pos hsize]
  | case6 budget here name hopen hdot hup hsize next hentry => exact .inr (.inl ⟨next, rfl⟩)
  | case7 budget here name rest hopen hdot hup hsize next hentry hrest => exact .inl rfl
  | case8 budget here name rest hopen hdot hup hsize next hentry ih =>
    rwa [FileTree.walk_directory (hname' hopen hdot hup hsize) (h.entries _ _ hentry)]
  | case9 budget here name hopen hdot hup hsize next content stamp serial hentry =>
    exact .inr (.inr (FileTree.walk_file (hname' hopen hdot hup hsize) (h.entries _ _ hentry)))
  | case10 budget here name rest hopen hdot hup hsize next content stamp serial hentry hrest =>
    refine .inr (.inr ?_)
    rw [FileTree.walk_cons (hname' hopen hdot hup hsize), h.entries _ _ hentry]
    exact if_neg hrest
  | case11 budget here name rest hopen hdot hup hsize next target hentry hstop =>
    obtain ⟨rfl, hfollow⟩ := hstop
    obtain rfl : follow = false := Bool.not_eq_true' follow ▸ hfollow
    exact .inr (.inr (FileTree.walk_last_link (hname' hopen hdot hup hsize) (h.entries _ _ hentry)))
  | case12 here name rest hopen hdot hup hsize next target hentry hgo =>
    refine .inr (.inr ?_)
    rw [FileTree.walk_cons (hname' hopen hdot hup hsize), h.entries _ _ hentry]
    exact if_neg hgo
  | case13 here name rest hopen hdot hup hsize next target hentry hgo budget ih =>
    rwa [FileTree.walk_link (hname' hopen hdot hup hsize) (h.entries _ _ hentry) hgo]

/-- Once a directory is made where a walk found nothing, the names ahead lead there. -/
theorem Keeps.leads (h : Keeps t t') (hwalk : t.walk follow budget here todo = .ok (place, none))
    (hplace : t'.get? place = some .directory) : ∃ left, Leads t' budget here todo left place := by
  have hopen' {here : List String} (hopen : here ∉ t.locked) : here ∉ t'.locked := h.locked ▸ hopen
  fun_induction FileTree.walk t follow budget here todo with
  | case1 budget here =>
    rw [Except.ok.injEq, Prod.mk.injEq] at hwalk
    obtain ⟨rfl, -⟩ := hwalk
    exact ⟨budget, .done _ _⟩
  | case3 budget here rest hopen ih =>
    obtain ⟨left, hleft⟩ := ih hwalk
    exact ⟨left, .dot (hopen' hopen) hleft⟩
  | case4 budget here rest hopen hdot ih =>
    obtain ⟨left, hleft⟩ := ih hwalk
    exact ⟨left, .up (hopen' hopen) hleft⟩
  | case6 budget here name hopen hdot hup hsize next hentry =>
    rw [Except.ok.injEq, Prod.mk.injEq] at hwalk
    obtain ⟨rfl, -⟩ := hwalk
    exact ⟨budget, .directory ⟨hopen' hopen, hdot, hup, Nat.not_lt.mp hsize⟩ hplace (.done _ _)⟩
  | case8 budget here name rest hopen hdot hup hsize next hentry ih =>
    obtain ⟨left, hleft⟩ := ih hwalk
    exact ⟨left, .directory ⟨hopen' hopen, hdot, hup, Nat.not_lt.mp hsize⟩ (h.entries _ _ hentry) hleft⟩
  | case13 here name rest hopen hdot hup hsize next target hentry hgo budget ih =>
    obtain ⟨left, hleft⟩ := ih hwalk
    exact ⟨left, .link ⟨hopen' hopen, hdot, hup, Nat.not_lt.mp hsize⟩ (h.entries _ _ hentry) hleft⟩
  | _ => simp at hwalk

/-- Where something is found, something is found also if a last link is not followed. -/
theorem exists_walk_false {e : Entry} (h : t.walk true budget here todo = .ok (place, some e)) :
    ∃ place' e', t.walk false budget here todo = .ok (place', some e') := by
  fun_induction walk t true budget here todo with
  | case1 budget here =>
    rw [Except.ok.injEq, Prod.mk.injEq] at h
    exact ⟨here, e, by rw [walk, h.2]⟩
  | case3 budget here rest hopen ih => rw [walk, if_neg hopen, if_pos rfl]; exact ih h
  | case4 budget here rest hopen hdot ih => rw [walk, if_neg hopen, if_neg hdot, if_pos rfl]; exact ih h
  | case8 budget here name rest hopen hdot hup hsize next hentry ih =>
    rw [walk_directory ⟨hopen, hdot, hup, Nat.not_lt.mp hsize⟩ hentry]
    exact ih h
  | case9 budget here name hopen hdot hup hsize next content stamp serial hentry =>
    exact ⟨_, _, walk_file ⟨hopen, hdot, hup, Nat.not_lt.mp hsize⟩ hentry⟩
  | case13 here name rest hopen hdot hup hsize next target hentry hgo budget ih =>
    have hname : t.Admits here name := ⟨hopen, hdot, hup, Nat.not_lt.mp hsize⟩
    by_cases hrest : rest = []
    · subst hrest
      exact ⟨_, _, walk_last_link hname hentry⟩
    · rw [walk_link hname hentry fun hstop => hrest hstop.1]
      exact ih h
  | case11 budget here name rest hopen hdot hup hsize next target hentry hstop => cases hstop.2
  | _ => simp at h

end FileTree

end Stencil
