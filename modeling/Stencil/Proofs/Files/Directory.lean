import Stencil.Files.Access
import Stencil.Proofs.Files.Walk

/-! Directories: where the names below a directory lead, which directories are there when they were to be made,
and what stays as it was. -/
namespace Stencil

theorem Text.splitOn_of_notMem {sep : Char} {s : List Char} (h : sep ∉ s) : Text.splitOn sep s = [s] := by
  induction s with
  | nil => rfl
  | cons c s ih =>
    rw [List.mem_cons, not_or] at h
    rw [Text.splitOn, if_neg (Ne.symm h.1), ih h.2]

namespace Path

/-- Whether a text is the name of one entry of a directory. -/
structure IsEntryName (name : String) : Prop where
  slash : '/' ∉ name.toList
  zero : '\x00' ∉ name.toList
  nonempty : name ≠ ""
  dot : name ≠ "."
  up : name ≠ ".."
  size : FileTree.nameSize name ≤ FileTree.nameLimit

variable {name : String} {p : Path}

theorem IsEntryName.child (h : IsEntryName name) (p : Path) :
    p.child name = ⟨p.anchor, p.parts ++ [name]⟩ := by
  have hanchor : anchorOf name.toList = "" := by
    unfold anchorOf
    split
    all_goals first
      | rfl
      | next heq => exact absurd (heq ▸ List.mem_cons_self) h.slash
  have hne : name.toList ≠ [] := by simpa using h.nonempty
  have hdot : name.toList ≠ ['.'] := fun heq =>
    h.dot (by rw [← String.ofList_toList (s := name), heq])
  have hparts : partsOf name.toList = [name] := by
    rw [partsOf, Text.splitOn_of_notMem h.slash]
    simp [hne, hdot]
  exact join_relative (p := p) (q := ofString name) (by simp [ofString, ofList, isAbsolute, hanchor])
    |>.trans (by rw [ofString, ofList, hparts])

theorem IsEntryName.parent_child (h : IsEntryName name) (p : Path) : (p.child name).parent = p := by
  rw [h.child, parent]
  simp

theorem IsEntryName.name_child (h : IsEntryName name) (p : Path) : (p.child name).name = name := by
  rw [h.child, Path.name]
  simp

end Path

namespace FileTree

variable {t t' : FileTree} {follow : Bool} {cwd place : List String} {p : Path} {name : String} {fuel : Nat}

theorem nameSize_append (a b : String) : nameSize (a ++ b) = nameSize a + nameSize b := by
  simp [nameSize, Text.Utf8.encode]

theorem find_of_ok {r : List String × Option Entry} (h : t.find follow cwd p = .ok r) :
    hasZero p = false ∧ nameSize p.text < pathLimit ∧
      t.walk follow linkLimit (if p.isAbsolute then [] else cwd) p.steps = .ok r := by
  unfold find at h
  split at h
  · cases h
  split at h
  · cases h
  · exact ⟨by simpa using ‹¬hasZero p = true›, Nat.not_le.mp ‹_›, h⟩

theorem find_eq_walk (hzero : hasZero p = false) (hsize : nameSize p.text < pathLimit) :
    t.find follow cwd p = t.walk follow linkLimit (if p.isAbsolute then [] else cwd) p.steps := by
  rw [find, if_neg (by simp [hzero]), if_neg (Nat.not_le.mpr hsize)]

/-- A path with names is followed by its names. -/
theorem steps_eq_parts (h : p.parts ≠ []) : p.steps = p.parts := if_neg fun hnone => h hnone.2

/-- Where a path leads, its names lead. -/
theorem Leads.parts {budget left : Nat} {here : List String} (h : Leads t budget here p.steps left place) :
    Leads t budget here p.parts left place := by
  by_cases hparts : p.parts = []
  · unfold Path.steps at h
    split at h
    · generalize hdot : ["."] = todo at h
      rw [hparts]
      cases h with
      | done => cases hdot
      | dot _ hrest => rwa [(List.cons.inj hdot).2]
      | up => exact absurd (List.cons.inj hdot).1 (by decide)
      | directory hname => exact absurd (List.cons.inj hdot).1.symm hname.dot
      | link hname => exact absurd (List.cons.inj hdot).1.symm hname.dot
    · exact h
  · rwa [steps_eq_parts hparts] at h

/-- What a path leads to, or why it leads nowhere, is the same where more things stand, unless nothing is there. -/
theorem Keeps.find (h : Keeps t t') (follow : Bool) (cwd : List String) (p : Path) :
    t.find follow cwd p = .error .missing ∨ (∃ place, t.find follow cwd p = .ok (place, none)) ∨
      t'.find follow cwd p = t.find follow cwd p := by
  unfold FileTree.find
  split
  · exact .inr (.inr rfl)
  split
  · exact .inr (.inr rfl)
  · exact h.walk _ _ _ _

/-- A directory stays where it is as long as directories and links stay. -/
theorem KeepsRoads.find (h : KeepsRoads t t') (hp : t.find true cwd p = .ok (place, some .directory)) :
    t'.find true cwd p = .ok (place, some .directory) := by
  obtain ⟨hzero, hsize, hwalk⟩ := find_of_ok hp
  obtain ⟨left, hleads⟩ := exists_leads hwalk
  rw [find_eq_walk hzero hsize, (hleads.mono h).walk_eq, h.roads place .directory rfl (get?_of_walk hwalk)]

/-- The name of a file in an open directory leads to where it stands, or would stand. -/
theorem find_child (hp : t.find true cwd p = .ok (place, some .directory)) (hopen : place ∉ t.locked)
    (hname : Path.IsEntryName name)
    (hsize : nameSize (p.child name).text < pathLimit) (hfile : IsOffRoad t (place ++ [name])) (follow : Bool) :
    t.find follow cwd (p.child name) = .ok (place ++ [name], t.get? (place ++ [name])) := by
  obtain ⟨hzero, -, hwalk⟩ := find_of_ok hp
  obtain ⟨left, hleads⟩ := exists_leads hwalk
  have hzero : hasZero (p.child name) = false := by
    have hnone : name.toList.contains '\x00' = false := by simpa using hname.zero
    rw [hname.child]
    simpa [hasZero, hname.zero] using hzero
  have hadmits : t.Admits place name := ⟨hopen, hname.dot, hname.up, hname.size⟩
  rw [find_eq_walk hzero hsize, hname.child, steps_eq_parts (by simp)]
  refine (hleads.parts.walk_append (.inr (List.cons_ne_nil name []))).trans ?_
  cases hentry : t.get? (place ++ [name]) with
  | none =>
    rw [walk_cons hadmits, hentry]
    rfl
  | some e =>
    cases e with
    | file content stamp serial => exact walk_file hadmits hentry
    | directory => cases hfile _ hentry
    | link target => cases hfile _ hentry

/-! ### Looks -/

theorem isDirectory_eq_true_iff :
    t.isDirectory cwd p = .ok true ↔ ∃ place, t.find true cwd p = .ok (place, some .directory) := by
  unfold isDirectory entry?
  constructor
  · intro h
    cases hp : t.find true cwd p with
    | error fault =>
      rw [hp] at h
      dsimp only at h
      split at h <;> cases h
    | ok r =>
      obtain ⟨place, e⟩ := r
      rw [hp] at h
      rcases e with _ | ⟨_ | _ | _⟩
      · cases h
      · cases h
      · exact ⟨place, rfl⟩
      · cases h
  · rintro ⟨place, hp⟩
    rw [hp]
    rfl

theorem hasEntry_of_find {e : Option Entry} (h : t.find true cwd p = .ok (place, e)) :
    t.hasEntry cwd p = .ok e.isSome := by
  rw [hasEntry, entry?, h]
  rfl

theorem names_of_find (h : t.find true cwd p = .ok (place, some .directory)) :
    t.names cwd p = t.namesBelow place := by
  rw [names, h]

/-! ### Directories that are made -/

theorem makeDirectory_keeps (h : t.makeDirectory cwd p = .ok t') :
    Keeps t t' ∧ ∃ place, t'.find true cwd p = .ok (place, some .directory) := by
  unfold makeDirectory at h
  split at h
  · cases h
  · cases h
  · next place hp =>
    obtain ⟨hzero, hsize, hwalk⟩ := find_of_ok hp
    have hnone : t.get? place = none := get?_of_walk hwalk
    cases h
    have hkeeps := keeps_put hnone .directory
    have hne : place ≠ [] := by
      rintro rfl
      cases hnone
    have hmade : (t.put place .directory).get? place = some .directory := by
      rw [get?_put hne, if_pos rfl]
    obtain ⟨left, hleads⟩ := hkeeps.leads hwalk hmade
    exact ⟨hkeeps, place, by rw [find_eq_walk hzero hsize, hleads.walk_eq, hmade]⟩

theorem find_of_settle {fault : PathFault}
    (h : (match t.isDirectory cwd p with
      | .ok true => .ok t
      | _ => .error (fault, p) : Except (PathFault × Path) FileTree) = .ok t') :
    t = t' ∧ ∃ place, t.find true cwd p = .ok (place, some .directory) := by
  split at h
  · next hdirectory =>
    cases h
    exact ⟨rfl, isDirectory_eq_true_iff.mp hdirectory⟩
  · cases h

/-- A directory that was made is there, and so is everything that was there before. -/
theorem makeDirectories_keeps (h : t.makeDirectories cwd fuel p = .ok t') :
    Keeps t t' ∧ ∃ place, t'.find true cwd p = .ok (place, some .directory) := by
  fun_induction makeDirectories t cwd fuel p generalizing t' with
  | case1 fuel p made hmade =>
    cases h
    exact makeDirectory_keeps hmade
  | case2 p hmissing => cases h
  | case3 p hmissing fuel fault hparent ih => cases h
  | case4 p hmissing fuel above hparent made hmade ih =>
    cases h
    obtain ⟨hmade, hp⟩ := makeDirectory_keeps hmade
    exact ⟨(ih hparent).1.trans hmade, hp⟩
  | case5 p settle hmissing fuel above hparent fault hfault =>
    rename_i ih
    obtain ⟨rfl, hp⟩ := find_of_settle h
    exact ⟨(ih hparent).1, hp⟩
  | case6 fuel p fault hother hfault =>
    obtain ⟨rfl, hp⟩ := find_of_settle h
    exact ⟨.refl _, hp⟩

/-- A directory that is there need not be made. -/
theorem makeDirectories_of_find (h : t.find true cwd p = .ok (place, some .directory)) :
    t.makeDirectories cwd fuel p = .ok t := by
  obtain ⟨hzero, hsize, hwalk⟩ := find_of_ok h
  obtain ⟨place', e, hwalk⟩ := exists_walk_false hwalk
  have hpresent : t.makeDirectory cwd p = .error .present := by
    rw [makeDirectory, find_eq_walk hzero hsize, hwalk]
  have hdirectory := isDirectory_eq_true_iff.mpr ⟨place, h⟩
  unfold makeDirectories
  simp only [hpresent, hdirectory]

/-- A directory that can be made is there already, or nothing is found where it is going to be. -/
theorem directory_or_absent (h : t.makeDirectories cwd fuel p = .ok t') :
    (∃ place, t.find true cwd p = .ok (place, some .directory)) ∨ t.hasEntry cwd p = .ok false := by
  obtain ⟨hkeeps, place, hp⟩ := makeDirectories_keeps h
  rcases hkeeps.find true cwd p with hmissing | ⟨place', hnone⟩ | hsame
  · right
    rw [hasEntry, entry?, hmissing]
    rfl
  · exact .inr (hasEntry_of_find hnone)
  · exact .inl ⟨place, hsame.symm.trans hp⟩

end FileTree

end Stencil
