import Stencil.Files.Json
import Stencil.Proofs.Files.Directory
import Stencil.Proofs.Session
import Stencil.Proofs.Text.PrefixCode

/-! Reading, writing and taking away one file of a directory. Each succeeds, and the rest of the tree is left
as it was. -/
namespace Stencil.Files

open Act (run_bind_ok run_get_bind)
open FileTree (IsOffRoad ChangesAt nameSize nameLimit pathLimit)

variable {s s' : Session} {p directory : Path} {place : List String} {name : String}

theorem run_look {α : Type} {f : FileTree → List String → Path → Except PathFault α} {a : α}
    (h : f s.tree s.cwd p = .ok a) : look p f s = .ok a s := by
  unfold look
  rw [run_get_bind, h]
  rfl

theorem run_change {f : FileTree → List String → Path → Except PathFault FileTree} {t : FileTree}
    (h : f s.tree s.cwd p = .ok t) : change p f s = .ok () { s with tree := t } := by
  unfold change
  rw [run_bind_ok (run_look h)]
  rfl

theorem run_hasEntry {found : Bool} (h : s.tree.hasEntry s.cwd p = .ok found) : hasEntry p s = .ok found s :=
  run_look h

theorem run_makeDirectories {t : FileTree} (h : s.tree.makeDirectories s.cwd p.parts.length p = .ok t) :
    makeDirectories p s = .ok () { s with tree := t } := by
  unfold makeDirectories
  rw [run_get_bind, h]
  rfl

/-- A directory that is there is left as it is. -/
theorem run_ensureDirectory_found (h : s.tree.find true s.cwd directory = .ok (place, some .directory)) :
    ensureDirectory directory true s = .ok () s := by
  unfold ensureDirectory
  rw [run_bind_ok (run_hasEntry (FileTree.hasEntry_of_find h)), Option.isSome_some, if_pos rfl,
    run_bind_ok (show isDirectory directory s = .ok true s from
      run_look (FileTree.isDirectory_eq_true_iff.mpr ⟨place, h⟩))]
  rfl

/-- A directory that is not there is made. -/
theorem run_ensureDirectory_made {t : FileTree} (habsent : s.tree.hasEntry s.cwd directory = .ok false)
    (hmade : s.tree.makeDirectories s.cwd directory.parts.length directory = .ok t) :
    ensureDirectory directory true s = .ok () { s with tree := t } := by
  unfold ensureDirectory
  rw [run_bind_ok (run_hasEntry habsent), if_neg Bool.false_ne_true]
  exact run_makeDirectories hmade

/-- A directory that cannot be made is refused. -/
theorem run_ensureDirectory_error {fault : PathFault} {q : Path}
    (habsent : s.tree.hasEntry s.cwd directory = .ok false)
    (hmade : s.tree.makeDirectories s.cwd directory.parts.length directory = .error (fault, q)) :
    ensureDirectory directory true s = .error (.ofPathFault fault q.text) s := by
  unfold ensureDirectory makeDirectories
  rw [run_bind_ok (run_hasEntry habsent), if_neg Bool.false_ne_true, if_pos rfl,
    run_get_bind, hmade]
  rfl

/-! ### A file of a directory -/

/-- Whether an open directory is found, and what stands under a name in it is a file or nothing. -/
structure IsFileOf (s : Session) (directory : Path) (place : List String) (name : String) : Prop where
  found : s.tree.find true s.cwd directory = .ok (place, some .directory)
  opened : place ∉ s.tree.locked
  isEntryName : Path.IsEntryName name
  size : nameSize (directory.child name).text < pathLimit
  isOffRoad : IsOffRoad s.tree (place ++ [name])

theorem IsFileOf.find (h : IsFileOf s directory place name) (follow : Bool) :
    s.tree.find follow s.cwd (directory.child name) =
      .ok (place ++ [name], s.tree.get? (place ++ [name])) :=
  FileTree.find_child h.found h.opened h.isEntryName h.size h.isOffRoad follow

theorem IsFileOf.hasZero (h : IsFileOf s directory place name) :
    FileTree.hasZero (directory.child name) = false :=
  (FileTree.find_of_ok (h.find true)).1

theorem IsFileOf.run_ensureParent (h : IsFileOf s directory place name) :
    ensureParent (directory.child name) s = .ok () s := by
  rw [ensureParent, h.isEntryName.parent_child]
  exact run_makeDirectories (FileTree.makeDirectories_of_find h.found)

/-- A file that holds a text is read as that text. -/
theorem run_readLines_of_find {p : Path} {text : List Char} {stamp serial : Nat}
    (hfind : s.tree.find true s.cwd p = .ok (place, some (.file (Text.Utf8.encode text) stamp serial))) :
    readLines p s = .ok (Text.Utf8.foldNewlines text) s := by
  have hbytes : readBytes p s = .ok (Text.Utf8.encode text) s := run_look (by rw [FileTree.read, hfind])
  unfold readLines
  rw [run_bind_ok hbytes, Text.Utf8.decode_encode]
  rfl

theorem IsFileOf.run_readJson?_none (h : IsFileOf s directory place name)
    (hnone : s.tree.get? (place ++ [name]) = none) :
    readJson? (directory.child name) s = .ok none s := by
  have hfind := h.find true
  rw [hnone] at hfind
  unfold readJson?
  rw [run_bind_ok (run_hasEntry (FileTree.hasEntry_of_find hfind))]
  rfl

/-- A file that holds the text of a value is read as that value. -/
theorem IsFileOf.run_readJson?_some (h : IsFileOf s directory place name) {text : List Char}
    {stamp serial : Nat} {v : Value}
    (hfile : s.tree.get? (place ++ [name]) = some (.file (Text.Utf8.encode text) stamp serial))
    (hparse : parseJson (Text.Utf8.foldNewlines text) = .ok v) :
    readJson? (directory.child name) s = .ok (some v) s := by
  have hfind := h.find true
  rw [hfile] at hfind
  unfold readJson?
  rw [run_bind_ok (run_hasEntry (FileTree.hasEntry_of_find hfind)), Option.isSome_some, if_pos rfl,
    run_bind_ok (run_readLines_of_find hfind), hparse]
  rfl

/-- Taking away a file takes away nothing else. -/
theorem IsFileOf.run_unlink (h : IsFileOf s directory place name) :
    ∃ t, unlink (directory.child name) s = .ok () { s with tree := t } ∧
      ChangesAt s.tree t (place ++ [name]) none := by
  have hfind := h.find false
  cases hentry : s.tree.get? (place ++ [name]) with
  | none =>
    rw [hentry] at hfind
    refine ⟨s.tree, run_change (by rw [FileTree.unlink, hfind]), fun q => ?_, rfl⟩
    split
    · next hq => rw [hq, hentry]
    · rfl
  | some e =>
    rw [hentry] at hfind
    have hfile : e ≠ .directory := by
      rintro rfl
      cases h.isOffRoad _ hentry
    refine ⟨s.tree.remove (place ++ [name]), run_change ?_, fun q => FileTree.get?_remove (by simp) q, rfl⟩
    rw [FileTree.unlink, hfind]
    cases e <;> first | rfl | exact absurd rfl hfile

/-- A file of a directory is one still when another one was taken away. -/
theorem IsFileOf.unlinked {other : String} {t : FileTree} (h : IsFileOf s directory place name)
    (hother : IsOffRoad s.tree (place ++ [other])) (ht : ChangesAt s.tree t (place ++ [other]) none) :
    IsFileOf { s with tree := t } directory place name where
  found := (hother.keepsRoads ht).find h.found
  opened := ht.locked ▸ h.opened
  isEntryName := h.isEntryName
  size := h.size
  isOffRoad e he := by
    rw [show ({ s with tree := t } : Session).tree.get? (place ++ [name]) = _ from ht.entries _] at he
    split at he
    · cases he
    · exact h.isOffRoad e he

/-- Writing a file writes no other one. -/
theorem IsFileOf.run_writeWith (h : IsFileOf s directory place name)
    (hdraft : nameSize name + draftMargin ≤ nameLimit) {content : Act (List Char)} {text : List Char}
    (hcontent : content s = .ok text s) :
    ∃ t, writeWith (directory.child name) content s = .ok () { s with tree := t } ∧
      ChangesAt s.tree t (place ++ [name])
        (some (.file (Text.Utf8.encode text) s.tree.stamp s.tree.stamp)) := by
  have hfind := h.find false
  have hends : FileTree.endsInName (directory.child name) = true := by
    rw [h.isEntryName.child, FileTree.endsInName]
    simpa using h.isEntryName.up
  have hreplace : s.tree.replace s.cwd (directory.child name) (Text.Utf8.encode text) =
      .ok (s.tree.write (place ++ [name]) (Text.Utf8.encode text) s.tree.stamp) := by
    rw [FileTree.replace, hends, Bool.not_true, if_neg Bool.false_ne_true, hfind]
    cases hentry : s.tree.get? (place ++ [name]) with
    | none => rfl
    | some e =>
      cases e with
      | directory => cases h.isOffRoad _ hentry
      | file _ _ _ => rfl
      | link _ => rfl
  refine ⟨_, ?_, fun q => FileTree.get?_write (by simp) _ _ q, rfl⟩
  unfold writeWith
  rw [run_bind_ok h.run_ensureParent, h.hasZero, if_neg Bool.false_ne_true, h.isEntryName.name_child,
    if_neg (Nat.not_lt.mpr hdraft)]
  exact (run_bind_ok hcontent).trans (run_change hreplace)

theorem IsFileOf.run_writeText (h : IsFileOf s directory place name)
    (hdraft : nameSize name + draftMargin ≤ nameLimit) (text : List Char) :
    ∃ t, writeText (directory.child name) text s = .ok () { s with tree := t } ∧
      ChangesAt s.tree t (place ++ [name])
        (some (.file (Text.Utf8.encode text) s.tree.stamp s.tree.stamp)) :=
  h.run_writeWith hdraft rfl

theorem IsFileOf.run_writeJson (h : IsFileOf s directory place name)
    (hdraft : nameSize name + draftMargin ≤ nameLimit) {v : Value} (hfault : Json.fault? v = none) :
    ∃ t, writeJson (directory.child name) 2 true v s = .ok () { s with tree := t } ∧
      ChangesAt s.tree t (place ++ [name])
        (some (.file (Text.Utf8.encode (Json.render .block 0 (Json.sortKeys v))) s.tree.stamp s.tree.stamp)) := by
  unfold writeJson
  rw [hfault]
  exact h.run_writeWith hdraft rfl

/-- A file is not written if its name leaves no room for the name of the file in the making. -/
theorem IsFileOf.run_writeJson_long (h : IsFileOf s directory place name)
    (hlong : nameLimit < nameSize name + draftMargin) (v : Value) :
    writeJson (directory.child name) 2 true v s =
      .error (.system .nameTooLong (directory.child name).text) s := by
  unfold writeJson writeWith
  rw [run_bind_ok h.run_ensureParent, h.hasZero, if_neg Bool.false_ne_true, h.isEntryName.name_child,
    if_pos hlong]
  rfl

end Stencil.Files
