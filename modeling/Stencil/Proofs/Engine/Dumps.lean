import Mathlib.Data.List.TakeWhile
import Stencil.Proofs.Engine.Containment
import Stencil.Proofs.Files.Access

/-! Engines that write compiled text. Each page has a file of its own in the directory for such texts, and writing it
changes no other file. Templates that are found elsewhere are found as before, with what they hold. -/
namespace Stencil

namespace FileTree

variable {own : List String → Prop} {t t' : FileTree} {follow : Bool} {budget : Nat}
  {here todo rest cwd place : List String} {name : String} {p : Path} {e : Option Entry}

/-- Whether two trees differ only in what files stand at the places `own`, where neither has anything but files. -/
structure SameOff (own : List String → Prop) (t t' : FileTree) : Prop where
  entries : ∀ q, ¬own q → t'.get? q = t.get? q
  isOffRoad : ∀ q, own q → IsOffRoad t q
  isOffRoad' : ∀ q, own q → IsOffRoad t' q
  locked : t'.locked = t.locked

theorem SameOff.refl (h : ∀ q, own q → IsOffRoad t q) : SameOff own t t := ⟨fun _ _ => rfl, h, h, rfl⟩

theorem SameOff.keepsRoads (h : SameOff own t t') : KeepsRoads t t' := by
  refine ⟨fun q e he hq => ?_, h.locked⟩
  rw [h.entries, hq]
  intro hown
  cases he.symm.trans (h.isOffRoad q hown e hq)

/-- A file that is written at one of the places is no other difference. -/
theorem SameOff.changesAt {t'' : FileTree} (h : SameOff own t t') (hplace : own place) {content : List UInt8}
    {stamp serial : Nat} (ht : ChangesAt t' t'' place (some (.file content stamp serial))) : SameOff own t t'' where
  entries q hq := by
    rw [ht.entries, if_neg, h.entries q hq]
    rintro rfl
    exact hq hplace
  isOffRoad := h.isOffRoad
  isOffRoad' q hq e he := by
    rw [ht.entries] at he
    split at he
    · cases he
      rfl
    · exact h.isOffRoad' q hq e he
  locked := ht.locked.trans h.locked

/-! ### Walks -/

/-- A walk ends where no road goes on. -/
theorem walk_of_isOffRoad (hname : t.Admits here name) (hoff : IsOffRoad t (here ++ [name])) :
    t.walk follow budget here [name] = .ok (here ++ [name], t.get? (here ++ [name])) := by
  cases hentry : t.get? (here ++ [name]) with
  | none =>
    rw [walk_cons hname, hentry]
    rfl
  | some e =>
    cases e with
    | file content stamp serial => exact walk_file hname hentry
    | directory => cases hoff _ hentry
    | link target => cases hoff _ hentry

/-- Behind that place nothing is found. -/
theorem exists_fault_of_isOffRoad (hname : t.Admits here name) (hoff : IsOffRoad t (here ++ [name])) (hrest : rest ≠ []) :
    ∃ fault, t.walk follow budget here (name :: rest) = .error fault ∧ isAbsence fault = true := by
  cases hentry : t.get? (here ++ [name]) with
  | none =>
    refine ⟨.missing, ?_, rfl⟩
    rw [walk_cons hname, hentry]
    exact if_neg hrest
  | some e =>
    cases e with
    | file content stamp serial =>
      refine ⟨.notDirectory, ?_, rfl⟩
      rw [walk_cons hname, hentry]
      exact if_neg hrest
    | directory => cases hoff _ hentry
    | link target => cases hoff _ hentry

/-- What a walk comes to in two such trees: the same, the same one of the places, or nothing. -/
inductive SameWalk (own : List String → Prop) (t t' : FileTree) :
    Except PathFault (List String × Option Entry) → Except PathFault (List String × Option Entry) → Prop
  | same (r : Except PathFault (List String × Option Entry)) : SameWalk own t t' r r
  | own {q : List String} (hq : own q) : SameWalk own t t' (.ok (q, t.get? q)) (.ok (q, t'.get? q))
  | absent {fault fault' : PathFault} (h : isAbsence fault = true) (h' : isAbsence fault' = true) :
    SameWalk own t t' (.error fault) (.error fault')

theorem SameOff.walk (h : SameOff own t t') (follow : Bool) (budget : Nat) (here todo : List String) :
    SameWalk own t t' (t.walk follow budget here todo) (t'.walk follow budget here todo) := by
  have hopen' {here : List String} (hopen : here ∉ t.locked) : here ∉ t'.locked := h.locked ▸ hopen
  have hoff' {q : List String} (hoff : IsOffRoad t q) : IsOffRoad t' q := by
    by_cases hown : own q
    · exact h.isOffRoad' _ hown
    · exact fun e he => hoff e (h.entries _ hown ▸ he)
  have hplace (q : List String) : SameWalk own t t' (.ok (q, t.get? q)) (.ok (q, t'.get? q)) := by
    by_cases hown : own q
    · exact .own hown
    · rw [h.entries q hown]
      exact .same _
  have hlast {budget : Nat} {here : List String} {name : String} {r : Option Entry} (hname : t'.Admits here name)
      (hentry : t.get? (here ++ [name]) = r) (hoff : ∀ e, r = some e → e.isRoad = false) :
      SameWalk own t t' (.ok (here ++ [name], r)) (t'.walk follow budget here [name]) := by
    rw [walk_of_isOffRoad hname (hoff' fun e he => hoff e (hentry ▸ he)), ← hentry]
    exact hplace _
  have hbehind {budget : Nat} {here rest : List String} {name : String} {fault : PathFault} {r : Option Entry}
      (hname : t'.Admits here name) (hentry : t.get? (here ++ [name]) = r) (hoff : ∀ e, r = some e → e.isRoad = false)
      (hrest : rest ≠ []) (hfault : isAbsence fault = true) :
      SameWalk own t t' (.error fault) (t'.walk follow budget here (name :: rest)) := by
    obtain ⟨fault', hwalk, hfault'⟩ :=
      exists_fault_of_isOffRoad hname (hoff' fun e he => hoff e (hentry ▸ he)) hrest
    rw [hwalk]
    exact .absent hfault hfault'
  fun_induction FileTree.walk t follow budget here todo with
  | case1 budget here =>
    rw [FileTree.walk]
    exact hplace here
  | case2 budget here name rest hclosed =>
    rw [FileTree.walk, if_pos (h.locked.symm ▸ hclosed)]
    exact .same _
  | case3 budget here rest hopen ih => rwa [FileTree.walk, if_neg (hopen' hopen), if_pos rfl]
  | case4 budget here rest hopen hdot ih =>
    rwa [FileTree.walk, if_neg (hopen' hopen), if_neg hdot, if_pos rfl]
  | case5 budget here name rest hopen hdot hup hsize =>
    rw [FileTree.walk, if_neg (hopen' hopen), if_neg hdot, if_neg hup, if_pos hsize]
    exact .same _
  | case6 budget here name hopen hdot hup hsize next hentry =>
    exact hlast ⟨hopen' hopen, hdot, hup, Nat.not_lt.mp hsize⟩ hentry fun _ he => by cases he
  | case7 budget here name rest hopen hdot hup hsize next hentry hrest =>
    exact hbehind ⟨hopen' hopen, hdot, hup, Nat.not_lt.mp hsize⟩ hentry (fun _ he => by cases he) hrest rfl
  | case8 budget here name rest hopen hdot hup hsize next hentry ih =>
    rwa [walk_directory (t := t') ⟨hopen' hopen, hdot, hup, Nat.not_lt.mp hsize⟩
      (h.keepsRoads.roads _ _ rfl hentry)]
  | case9 budget here name hopen hdot hup hsize next content stamp serial hentry =>
    exact hlast ⟨hopen' hopen, hdot, hup, Nat.not_lt.mp hsize⟩ hentry fun e he => by cases he; rfl
  | case10 budget here name rest hopen hdot hup hsize next content stamp serial hentry hrest =>
    exact hbehind ⟨hopen' hopen, hdot, hup, Nat.not_lt.mp hsize⟩ hentry (fun e he => by cases he; rfl) hrest rfl
  | case11 budget here name rest hopen hdot hup hsize next target hentry hstop =>
    obtain ⟨rfl, hfollow⟩ := hstop
    obtain rfl : follow = false := Bool.not_eq_true' follow ▸ hfollow
    rw [walk_last_link (t := t') ⟨hopen' hopen, hdot, hup, Nat.not_lt.mp hsize⟩ (h.keepsRoads.roads _ _ rfl hentry)]
    exact .same _
  | case12 here name rest hopen hdot hup hsize next target hentry hgo =>
    rw [walk_cons (t := t') ⟨hopen' hopen, hdot, hup, Nat.not_lt.mp hsize⟩, h.keepsRoads.roads _ _ rfl hentry]
    dsimp only
    rw [if_neg hgo]
    exact .same _
  | case13 here name rest hopen hdot hup hsize next target hentry hgo budget ih =>
    rwa [walk_link (t := t') ⟨hopen' hopen, hdot, hup, Nat.not_lt.mp hsize⟩ (h.keepsRoads.roads _ _ rfl hentry) hgo]

theorem SameOff.find (h : SameOff own t t') (follow : Bool) (cwd : List String) (p : Path) :
    SameWalk own t t' (t.find follow cwd p) (t'.find follow cwd p) := by
  unfold FileTree.find
  split
  · exact .same _
  split
  · exact .same _
  · exact h.walk _ _ _ _

/-- Whether a path leads to none of the places. -/
def LeadsOff (own : List String → Prop) (t : FileTree) (cwd : List String) (p : Path) : Prop :=
  ∀ q e, t.find true cwd p = .ok (q, e) → ¬own q

/-- Such a path leads to the same entry, or to nothing in both trees. -/
theorem SameOff.find_eq_or (h : SameOff own t t') (hp : LeadsOff own t cwd p) :
    t'.find true cwd p = t.find true cwd p ∨ ∃ fault fault', isAbsence fault = true ∧ isAbsence fault' = true ∧
      t.find true cwd p = .error fault ∧ t'.find true cwd p = .error fault' := by
  have hsame := h.find true cwd p
  unfold LeadsOff at hp
  generalize t.find true cwd p = r at hsame hp
  generalize t'.find true cwd p = r' at hsame
  cases hsame with
  | same => exact .inl rfl
  | own hown => exact absurd hown (hp _ _ rfl)
  | absent hfault hfault' => exact .inr ⟨_, _, hfault, hfault', rfl, rfl⟩

theorem SameOff.entry_eq (h : SameOff own t t') (hp : LeadsOff own t cwd p) : t'.entry? cwd p = t.entry? cwd p := by
  unfold entry?
  rcases h.find_eq_or hp with hsame | ⟨fault, fault', hfault, hfault', hfind, hfind'⟩
  · rw [hsame]
  · simp only [hfind, hfind', hfault, hfault', if_true]

theorem SameOff.readTextFile_eq (h : SameOff own t t') (hp : LeadsOff own t cwd p) :
    Template.readTextFile ⟨t', cwd⟩ p = Template.readTextFile ⟨t, cwd⟩ p := by
  unfold Template.readTextFile
  simp only [hasEntry, h.entry_eq hp, read]
  rcases h.find_eq_or hp with hsame | ⟨fault, fault', hfault, -, hfind, -⟩
  · rw [hsame]
  · have hnone : t.entry? cwd p = .ok none := by simp only [hfind, hfault, entry?, if_true]
    rw [hnone]
    rfl

/-- Where no link is followed, a walk ends at the last name. -/
theorem getLast?_of_walk {last : String} {front : List String} (hlinks : ∀ q target, t.get? q ≠ some (.link target))
    (hdot : last ≠ ".") (hup : last ≠ "..")
    (h : t.walk follow budget here (front ++ [last]) = .ok (place, e)) : place.getLast? = some last := by
  generalize htodo : front ++ [last] = todo at h
  fun_induction walk t follow budget here todo generalizing front with
  | case1 budget here => simp at htodo
  | case3 budget here rest hopen ih =>
    cases front with
    | nil => exact absurd (List.cons.inj htodo).1 hdot
    | cons name front => exact ih (List.cons.inj htodo).2 h
  | case4 budget here rest hopen hnot ih =>
    cases front with
    | nil => exact absurd (List.cons.inj htodo).1 hup
    | cons name front => exact ih (List.cons.inj htodo).2 h
  | case6 budget here name hopen hnot hnotUp hsize next =>
    cases front with
    | nil =>
      obtain ⟨rfl, -⟩ := List.cons.inj htodo
      obtain ⟨rfl, -⟩ := Prod.mk.inj (Except.ok.inj h)
      exact List.getLast?_concat
    | cons name front => simp at htodo
  | case8 budget here name rest hopen hnot hnotUp hsize next hentry =>
    rename_i ih
    cases front with
    | nil =>
      obtain ⟨rfl, rfl⟩ := List.cons.inj htodo
      rw [walk] at h
      obtain ⟨rfl, -⟩ := Prod.mk.inj (Except.ok.inj h)
      exact List.getLast?_concat
    | cons name front => exact ih (List.cons.inj htodo).2 h
  | case9 budget here name hopen hnot hnotUp hsize next content stamp serial =>
    cases front with
    | nil =>
      obtain ⟨rfl, -⟩ := List.cons.inj htodo
      obtain ⟨rfl, -⟩ := Prod.mk.inj (Except.ok.inj h)
      exact List.getLast?_concat
    | cons name front => simp at htodo
  | case11 budget here name rest hopen hnot hnotUp hsize next target hentry => exact absurd hentry (hlinks _ _)
  | case13 here name rest hopen hnot hnotUp hsize next target hentry => exact absurd hentry (hlinks _ _)
  | _ => cases h

end FileTree

namespace Template.Locator

open FileTree (SameOff LeadsOff)

variable {l : Locator} {own : List String → Prop} {t t' : FileTree} {cwd : List String}

/-- Whether no template has its file at one of the places. -/
def KeepsOff (l : Locator) (own : List String → Prop) (t : FileTree) (cwd : List String) : Prop :=
  ∀ kind name, ¬IsAstray (Text.strip name.toList) → ∀ p ∈ l.tried kind name, LeadsOff own t cwd p

theorem firstFile_congr {files files' : FileView} {paths : List Path}
    (h : ∀ p ∈ paths, files.tree.isFile files.cwd p = files'.tree.isFile files'.cwd p) :
    firstFile files paths = firstFile files' paths := by
  induction paths with
  | nil => rfl
  | cons p paths ih =>
    obtain ⟨hp, hpaths⟩ := List.forall_mem_cons.mp h
    rw [firstFile, firstFile, hp, ih hpaths]

/-- The templates are the same, and so is what they hold, whatever stands at the places. -/
theorem KeepsOff.load_eq (h : l.KeepsOff own t cwd) (hsame : SameOff own t t') :
    (l.library ⟨t, cwd⟩).load = (l.library ⟨t', cwd⟩).load := by
  refine Library.load_eq (fun kind name => ?_) fun kind name p hp => ?_
  · change l.resolve _ kind name = l.resolve _ kind name
    by_cases hastray : IsAstray (Text.strip name.toList)
    · rw [resolve_of_isAstray hastray, resolve_of_isAstray hastray]
    · have hlook (p : Path) (hp : p ∈ l.tried kind name) : t.isFile cwd p = t'.isFile cwd p := by
        rw [FileTree.isFile, FileTree.isFile, hsame.entry_eq (h kind name hastray p hp)]
      have hfirst : firstFile ⟨t, cwd⟩ (l.tried kind name) = firstFile ⟨t', cwd⟩ (l.tried kind name) :=
        firstFile_congr hlook
      rw [resolve_of_firstFile hastray, resolve_of_firstFile hastray, hfirst]
  · obtain ⟨hastray, before, after, htried, -⟩ := resolve_eq_ok_iff.mp hp
    have hmem : p ∈ l.tried kind name := by
      rw [htried]
      exact List.mem_append_right before List.mem_cons_self
    exact (hsame.readTextFile_eq (h kind name hastray p hmem)).symm

end Template.Locator

namespace Engine

open FileTree (SameOff IsOffRoad)
open Template.Locator

variable {e : Engine} {tree : FileTree} {cwd place : List String} {directory : Path} {s : Session}

/-! ### Files of compiled text -/

/-- Whether a place is one for compiled text in a directory. -/
def IsDumpPlace (place q : List String) : Prop := ∃ name, q = place ++ [name ++ dumpSuffix]

/-- Where no link stands, no template has such a place if its file ends in something else. -/
theorem keepsOff_isDumpPlace {l : Template.Locator} (hlinks : ∀ q target, tree.get? q ≠ some (.link target))
    (hslash : '/' ∉ l.extension.toList) (hends : ∀ x y : String, x ++ l.extension ≠ y ++ dumpSuffix)
    (cwd place : List String) : l.KeepsOff (IsDumpPlace place) tree cwd := by
  rintro kind name hastray p hp q entry hfind ⟨page, rfl⟩
  obtain ⟨beside, -, rfl⟩ := List.mem_map.mp hp
  have hplain : ∀ c ∈ l.extension.toList, decide (c ≠ '/') = true := fun c hc =>
    decide_eq_true fun heq => hslash (heq ▸ hc)
  have htake : l.extension.toList.takeWhile (· ≠ '/') = l.extension.toList := List.takeWhile_eq_self_iff.mpr hplain
  have hdrop : l.extension.toList.dropWhile (· ≠ '/') = [] := List.dropWhile_eq_nil_iff.mpr hplain
  obtain ⟨front, last, hparts, hown⟩ := exists_names (l := l) hastray
  rw [htake, String.ofList_toList] at hown
  have hfile : l.fileIn name beside = ⟨beside.anchor, (beside.parts ++ front) ++ [last ++ l.extension]⟩ := by
    have hnone : l.extensionNames = [] := by
      rw [extensionNames, hdrop]
      rfl
    rw [fileIn_eq hastray, hown, hnone, List.append_nil, List.append_assoc]
  have hlast : Path.IsName last := by
    refine Path.isName_of_mem_partsOf (s := Text.strip name.toList) ?_
    rw [show Path.partsOf (Text.strip name.toList) = _ from hparts]
    exact List.mem_append_right front List.mem_cons_self
  have hdot : last ++ l.extension ≠ "." := by
    have hname := (hlast.append hslash).dot
    rwa [String.ofList_toList] at hname
  have hup : last ++ l.extension ≠ ".." := by
    have hnot := up_notMem_ownNames (l := l) hastray
    rw [hown] at hnot
    rintro hup
    exact hnot (List.mem_append_right front (hup ▸ List.mem_cons_self))
  obtain ⟨-, -, hwalk⟩ := FileTree.find_of_ok hfind
  rw [hfile, FileTree.steps_eq_parts (by simp)] at hwalk
  have hend := FileTree.getLast?_of_walk hlinks hdot hup hwalk
  rw [List.getLast?_concat, Option.some.injEq] at hend
  exact hends last page hend.symm

/-- Whether the compiled text of a page has a file in the directory itself, with a name and a path that are short
enough, as that of the file in the making is. -/
structure IsDumpable (directory : Path) (name : String) : Prop where
  isEntryName : Path.IsEntryName (name ++ dumpSuffix)
  path : FileTree.nameSize (directory.child (name ++ dumpSuffix)).text < FileTree.pathLimit
  draft : FileTree.nameSize (name ++ dumpSuffix) + Files.draftMargin ≤ FileTree.nameLimit

/-- Sessions with these files and with any compiled text in a directory, and with a log that goes to no file. -/
structure Dumped (tree : FileTree) (cwd place : List String) (s : Session) : Prop where
  tree : SameOff (IsDumpPlace place) tree s.tree
  cwd : s.cwd = cwd
  sink : ∀ sink ∈ s.journal.sink, sink.medium = .console

theorem Dumped.log (h : Dumped tree cwd place s) (r : Log.Record) : Dumped tree cwd place (s.log r) := by
  have hlogged : Unlogged s.tree s.cwd (s.log r) := Unlogged.log ⟨rfl, rfl, h.sink⟩ r
  exact ⟨hlogged.tree ▸ h.tree, hlogged.cwd.trans h.cwd, hlogged.sink⟩

theorem Dumped.isFileOf (h : Dumped tree cwd place s) (hfound : tree.find true cwd directory = .ok (place, some .directory))
    (hopen : place ∉ tree.locked) {name : String} (hname : IsDumpable directory name) :
    Files.IsFileOf s directory place (name ++ dumpSuffix) where
  found := h.cwd ▸ h.tree.keepsRoads.find hfound
  opened := h.tree.locked ▸ hopen
  isEntryName := hname.isEntryName
  size := hname.path
  isOffRoad := h.tree.isOffRoad' _ ⟨name, rfl⟩

/-- Compiled text is written, and the session is such a one still. -/
theorem Dumped.run_dump (h : Dumped tree cwd place s)
    (hfound : tree.find true cwd directory = .ok (place, some .directory)) (hopen : place ∉ tree.locked)
    {page : Template.Compiled} (hname : IsDumpable directory page.name) :
    ∃ t, dump directory page s = .ok () t ∧ Dumped tree cwd place t := by
  obtain ⟨t, hwrite, ht⟩ := (h.isFileOf hfound hopen hname).run_writeText hname.draft page.source
  have hnext : Dumped tree cwd place { s with tree := t } :=
    ⟨h.tree.changesAt ⟨page.name, rfl⟩ ht, h.cwd, h.sink⟩
  unfold dump
  exact ⟨_, Act.run_bind_ok hwrite, hnext.log _⟩

end Engine

end Stencil
