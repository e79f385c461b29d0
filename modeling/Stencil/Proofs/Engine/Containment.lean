import Stencil.Proofs.Engine.Cached
import Stencil.Proofs.Template.Lookup
import Stencil.Proofs.Template.Passes

/-! Where an engine looks for the files of a name, and where it writes its compiled text. Both stay below the
directories that the engine was given, however the name is written. -/
namespace Stencil

namespace Template.Locator

variable {l : Locator} {files : FileView} {kind : TemplateKind} {name : String}

/-- A template that was loaded has a name that does not go astray. -/
theorem ensures_load : ((l.library files).load kind name).Ensures fun _ =>
    ¬IsAstray (Text.strip name.toList) := by
  have hfind : ((l.library files).find kind name).Ensures fun _ => ¬IsAstray (Text.strip name.toList) := by
    intro t path t' h
    obtain ⟨found, t₁, hfound, -⟩ := Expansion.bind_eq_ok h
    cases hresolve : l.resolve files kind name with
    | error e =>
      rw [show (l.library files).resolve kind name = _ from hresolve] at hfound
      cases hfound
    | ok path => exact (resolve_eq_ok_iff.mp hresolve).1
  exact hfind.bind fun path h => Expansion.ensures_bind fun text => Expansion.ensures_pure h

/-- A page that was compiled has a name that does not go astray. -/
theorem ensures_compile (limit : Nat) (extra : List Stage) (data : Mapping) (layout : Option String) :
    (Compiler.compile ⟨l.library files, limit, extra⟩ name data layout).Ensures fun page =>
      page.name = name ∧ ¬IsAstray (Text.strip name.toList) := by
  refine ensures_load.bind fun loaded hname => ?_
  refine Expansion.ensures_bind fun _ => Expansion.ensures_bind fun composed => ?_
  refine Expansion.ensures_bind fun expanded => Expansion.ensures_bind fun _ => ?_
  exact Expansion.ensures_bind fun t => Expansion.ensures_bind fun _ => Expansion.ensures_pure ⟨rfl, hname⟩

end Template.Locator

namespace Engine

open Template (Compiled Locator FileView)
open Template.Locator
open Text (isSpace)

/-- The file that the compiled text of a page is written to. -/
def dumpFile (directory : Path) (page : Compiled) : Path := directory.child (page.name ++ dumpSuffix)

variable {s : List Char}

theorem notMem_of_isBlank {blanks : List Char} (h : blanks.all isSpace = true) {c : Char}
    (hc : isSpace c = false) : c ∉ blanks := fun hmem => by
  simp [List.all_eq_true.mp h c hmem] at hc

/-- Blanks around a text and something longer than two dots behind it make no name that leads up. -/
theorem up_notMem_splitOn {blanks behind : List Char} (hblanks : blanks.all isSpace = true)
    (hslash : '/' ∉ behind) (hlong : 2 < behind.length) (hup : ['.', '.'] ∉ Text.splitOn '/' s) :
    ['.', '.'] ∉ Text.splitOn '/' (blanks ++ (s ++ behind)) := by
  obtain ⟨front, last, hparts, hbehind⟩ := Text.exists_last_part '/' s
  obtain ⟨first, rest, hfirst, hbefore⟩ := Text.exists_first_part '/' (s ++ behind)
  have hnone : ['.', '.'] ∉ first :: rest := by
    rw [← hfirst, hbehind behind hslash, List.mem_append, List.mem_singleton, not_or]
    refine ⟨fun hfront => hup (hparts ▸ List.mem_append_left _ hfront), fun hlast => ?_⟩
    have hlength := congrArg List.length hlast
    simp at hlength
    omega
  rw [hbefore blanks (notMem_of_isBlank hblanks rfl), List.mem_cons, not_or]
  rw [List.mem_cons, not_or] at hnone
  refine ⟨fun hup => ?_, hnone.2⟩
  cases blanks with
  | nil => exact hnone.1 hup
  | cons c blanks =>
    obtain rfl : '.' = c := (List.cons.inj hup).1
    exact notMem_of_isBlank hblanks rfl List.mem_cons_self

/-- Compiled text is written below its directory. -/
theorem isBelow_dumpFile {page : Compiled} (h : ¬IsAstray (Text.strip page.name.toList)) (directory : Path) :
    Path.IsBelow directory (dumpFile directory page) := by
  obtain ⟨blanks, hblanks, hname⟩ := Text.exists_blanks page.name.toList
  obtain ⟨behind, hstrip, hbehind⟩ := Template.exists_trimEnd (Text.skipSpace page.name.toList)
  have htext : (page.name ++ dumpSuffix).toList =
      blanks ++ (Text.strip page.name.toList ++ (behind ++ dumpSuffix.toList)) := by
    rw [String.toList_append, ← List.append_assoc (Text.strip _), Text.strip, ← hstrip,
      ← List.append_assoc, ← hname]
  rw [IsAstray, not_or, not_or] at h
  obtain ⟨hsomewhere, habsolute, hup⟩ := h
  refine Path.isBelow_child ?_ ?_ ?_ directory
  · rw [htext]
    cases blanks with
    | nil =>
      have hne : Text.strip page.name.toList ≠ [] := fun hnil => hsomewhere (by rw [hnil]; decide)
      rwa [List.nil_append, List.head?_append_of_ne_nil _ hne]
    | cons c blanks =>
      rintro hc
      obtain rfl : c = '/' := by simpa using hc
      exact notMem_of_isBlank hblanks rfl List.mem_cons_self
  · rw [ne_eq, Path.partsOf_eq_nil_iff, htext]
    intro hnowhere
    obtain ⟨part, hpart, hj⟩ : ∃ part ∈ Text.splitOn '/'
        (blanks ++ (Text.strip page.name.toList ++ (behind ++ dumpSuffix.toList))), 'j' ∈ part :=
      Text.exists_part_of_mem (by decide) (by simp [dumpSuffix])
    rcases hnowhere part hpart with rfl | rfl <;> simp at hj
  · rw [Path.up_mem_partsOf, htext]
    refine up_notMem_splitOn hblanks ?_ ?_ hup
    · rw [List.mem_append, not_or]
      exact ⟨notMem_of_isBlank hbehind rfl, by decide⟩
    · rw [List.length_append]
      exact Nat.lt_of_lt_of_le (by decide) (Nat.le_add_left _ _)

theorem name_of_compile {e : Engine} {name : String} {page : Compiled} {s t : Session}
    (h : e.compile name s = .ok page t) : page.name = name ∧ ¬IsAstray (Text.strip name.toList) := by
  rw [compile_eq] at h
  unfold Act.ofExpansion at h
  split at h
  · next a t' hstep =>
    obtain rfl : a = page := by injection h
    exact ensures_compile e.limit [] e.data e.layout hstep
  · cases h

theorem compile_eq_ok {e : Engine} {name : String} {s : Session} {page : Compiled} {t : Template.Trace}
    (h : (e.compilerAt s).compile name e.data e.layout { report := { templateName := name } } = .ok page t) :
    e.compile name s = .ok page (t.log.foldl Session.log s) := by
  rw [compile_eq, Act.ofExpansion, h]

theorem compile_eq_error {e : Engine} {name : String} {s : Session} {err : Error} {t : Template.Trace}
    (h : (e.compilerAt s).compile name e.data e.layout { report := { templateName := name } } = .error err t) :
    e.compile name s = .error err (t.log.foldl Session.log s) := by
  rw [compile_eq, Act.ofExpansion, h]

/-- A page that is rendered without a cache is compiled, and then its compiled text is written first of all. -/
theorem renderAfresh_of_compile {e : Engine} {name : String} {directory : Path} {page : Compiled}
    {s t : Session} (hdump : e.dumpDir = some directory) (h : e.compile name s = .ok page t) :
    ∃ next : Unit → Act String,
      e.renderAfresh name s = (Files.writeText (dumpFile directory page) page.source >>= next) t := by
  rw [renderAfresh_eq, Act.run_bind_ok h, hdump]
  exact ⟨_, congrFun (bind_assoc ..) t⟩

/-- The file of a name is the first one, in the order of the directories and, for layouts and components, in the
directory of their kind before the flat one. There is none exactly if the name leads nowhere, starts at the top or
goes up, or if no such file is there; any other failure comes from a path that cannot be looked at, since it is too
long or leads through a directory that may not be searched, and that stands before every file. What the name adds to a directory does not lead up and is not absolute, and the compiled text of a page is
written below the directory for such texts. -/
theorem lookup_ordered_contained (l : Locator) (files : FileView) (kind : TemplateKind) (name : String) :
    (∀ found, l.resolve files kind name = .ok found ↔
      ¬IsAstray (Text.strip name.toList) ∧ Decides files (l.tried kind name) (.ok true) found) ∧
    (∀ e, l.resolve files kind name = .error e ↔
      (e = .templateNotFound kind name (l.paths.map Path.text) ∧
        (IsAstray (Text.strip name.toList) ∨
          ∀ p ∈ l.tried kind name, files.tree.isFile files.cwd p = .ok false)) ∨
      (¬IsAstray (Text.strip name.toList) ∧
        ∃ p fault, FileTree.IsHindrance fault ∧ Decides files (l.tried kind name) (.error fault) p ∧
          e = .system fault p.text)) ∧
    (¬IsAstray (Text.strip name.toList) → ".." ∉ l.ownNames name ∧ ∀ place,
      l.fileIn name place = ⟨place.anchor, place.parts ++ (l.ownNames name ++ l.extensionNames)⟩) ∧
    ∀ (e : Engine) (directory : Path) (page : Compiled) (s t : Session),
      e.dumpDir = some directory → e.compile name s = .ok page t →
        Path.IsBelow directory (dumpFile directory page) ∧ ∃ next : Unit → Act String,
          e.renderAfresh name s = (Files.writeText (dumpFile directory page) page.source >>= next) t := by
  refine ⟨fun found => resolve_eq_ok_iff, fun e => resolve_eq_error_iff,
    fun h => ⟨up_notMem_ownNames h, fileIn_eq h l⟩, fun e directory page s t hdump hcompile => ?_⟩
  refine ⟨?_, renderAfresh_of_compile hdump hcompile⟩
  obtain ⟨rfl, hname⟩ := name_of_compile hcompile
  exact isBelow_dumpFile hname directory

/-- An engine that writes compiled text to the directory `d`. -/
def dumpingEngine : Engine := { siteEngine with dumpDir := some ⟨"", ["d"]⟩ }

theorem find_siteFiles : siteFiles.find true [] ⟨"", ["t", "a", "b.modx"]⟩ =
    .ok (["t", "a", "b.modx"], some (.file (Text.Utf8.encode ['A']) 2 2)) := by
  rw [FileTree.find_eq_walk rfl (by decide +kernel)]
  change siteFiles.walk true FileTree.linkLimit [] ["t", "a", "b.modx"] = _
  rw [FileTree.walk_directory (by decide) rfl, FileTree.walk_directory (by decide) rfl,
    FileTree.walk_file (by decide) rfl]
  rfl

theorem isFile_siteFiles : siteFiles.isFile [] ⟨"", ["t", "a", "b.modx"]⟩ = .ok true := by
  rw [FileTree.isFile, FileTree.entry?, find_siteFiles]
  rfl

theorem readTextFile_siteFiles :
    Template.readTextFile ⟨siteFiles, []⟩ ⟨"", ["t", "a", "b.modx"]⟩ = .ok ['A'] := by
  have hentry : siteFiles.hasEntry [] ⟨"", ["t", "a", "b.modx"]⟩ = .ok true := by
    rw [FileTree.hasEntry, FileTree.entry?, find_siteFiles]
    rfl
  have hread : siteFiles.read [] ⟨"", ["t", "a", "b.modx"]⟩ = .ok (Text.Utf8.encode ['A']) := by
    rw [FileTree.read, find_siteFiles]
  have hdecode : Text.Utf8.decode (Text.Utf8.encode ['A']) = .ok ['A'] := by decide +kernel
  simp only [Template.readTextFile, hentry, hread, hdecode]
  rfl

/-- A name with blanks around it and a slash too many, and one that goes up. -/
theorem lookup_ordered_contained_blanks :
    let start : Session := { tree := siteFiles }
    siteEngine.locator.resolve ⟨siteFiles, []⟩ .template " a//b " = .ok ⟨"", ["t", "a", "b.modx"]⟩ ∧
    siteEngine.locator.resolve ⟨siteFiles, []⟩ .template "a/../b" =
      .error (.templateNotFound .template "a/../b" ["t"]) ∧
    ∃ page t, dumpingEngine.compile " a//b " start = .ok page t ∧
      dumpFile ⟨"", ["d"]⟩ page = ⟨"", ["d", " a", "b .jinja"]⟩ ∧
      Path.IsBelow ⟨"", ["d"]⟩ (dumpFile ⟨"", ["d"]⟩ page) := by
  intro start
  obtain ⟨hfound, -, -, hdump⟩ :=
    lookup_ordered_contained siteEngine.locator ⟨siteFiles, []⟩ .template " a//b "
  obtain ⟨-, hfails, -⟩ := lookup_ordered_contained siteEngine.locator ⟨siteFiles, []⟩ .template "a/../b"
  have hresolve : siteEngine.locator.resolve ⟨siteFiles, []⟩ .template " a//b " =
      .ok ⟨"", ["t", "a", "b.modx"]⟩ :=
    (hfound _).mpr ⟨isSafe_namePath_iff.mp (by decide +kernel), decides_head isFile_siteFiles⟩
  have hastray : IsAstray (Text.strip "a/../b".toList) :=
    not_not.mp (isSafe_namePath_iff.not.mp (by decide +kernel))
  refine ⟨hresolve, (hfails _).mpr (.inl ⟨rfl, .inl hastray⟩), ?_⟩
  have hstill : Template.Still (Template.protect ['A']) :=
    ⟨Template.Unmarked.of_notMem (by decide) [], by decide⟩
  have hyields : ((dumpingEngine.compilerAt start).compile " a//b " [] none).Yields fun _ => True :=
    Template.yields_compile (P := fun _ => True) hresolve readTextFile_siteFiles (by decide +kernel)
      ((Template.yields_expandWithin_still (by decide) hstill _ _).imp fun _ _ => trivial)
  obtain ⟨page, t, hpage, -⟩ := hyields { report := { templateName := " a//b " } }
  have hcompile := compile_eq_ok (e := dumpingEngine) hpage
  refine ⟨page, _, hcompile, ?_, (hdump _ _ _ _ _ rfl hcompile).1⟩
  rw [dumpFile, (name_of_compile hcompile).1]
  decide +kernel

/-! ### A name that is too long, and a directory that may not be searched -/

/-- A name of letters. -/
def letters (n : ℕ) : String := String.ofList (List.replicate (n + 1) 'a')

theorem toList_letters (n : ℕ) : (letters n).toList = List.replicate (n + 1) 'a' := String.toList_ofList

theorem letters_ne (n : ℕ) {name : String} (h : name.toList.head? ≠ some 'a') : letters n ≠ name := by
  rintro rfl
  exact h (by rw [toList_letters, List.replicate_succ]; rfl)

theorem namePath_letters (n : ℕ) : namePath (letters n) = ⟨"", [letters n]⟩ := by
  have hlast : (List.replicate (n + 1) 'a').getLast? = some 'a' := by simp [List.getLast?_replicate]
  have hstrip : Text.strip (letters n).toList = (letters n).toList := by
    rw [toList_letters, Text.strip, List.replicate_succ, Text.skipSpace_cons_of_not_space _ rfl,
      ← List.replicate_succ, Text.trimEnd_of_getLast? hlast rfl]
  have hname : Path.IsName (letters n) :=
    ⟨by simp [toList_letters], letters_ne n (by decide), letters_ne n (by decide)⟩
  have hparts : Path.partsOf (letters n).toList = [letters n] :=
    Path.partsOf_of_splitOn (by simpa using hname) (Text.splitOn_of_notMem hname.slash)
  have hanchor : Path.anchorOf (letters n).toList = "" := by
    rw [toList_letters, List.replicate_succ]
    rfl
  rw [namePath, hstrip, Path.ofList, hparts, hanchor]

theorem not_isAstray_letters (n : ℕ) : ¬IsAstray (Text.strip (letters n).toList) := by
  rw [← isSafe_namePath_iff, namePath_letters]
  have hup : ".." ≠ letters n := (letters_ne n (by decide)).symm
  simp [isSafe, Path.isContained, Path.isAbsolute, hup]

theorem tried_letters (n : ℕ) :
    siteEngine.locator.tried .template (letters n) = [⟨"", ["t", letters n ++ ".modx"]⟩] := by
  have hown : siteEngine.locator.ownNames (letters n) = [letters n ++ ".modx"] := by
    rw [ownNames, namePath_letters]
    rfl
  have hextension : siteEngine.locator.extensionNames = [] := rfl
  have hplaces : siteEngine.locator.places .template = [⟨"", ["t"]⟩] := rfl
  rw [tried, hplaces, List.map_singleton, fileIn_eq (not_isAstray_letters n), hown, hextension]
  rfl

theorem isFile_letters {n : ℕ} (h : FileTree.nameLimit ≤ n) :
    siteFiles.isFile [] ⟨"", ["t", letters n ++ ".modx"]⟩ = .error .nameTooLong := by
  have hletters : FileTree.nameSize (letters n) = n + 1 := by
    have hone : (Text.Utf8.encodeChar 'a').length = 1 := rfl
    simp [FileTree.nameSize, toList_letters, Text.Utf8.encode, List.length_flatMap, hone]
  have hsize : FileTree.nameLimit < FileTree.nameSize (letters n ++ ".modx") := by
    rw [FileTree.nameSize_append, hletters]
    omega
  have hzero : FileTree.hasZero ⟨"", ["t", letters n ++ ".modx"]⟩ = false := by
    simp [FileTree.hasZero, toList_letters]
  have hwalk : siteFiles.walk true FileTree.linkLimit [] ["t", letters n ++ ".modx"] = .error .nameTooLong := by
    rw [FileTree.walk_directory (by decide) rfl, FileTree.walk, if_neg (by decide), if_neg, if_neg,
      if_pos hsize]
    · exact fun hup => absurd hsize (by rw [hup]; decide)
    · exact fun hdot => absurd hsize (by rw [hdot]; decide)
  have hfind : siteFiles.find true [] ⟨"", ["t", letters n ++ ".modx"]⟩ = .error .nameTooLong := by
    rw [FileTree.find, if_neg (by simp [hzero])]
    split
    · rfl
    · exact hwalk
  rw [FileTree.isFile, FileTree.entry?, hfind]
  rfl

/-- A file behind a directory that may not be searched. -/
def shutFiles : FileTree where
  entries := [(["p"], .directory), (["q"], .directory), (["q", "b.modx"], .file [] 1 1)]
  stamp := 2
  locked := [["p"]]

def shutLocator : Locator where
  paths := [⟨"", ["p"]⟩, ⟨"", ["q"]⟩]

theorem tried_shut : shutLocator.tried .template "b" = [⟨"", ["p", "b.modx"]⟩, ⟨"", ["q", "b.modx"]⟩] := by
  decide +kernel

theorem isFile_shut : shutFiles.isFile [] ⟨"", ["p", "b.modx"]⟩ = .error .denied := by
  have hfind : shutFiles.find true [] ⟨"", ["p", "b.modx"]⟩ = .error .denied := by
    rw [FileTree.find_eq_walk rfl (by decide +kernel)]
    change shutFiles.walk true FileTree.linkLimit [] ["p", "b.modx"] = _
    rw [FileTree.walk_directory (by decide) rfl, FileTree.walk]
    exact if_pos (by decide)
  rw [FileTree.isFile, FileTree.entry?, hfind]
  rfl

theorem isFile_behind_shut : shutFiles.isFile [] ⟨"", ["q", "b.modx"]⟩ = .ok true := by
  have hfind : shutFiles.find true [] ⟨"", ["q", "b.modx"]⟩ = .ok (["q", "b.modx"], some (.file [] 1 1)) := by
    rw [FileTree.find_eq_walk rfl (by decide +kernel)]
    change shutFiles.walk true FileTree.linkLimit [] ["q", "b.modx"] = _
    rw [FileTree.walk_directory (by decide) rfl, FileTree.walk_file (by decide) rfl]
    rfl
  rw [FileTree.isFile, FileTree.entry?, hfind]
  rfl

/-- A name that is too long has no file, and still it is not reported as one that was not found; and a file is not
found if a directory in front of its own may not be searched. -/
theorem not_absent_iff_not_first_of_hindered :
    (¬∀ (l : Locator) (files : FileView) (kind : TemplateKind) (name : String),
      (∃ searched, l.resolve files kind name = .error (.templateNotFound kind name searched)) ↔
        IsAstray (Text.strip name.toList) ∨
          ∀ p ∈ l.tried kind name, files.tree.isFile files.cwd p ≠ .ok true) ∧
    ¬∀ (l : Locator) (files : FileView) (kind : TemplateKind) (name : String) (before after : List Path)
      (found : Path), ¬IsAstray (Text.strip name.toList) → l.tried kind name = before ++ found :: after →
        (∀ p ∈ before, files.tree.isFile files.cwd p ≠ .ok true) →
          files.tree.isFile files.cwd found = .ok true → l.resolve files kind name = .ok found := by
  refine ⟨fun h => ?_, fun h => ?_⟩
  case refine_2 =>
    have hsafe : ¬IsAstray (Text.strip "b".toList) := isSafe_namePath_iff.mp (by decide +kernel)
    have hfound := h shutLocator ⟨shutFiles, []⟩ .template "b" [⟨"", ["p", "b.modx"]⟩] [] ⟨"", ["q", "b.modx"]⟩ hsafe
      tried_shut (by simp [isFile_shut]) isFile_behind_shut
    have hdenied : shutLocator.resolve ⟨shutFiles, []⟩ .template "b" = .error (.system .denied "p/b.modx") := by
      refine resolve_eq_error_iff.mpr (.inr ⟨hsafe, ⟨"", ["p", "b.modx"]⟩, .denied, .shut, ?_, rfl⟩)
      rw [tried_shut]
      exact decides_head isFile_shut
    cases hfound.symm.trans hdenied
  have htried := tried_letters FileTree.nameLimit
  have hlook := isFile_letters (Nat.le_refl FileTree.nameLimit)
  obtain ⟨searched, hsearched⟩ :=
    (h siteEngine.locator ⟨siteFiles, []⟩ .template (letters FileTree.nameLimit)).mpr
      (.inr (by simp [htried, hlook]))
  rcases resolve_eq_error_iff.mp hsearched with ⟨-, hastray | hnone⟩ | ⟨-, p, fault, -, -, hsystem⟩
  · exact not_isAstray_letters _ hastray
  · rw [htried, List.forall_mem_singleton, hlook] at hnone
    cases hnone
  · cases hsystem

end Engine

end Stencil
