import Stencil.Proofs.Files.Names
import Stencil.Proofs.Template.Splices
import Stencil.Template.Locator

/-! Where the file of a template name is looked for, and which file is found: the first one, unless a path before
it cannot be looked at. What a name adds to a directory stays below it. -/
namespace Stencil

namespace FileTree

variable {t : FileTree} {cwd : List String} {p : Path}

/-- Why a path cannot be looked at: it is too long, or a directory on the way may not be searched. -/
inductive IsHindrance : PathFault → Prop
  | long : IsHindrance .nameTooLong
  | shut : IsHindrance .denied

/-- A walk fails where nothing can be, or where it is hindered. -/
theorem fault_of_walk {follow : Bool} {budget : Nat} {here todo : List String} {fault : PathFault}
    (h : t.walk follow budget here todo = .error fault) : isAbsence fault = true ∨ IsHindrance fault := by
  fun_induction walk t follow budget here todo with
  | case2 budget here name rest hclosed =>
    obtain rfl := Except.error.inj h
    exact .inr .shut
  | case3 budget here rest hopen ih => exact ih h
  | case4 budget here rest hopen hdot ih => exact ih h
  | case5 budget here name rest hopen hdot hup hsize =>
    obtain rfl := Except.error.inj h
    exact .inr .long
  | case8 budget here name rest hopen hdot hup hsize next hentry ih => exact ih h
  | case13 here name rest hopen hdot hup hsize next target hentry hgo budget ih => exact ih h
  | _ => cases h <;> exact .inl rfl

theorem IsHindrance.ofPathFault {fault : PathFault} (h : IsHindrance fault) (text : String) :
    Error.ofPathFault fault text = .system fault text := by
  cases h <;> rfl

/-- Looking whether a file is there fails only where the path cannot be looked at. -/
theorem fault_of_isFile {fault : PathFault} (h : t.isFile cwd p = .error fault) : IsHindrance fault := by
  unfold isFile entry? at h
  cases hfind : t.find true cwd p with
  | ok r =>
    rw [hfind] at h
    cases h
  | error fault' =>
    rw [hfind] at h
    dsimp only at h
    split at h
    · cases h
    next habsent =>
      obtain rfl : fault' = fault := Except.error.inj h
      unfold find at hfind
      split at hfind
      · obtain rfl := Except.error.inj hfind
        exact absurd rfl habsent
      split at hfind
      · obtain rfl := Except.error.inj hfind
        exact .long
      · exact (fault_of_walk hfind).resolve_left habsent

end FileTree

namespace Template.Locator

variable {files : FileView} {paths : List Path} {p q found : Path}

/-! ### The first file -/

/-- Whether looking at the paths one after the other, while no file is there, comes to `p`, and to what. -/
def Decides (files : FileView) (paths : List Path) (look : Except PathFault Bool) (p : Path) : Prop :=
  ∃ before after, paths = before ++ p :: after ∧ files.tree.isFile files.cwd p = look ∧
    ∀ q ∈ before, files.tree.isFile files.cwd q = .ok false

variable {look : Except PathFault Bool}

theorem decides_head (h : files.tree.isFile files.cwd q = look) : Decides files (q :: paths) look q :=
  ⟨[], paths, rfl, h, by simp⟩

theorem decides_cons (h : files.tree.isFile files.cwd q = .ok false) (hp : Decides files paths look p) :
    Decides files (q :: paths) look p := by
  obtain ⟨before, after, rfl, hlook, hbefore⟩ := hp
  exact ⟨q :: before, after, rfl, hlook, List.forall_mem_cons.mpr ⟨h, hbefore⟩⟩

/-- What the search comes to at the path that decides it. -/
theorem firstFile_of_decides (h : Decides files paths look p) :
    (look = .ok true → firstFile files paths = .ok (some p)) ∧
      ∀ fault, look = .error fault → firstFile files paths = .error (.ofPathFault fault p.text) := by
  obtain ⟨before, after, rfl, hlook, hbefore⟩ := h
  induction before with
  | nil =>
    constructor
    · rintro rfl
      simp only [List.nil_append, firstFile, hlook]
    · rintro fault rfl
      simp only [List.nil_append, firstFile, hlook]
  | cons q before ih =>
    obtain ⟨hq, hbefore⟩ := List.forall_mem_cons.mp hbefore
    simp only [List.cons_append, firstFile, hq]
    exact ih hbefore

theorem firstFile_eq_none (h : ∀ p ∈ paths, files.tree.isFile files.cwd p = .ok false) :
    firstFile files paths = .ok none := by
  induction paths with
  | nil => rfl
  | cons q paths ih =>
    obtain ⟨hq, hpaths⟩ := List.forall_mem_cons.mp h
    simp only [firstFile, hq]
    exact ih hpaths

/-- A search finds a file, fails at a path that cannot be looked at, or comes to the end. -/
theorem firstFile_cases (files : FileView) (paths : List Path) :
    (∃ p, Decides files paths (.ok true) p) ∨
      (∃ p fault, FileTree.IsHindrance fault ∧ Decides files paths (.error fault) p) ∨
      ∀ p ∈ paths, files.tree.isFile files.cwd p = .ok false := by
  induction paths with
  | nil => exact .inr (.inr (by simp))
  | cons q paths ih =>
    cases hq : files.tree.isFile files.cwd q with
    | error fault =>
      exact .inr (.inl ⟨q, fault, FileTree.fault_of_isFile hq, decides_head hq⟩)
    | ok there =>
      cases there with
      | true => exact .inl ⟨q, decides_head hq⟩
      | false =>
        rcases ih with ⟨p, hp⟩ | ⟨p, fault, hfault, hp⟩ | hnone
        · exact .inl ⟨p, decides_cons hq hp⟩
        · exact .inr (.inl ⟨p, fault, hfault, decides_cons hq hp⟩)
        · exact .inr (.inr (List.forall_mem_cons.mpr ⟨hq, hnone⟩))

theorem firstFile_eq_some_iff : firstFile files paths = .ok (some p) ↔ Decides files paths (.ok true) p := by
  refine ⟨fun h => ?_, fun h => (firstFile_of_decides h).1 rfl⟩
  rcases firstFile_cases files paths with ⟨q, hq⟩ | ⟨q, fault, -, hq⟩ | hnone
  · have hsame : firstFile files paths = .ok (some q) := (firstFile_of_decides hq).1 rfl
    rw [h] at hsame
    obtain rfl : p = q := by simpa using hsame
    exact hq
  · rw [(firstFile_of_decides hq).2 _ rfl] at h
    cases h
  · rw [firstFile_eq_none hnone] at h
    cases h

theorem firstFile_eq_none_iff :
    firstFile files paths = .ok none ↔ ∀ p ∈ paths, files.tree.isFile files.cwd p = .ok false := by
  refine ⟨fun h => ?_, firstFile_eq_none⟩
  rcases firstFile_cases files paths with ⟨q, hq⟩ | ⟨q, fault, -, hq⟩ | hnone
  · rw [(firstFile_of_decides hq).1 rfl] at h
    cases h
  · rw [(firstFile_of_decides hq).2 _ rfl] at h
    cases h
  · exact hnone

theorem firstFile_eq_error_iff {e : Error} : firstFile files paths = .error e ↔
    ∃ p fault, FileTree.IsHindrance fault ∧ Decides files paths (.error fault) p ∧
      e = .system fault p.text := by
  constructor
  · intro h
    rcases firstFile_cases files paths with ⟨q, hq⟩ | ⟨q, fault, hfault, hq⟩ | hnone
    · rw [(firstFile_of_decides hq).1 rfl] at h
      cases h
    · rw [(firstFile_of_decides hq).2 _ rfl, hfault.ofPathFault] at h
      exact ⟨q, fault, hfault, hq, (Except.error.inj h).symm⟩
    · rw [firstFile_eq_none hnone] at h
      cases h
  · rintro ⟨p, fault, hfault, hp, rfl⟩
    rw [(firstFile_of_decides hp).2 _ rfl, hfault.ofPathFault]

/-! ### Names -/

/-- Whether a text leads nowhere, starts at the top or goes up on its way. -/
def IsAstray (s : List Char) : Prop :=
  (∀ part ∈ Text.splitOn '/' s, part = [] ∨ part = ['.']) ∨ s.head? = some '/' ∨
    ['.', '.'] ∈ Text.splitOn '/' s

/-- A name may be looked for if it does not go astray. -/
theorem isSafe_namePath_iff {name : String} :
    isSafe (namePath name) = true ↔ ¬IsAstray (Text.strip name.toList) := by
  have hparts : (namePath name).parts = Path.partsOf (Text.strip name.toList) := rfl
  rw [IsAstray, ← Path.partsOf_eq_nil_iff, ← Path.isAbsolute_ofList, ← Path.up_mem_partsOf, ← namePath,
    ← hparts, isSafe, Path.isContained]
  simp only [Bool.and_eq_true, Bool.not_eq_true', List.contains_eq_mem, decide_eq_false_iff_not,
    List.isEmpty_eq_false_iff, ne_eq, not_or, Bool.not_eq_true]
  tauto

/-! ### Candidates -/

/-- The directories where files of a kind are looked for, in order. -/
def places (l : Locator) (kind : TemplateKind) : List Path :=
  l.paths.flatMap fun directory =>
    match kind with
    | .template => [directory]
    | .layout => [directory.child l.layoutsDir, directory]
    | .component => [directory.child l.componentsDir, directory]

/-- The file of a name in one of these directories. -/
def fileIn (l : Locator) (name : String) (place : Path) : Path :=
  place.child ((namePath name).text ++ l.extension)

/-- The files that a name can mean, in the order in which they are tried. -/
def tried (l : Locator) (kind : TemplateKind) (name : String) : List Path :=
  (l.places kind).map (l.fileIn name)

variable {l : Locator} {kind : TemplateKind} {name : String}

theorem flatMap_candidates (l : Locator) (kind : TemplateKind) (name : String) :
    l.paths.flatMap (l.candidates kind (namePath name)) = l.tried kind name := by
  rw [tried, places, List.map_flatMap]
  cases kind <;> rfl

theorem resolve_of_isAstray (h : IsAstray (Text.strip name.toList)) :
    l.resolve files kind name = .error (.templateNotFound kind name (l.paths.map Path.text)) := by
  rw [resolve, if_neg (isSafe_namePath_iff.not.mpr (not_not.mpr h))]

theorem resolve_of_firstFile (h : ¬IsAstray (Text.strip name.toList)) :
    l.resolve files kind name =
      match firstFile files (l.tried kind name) with
      | .error e => .error e
      | .ok (some found) => .ok found
      | .ok none => .error (.templateNotFound kind name (l.paths.map Path.text)) := by
  have htried := flatMap_candidates l kind name
  rw [resolve, if_pos (isSafe_namePath_iff.mpr h)]
  generalize l.paths.flatMap (l.candidates kind (namePath name)) = paths at htried ⊢
  subst htried
  rfl

/-- The first file is found. -/
theorem resolve_eq_ok_iff : l.resolve files kind name = .ok found ↔
    ¬IsAstray (Text.strip name.toList) ∧ Decides files (l.tried kind name) (.ok true) found := by
  by_cases h : IsAstray (Text.strip name.toList)
  · simp [resolve_of_isAstray h, h]
  · rw [resolve_of_firstFile h, ← firstFile_eq_some_iff]
    cases firstFile files (l.tried kind name) with
    | error e => simp
    | ok first => cases first <;> simp [h]

/-- A search fails because the name goes astray, because no file is there, or at a path that cannot be looked at. -/
theorem resolve_eq_error_iff {e : Error} : l.resolve files kind name = .error e ↔
    (e = .templateNotFound kind name (l.paths.map Path.text) ∧
      (IsAstray (Text.strip name.toList) ∨
        ∀ p ∈ l.tried kind name, files.tree.isFile files.cwd p = .ok false)) ∨
    (¬IsAstray (Text.strip name.toList) ∧
      ∃ p fault, FileTree.IsHindrance fault ∧ Decides files (l.tried kind name) (.error fault) p ∧
        e = .system fault p.text) := by
  by_cases h : IsAstray (Text.strip name.toList)
  · simp [resolve_of_isAstray h, h, eq_comm]
  · rw [resolve_of_firstFile h, or_iff_right h, and_iff_right h, ← firstFile_eq_error_iff,
      ← firstFile_eq_none_iff]
    cases firstFile files (l.tried kind name) with
    | error e' => simp [eq_comm]
    | ok first => cases first <;> simp [eq_comm]

/-! ### What a name adds to a directory -/

/-- The names that a template name adds; the last one goes on with the extension, up to a slash in it. -/
def ownNames (l : Locator) (name : String) : List String :=
  (namePath name).parts.dropLast ++
    [(namePath name).name ++ String.ofList (l.extension.toList.takeWhile (· ≠ '/'))]

/-- The names that an extension adds behind a slash in it. -/
def extensionNames (l : Locator) : List String :=
  Path.partsOf (l.extension.toList.dropWhile (· ≠ '/'))

section

variable (h : ¬IsAstray (Text.strip name.toList))
include h

theorem exists_names : ∃ front last, (namePath name).parts = front ++ [last] ∧
    l.ownNames name = front ++ [last ++ String.ofList (l.extension.toList.takeWhile (· ≠ '/'))] := by
  have hne : (namePath name).parts ≠ [] := fun hnil => h (.inl (Path.partsOf_eq_nil_iff.mp hnil))
  obtain ⟨front, last, hparts⟩ := List.eq_nil_or_concat (namePath name).parts |>.resolve_left hne
  rw [List.concat_eq_append] at hparts
  exact ⟨front, last, hparts, by rw [ownNames, Path.name, hparts]; simp⟩

/-- No name that a template name adds leads up. -/
theorem up_notMem_ownNames : ".." ∉ l.ownNames name := by
  obtain ⟨front, last, hparts, hown⟩ := exists_names (l := l) h
  have hnames : ∀ part ∈ front ++ [last], Path.IsName part ∧ part ≠ ".." := by
    intro part hpart
    rw [← hparts] at hpart
    refine ⟨Path.isName_of_mem_partsOf hpart, ?_⟩
    rintro rfl
    exact h (.inr (.inr (Path.up_mem_partsOf.mp hpart)))
  obtain ⟨hlast, hup⟩ := hnames last (by simp)
  rw [hown, List.mem_append, List.mem_singleton, not_or]
  exact ⟨fun hfront => (hnames _ (List.mem_append_left _ hfront)).2 rfl, (hlast.append_ne_up hup _).symm⟩

/-- The file of a name is the directory with the names that the name adds, and no other path. -/
theorem fileIn_eq (l : Locator) (place : Path) :
    l.fileIn name place = ⟨place.anchor, place.parts ++ (l.ownNames name ++ l.extensionNames)⟩ := by
  obtain ⟨front, last, hparts, hown⟩ := exists_names (l := l) h
  have hanchor : (namePath name).anchor = "" :=
    Path.anchorOf_eq_empty_iff.mpr fun habsolute => h (.inr (.inl habsolute))
  have hnames : ∀ part ∈ (namePath name).parts, Path.IsName part :=
    fun part hpart => Path.isName_of_mem_partsOf hpart
  have hslash : '/' ∉ l.extension.toList.takeWhile (· ≠ '/') := fun hmem => by
    simpa using List.all_eq_true.mp List.all_takeWhile _ hmem
  have hext : l.extension.toList =
      l.extension.toList.takeWhile (· ≠ '/') ++ l.extension.toList.dropWhile (· ≠ '/') :=
    List.takeWhile_append_dropWhile.symm
  have hrest : (l.extension.toList.dropWhile (· ≠ '/')).head? = some '/' ∨
      l.extension.toList.dropWhile (· ≠ '/') = [] := by
    have hhead := List.head?_dropWhile_not (· ≠ '/') l.extension.toList
    cases hbehind : l.extension.toList.dropWhile (· ≠ '/') with
    | nil => exact .inr rfl
    | cons c t =>
      rw [hbehind] at hhead
      exact .inl (by simpa using hhead)
  have hrelative : ((namePath name).text ++ l.extension).toList.head? ≠ some '/' := by
    rw [String.toList_append]
    exact Path.head?_text_append hanchor (by simp [hparts]) hnames _
  have hfile : Path.partsOf ((namePath name).text ++ l.extension).toList =
      l.ownNames name ++ l.extensionNames := by
    rw [String.toList_append, hext, ← List.append_assoc, Path.partsOf_append_of_head? hrest,
      Path.partsOf_text_append hanchor hparts hnames hslash, hown, extensionNames]
  rw [fileIn, Path.child_of_head? hrelative, hfile]

end

end Template.Locator

end Stencil
