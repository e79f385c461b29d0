import Stencil.Proofs.Template.RecursionGuard
import Stencil.Proofs.Template.Uses
import Stencil.Proofs.Text.PrefixCode
import Stencil.Template.Locator

/-! Two names of one file. The guard against recursion goes by the names of components as they are spelled,
and a locator goes by the paths that they write; so a file that uses itself by a second name is loaded
once more before a marker takes its place. -/
namespace Stencil.Template

theorem yields_skipComponent (name : String) :
    (skipComponent name).Yields fun out => out = recursionMarker name :=
  Expansion.yields_lift_bind fun _ => Expansion.yields_lift_bind fun _ => Expansion.yields_pure rfl

/-- A sign that no name holds is in the marker of a name only where every marker has it. -/
theorem count_recursionMarker {name : String} (hname : IsTemplateName name.toList) {c : Char}
    (hc : Directive.isNameChar c = false) :
    (recursionMarker name).count c = (recursionMarker "").count c := by
  have hcount : name.toList.count c = 0 := List.count_eq_zero.mpr (hname.notMem hc)
  simp only [recursionMarker, diagnostic_eq, toString, String.toList_append, List.count_append, hcount,
    String.toList_empty, List.count_nil]

/-- The one angle of a marker begins no opening mark. -/
theorem unmarked_recursionMarker {name : String} (hname : IsTemplateName name.toList) :
    Unmarked (recursionMarker name) [] := by
  have hopen : "<!-- ".toList = ['<', '!', '-', '-', ' '] := by decide +kernel
  obtain ⟨rest, hmarker⟩ : ∃ rest, recursionMarker name = '<' :: '!' :: rest := by
    rw [recursionMarker, diagnostic_eq, hopen]
    exact ⟨_, rfl⟩
  have hcount : (recursionMarker name).count '<' = 1 :=
    (count_recursionMarker hname (by decide)).trans (by decide +kernel)
  have hrest : '<' ∉ '!' :: rest := by
    rw [hmarker, List.count_cons_self] at hcount
    exact List.count_eq_zero.mp (Nat.succ.inj hcount)
  rw [hmarker]
  exact .cons (openMark_eq_none_of_head (by simp)) (.of_notMem hrest _)

section

variable {lib : Library} {limit nesting : Nat} {page a b : String} {path pagePath : Path}
  {s out : List Char} {scope : Scope}

/-- A text with one use at its end needs no further pass than the one that puts the component in place. -/
theorem yields_expandWithin_use (hlimit : 2 ≤ limit) (hb : IsTemplateName b.toList)
    (hangle : '<' ∉ s) (hsign : '#' ∉ s)
    (hput : ∀ s', scope.Beside s' →
      (includeComponent lib (Compiler.expandBody { library := lib, limit := limit } nesting) s'
        ⟨b, []⟩).Yields fun r => r = out)
    (hstill : Still (protect s ++ out)) :
    (Compiler.expandWithin { library := lib, limit := limit } (nesting + 1) scope
      (protect (s ++ useText b.toList []))).Yields fun r => r.2 = protect s ++ out := by
  have hplain : ∀ part ∈ [Part.text s, .use b.toList], part.IsPlain := by simp [Part.IsPlain, hangle, hb]
  have hprint : s ++ useText b.toList [] = [Part.text s, .use b.toList].flatMap Part.print := by
    simp [Part.print]
  have hfill : protect s ++ out =
      ([Part.text s, .use b.toList].map Part.guarded).flatMap (Part.fill fun _ => out) := by
    simp [Part.guarded, Part.fill]
  have hnone : '#' ∉ protect (s ++ useText b.toList []) := by
    have huse : (useText b.toList []).count '#' = 0 := List.count_eq_zero.mpr
      (notMem_useText (by decide) (by decide) hb List.not_mem_nil)
    rw [← List.count_eq_zero, count_protect (by decide), List.count_append, huse,
      List.count_eq_zero.mpr hsign]
  rw [hprint, protect_parts hplain] at hnone ⊢
  rw [hfill] at hstill ⊢
  refine yields_expandWithin_parts hlimit (isPlain_guarded hplain) hnone (fun s' hs use huse => ?_)
    hstill
  obtain rfl : use = b.toList := by simpa [Part.guarded] using huse
  rw [String.ofList_toList]
  exact hput s' hs

theorem still_respelled (hb : IsTemplateName b.toList) (hangle : '<' ∉ s) (hsign : '#' ∉ s) :
    Still (protect s ++ recursionMarker b) := by
  have hpart : Unmarked (protect s) (recursionMarker b ++ []) :=
    .of_notMem (by rwa [← List.count_eq_zero, count_protect (by decide), List.count_eq_zero]) _
  refine ⟨hpart.append (unmarked_recursionMarker hb), ?_⟩
  rw [List.count_append, count_protect (by decide), List.count_eq_zero.mpr hsign,
    count_recursionMarker hb (by decide)]
  decide +kernel

/-- A file that uses itself by another name than the page uses is loaded once by each name: the text in front
of the use comes twice, and a marker only then. -/
theorem yields_compile_respelled (hlimit : 2 ≤ limit) (ha : IsTemplateName a.toList)
    (hb : IsTemplateName b.toList) (hne : a ≠ b) (hangle : '<' ∉ s) (hsign : '#' ∉ s)
    (hpage : lib.resolve .template page = .ok pagePath)
    (huse : lib.read pagePath = .ok (useText a.toList []))
    (hfirst : lib.resolve .component a = .ok path) (hsecond : lib.resolve .component b = .ok path)
    (hread : lib.read path = .ok (s ++ useText b.toList [])) (data : Mapping) :
    (Compiler.compile { library := lib, limit := limit } page data none).Yields
      fun out => out.source = protect s ++ (protect s ++ recursionMarker b) := by
  have hmarked := still_respelled hb hangle hsign
  have htwice : Still (protect s ++ (protect s ++ recursionMarker b)) := by
    rw [← List.append_assoc, ← protect_append]
    exact still_respelled hb (by simpa using hangle) (by simpa using hsign)
  have hlayout : Directive.layout.search (protect (useText a.toList [])) = none := by
    have hplain : ∀ part ∈ [Part.use a.toList], part.IsPlain := by simpa [Part.IsPlain] using ha
    have hsearch := search_layout_parts (isPlain_guarded hplain)
    rw [← protect_parts hplain] at hsearch
    simpa [Part.print] using hsearch
  refine yields_compile (P := fun r => r = protect s ++ (protect s ++ recursionMarker b)) hpage huse
    hlayout ?_
  refine yields_expandWithin_use (s := []) hlimit ha List.not_mem_nil List.not_mem_nil (fun s₁ h₁ => ?_)
    htwice
  have hfresh : a ∉ s₁.processed := by
    rw [h₁.processed]
    exact List.not_mem_nil
  refine yields_includeComponent_bare hfresh hfirst hread (by simp [lexProps, props]) ?_
  refine yields_expandBody (yields_expandWithin_use hlimit hb hangle hsign (fun s₂ h₂ => ?_) htwice)
  have hother : b ∉ s₂.processed := by
    rw [h₂.processed, show (s₁.child a []).processed = addName s₁.processed a from rfl, mem_addName,
      h₁.processed]
    simpa using hne.symm
  refine yields_includeComponent_bare hother hsecond hread (by simp [lexProps, props]) ?_
  refine yields_expandBody (yields_expandWithin_use hlimit hb hangle hsign (fun s₃ h₃ => ?_) hmarked)
  have hinside : (⟨b, []⟩ : Directive.ComponentUse).name ∈ s₃.processed := by
    rw [h₃.processed]
    exact mem_addName.mpr (.inr rfl)
  rw [includeComponent_of_mem hinside]
  exact yields_skipComponent b

end

/-! The names of a locator: those that write one path mean one file. -/

namespace Locator

variable {l : Locator} {files : FileView} {kind : TemplateKind} {p path : Path}
  {place : List String} {content : List UInt8} {stamp serial : Nat}

theorem resolve_of_namePath {a b : String} (h : namePath a = namePath b)
    (ha : l.resolve files kind a = .ok path) : l.resolve files kind b = .ok path := by
  unfold resolve at ha ⊢
  dsimp only at ha ⊢
  rw [← h]
  split at ha
  · next hsafe =>
    rw [if_pos hsafe]
    cases hfirst : firstFile files (l.paths.flatMap (l.candidates kind (namePath a))) with
    | error e => simp [hfirst] at ha
    | ok found =>
      cases found with
      | none => simp [hfirst] at ha
      | some found => simpa [hfirst] using ha
  · cases ha

theorem firstFile_of_find
    (h : files.tree.find true files.cwd p = .ok (place, some (.file content stamp serial)))
    (rest : List Path) : firstFile files (p :: rest) = .ok (some p) := by
  simp [firstFile, FileTree.isFile, FileTree.entry?, h, Except.map]

theorem resolve_of_find {name : String} {rest : List Path} (hsafe : isSafe (namePath name) = true)
    (hcandidates : l.paths.flatMap (l.candidates kind (namePath name)) = p :: rest)
    (h : files.tree.find true files.cwd p = .ok (place, some (.file content stamp serial))) :
    l.resolve files kind name = .ok p := by
  unfold resolve
  dsimp only
  rw [if_pos hsafe, hcandidates, firstFile_of_find h]

end Locator

theorem readTextFile_of_find {files : FileView} {p : Path} {place : List String} {text : List Char}
    {stamp serial : Nat}
    (h : files.tree.find true files.cwd p =
      .ok (place, some (.file (Text.Utf8.encode text) stamp serial))) :
    readTextFile files p = .ok (Text.Utf8.foldNewlines text) := by
  simp [readTextFile, FileTree.hasEntry, FileTree.entry?, FileTree.read, h, Text.Utf8.decode_encode,
    Except.map]

/-! A page, and a component that uses itself by a second name. -/

def respelledPage : List Char := "<: component c >".toList

def respelledComponent : List Char := "S<: component ./c >".toList

def respelledFiles : FileView where
  tree :=
    { entries :=
        [(["t"], .directory), (["t", "components"], .directory),
         (["t", "page.modx"], .file (Text.Utf8.encode respelledPage) 1 1),
         (["t", "components", "c.modx"], .file (Text.Utf8.encode respelledComponent) 2 2)]
      stamp := 3 }
  cwd := []

def respelledLocator : Locator := { paths := [⟨"", ["t"]⟩] }

theorem find_respelledPage :
    respelledFiles.tree.find true respelledFiles.cwd ⟨"", ["t", "page.modx"]⟩ =
      .ok (["t", "page.modx"], some (.file (Text.Utf8.encode respelledPage) 1 1)) := by
  unfold FileTree.find
  rw [if_neg (by decide +kernel), if_neg (by decide +kernel)]
  change respelledFiles.tree.walk true FileTree.linkLimit [] ["t", "page.modx"] = _
  rw [FileTree.walk_directory (by decide +kernel) rfl]
  exact FileTree.walk_file (by decide +kernel) rfl

theorem find_respelledComponent :
    respelledFiles.tree.find true respelledFiles.cwd ⟨"", ["t", "components", "c.modx"]⟩ =
      .ok (["t", "components", "c.modx"],
        some (.file (Text.Utf8.encode respelledComponent) 2 2)) := by
  unfold FileTree.find
  rw [if_neg (by decide +kernel), if_neg (by decide +kernel)]
  change respelledFiles.tree.walk true FileTree.linkLimit [] ["t", "components", "c.modx"] = _
  rw [FileTree.walk_directory (by decide +kernel) rfl,
    FileTree.walk_directory (by decide +kernel) rfl]
  exact FileTree.walk_file (by decide +kernel) rfl

/-- Two spellings of a name mean one file, and the file is loaded inside of its own expansion. -/
theorem compile_respelled :
    let lib := respelledLocator.library respelledFiles
    lib.resolve .component "c" = .ok ⟨"", ["t", "components", "c.modx"]⟩ ∧
      lib.resolve .component "./c" = .ok ⟨"", ["t", "components", "c.modx"]⟩ ∧
      (Compiler.compile { library := lib } "page" [] none).Yields fun out =>
        out.source = "SS<!-- Component ./c already processed (avoiding recursion) -->".toList := by
  intro lib
  have hpage : respelledLocator.resolve respelledFiles .template "page" =
      .ok ⟨"", ["t", "page.modx"]⟩ :=
    Locator.resolve_of_find (by decide +kernel) rfl find_respelledPage
  have hfirst : respelledLocator.resolve respelledFiles .component "c" =
      .ok ⟨"", ["t", "components", "c.modx"]⟩ :=
    Locator.resolve_of_find (by decide +kernel) rfl find_respelledComponent
  have hsecond := Locator.resolve_of_namePath (b := "./c") (by decide +kernel) hfirst
  have huse : readTextFile respelledFiles ⟨"", ["t", "page.modx"]⟩ =
      .ok (useText "c".toList []) :=
    (readTextFile_of_find find_respelledPage).trans (congrArg _ (by decide +kernel))
  have hread : readTextFile respelledFiles ⟨"", ["t", "components", "c.modx"]⟩ =
      .ok (['S'] ++ useText "./c".toList []) :=
    (readTextFile_of_find find_respelledComponent).trans (congrArg _ (by decide +kernel))
  have hsource : protect ['S'] ++ (protect ['S'] ++ recursionMarker "./c") =
      "SS<!-- Component ./c already processed (avoiding recursion) -->".toList := by
    decide +kernel
  refine ⟨hfirst, hsecond, ?_⟩
  rw [← hsource]
  exact yields_compile_respelled (by decide) ⟨by decide, by decide⟩ ⟨by decide, by decide⟩ (by decide)
    (by decide) (by decide) hpage huse hfirst hsecond hread []

end Stencil.Template
