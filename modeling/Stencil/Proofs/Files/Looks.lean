import Stencil.Files.Yaml
import Stencil.Proofs.Session
import Stencil.Project

/-! What is only read of files, and on what it depends: a layer of a configuration depends on nothing but its
file's being there and its bytes. -/
namespace Stencil

open Act (Looks Agrees)

namespace Files

theorem looks_look {α : Type} (p : Path) (f : FileTree → List String → Path → Except PathFault α) :
    Looks (look p f) := by
  refine Act.looks_get.bind fun s => ?_
  split
  · exact Act.looks_pure _
  · exact Act.looks_throw _

theorem looks_hasEntry (p : Path) : Looks (hasEntry p) := looks_look p _

theorem looks_names (p : Path) : Looks (names p) := Act.looks_get.bind fun _ => Act.looks_pure _

theorem looks_resolve (p : Path) : Looks (resolve p) := by
  refine Act.looks_get.bind fun s => ?_
  -- Both branches end in the same look at where links lead.
  split
  · refine (Act.looks_throw _).bind fun _ => ?_
    dsimp only
    split
    · exact Act.looks_throw _
    · exact Act.looks_pure _
  · dsimp only
    split
    · exact Act.looks_throw _
    · exact Act.looks_pure _

theorem looks_yamlFiles (dir : Path) : Looks (yamlFiles dir) := by
  refine (looks_hasEntry dir).bind fun found => ?_
  cases found with
  | true => exact (looks_names dir).bind fun _ => Act.looks_pure _
  | false => exact Act.looks_pure _

/-! ### Files that look the same -/

/-- Whether a file looks the same in two sessions: it is there in both or in neither, with the same bytes. -/
structure SameFile (s s' : Session) (p : Path) : Prop where
  there : (hasEntry p).outcome s = (hasEntry p).outcome s'
  bytes : (readBytes p).outcome s = (readBytes p).outcome s'

section

variable {loader : Yaml.Loader} {s s' : Session} {p : Path}

theorem outcome_look {α : Type} (p : Path) (f : FileTree → List String → Path → Except PathFault α)
    (s : Session) : (look p f).outcome s =
      match f s.tree s.cwd p with
      | .ok a => .ok a
      | .error fault => .error (.ofPathFault fault p.text) := by
  unfold look
  rw [Act.outcome_get_bind]
  cases f s.tree s.cwd p <;> rfl

/-- A look at the files comes to the same wherever the files are the same. -/
theorem agrees_look {α : Type} (htree : s.tree = s'.tree) (hcwd : s.cwd = s'.cwd) (p : Path)
    (f : FileTree → List String → Path → Except PathFault α) : Agrees s s' (look p f) :=
  ⟨looks_look p f, by rw [outcome_look, outcome_look, htree, hcwd]⟩

theorem agrees_yamlFiles (htree : s.tree = s'.tree) (hcwd : s.cwd = s'.cwd) (dir : Path) :
    Agrees s s' (yamlFiles dir) := by
  refine (agrees_look htree hcwd dir _).bind fun found => ?_
  cases found with
  | true =>
    have hnames : Agrees s s' (names dir) := by
      refine ⟨looks_names dir, ?_⟩
      unfold names
      rw [Act.outcome_get_bind, Act.outcome_get_bind, htree, hcwd]
      rfl
    exact hnames.bind fun _ => Act.agrees_pure s s' _
  | false => exact Act.agrees_pure s s' _

theorem sameFile_of_tree (htree : s.tree = s'.tree) (hcwd : s.cwd = s'.cwd) (p : Path) :
    SameFile s s' p :=
  ⟨(agrees_look htree hcwd p _).outcome, (agrees_look htree hcwd p _).outcome⟩

theorem SameFile.refl (s : Session) (p : Path) : SameFile s s p := ⟨rfl, rfl⟩

theorem SameFile.agrees_hasEntry (h : SameFile s s' p) : Agrees s s' (hasEntry p) :=
  ⟨looks_hasEntry p, h.there⟩

theorem SameFile.agrees_readLines (h : SameFile s s' p) : Agrees s s' (readLines p) := by
  have hbytes : Agrees s s' (readBytes p) := ⟨looks_look p _, h.bytes⟩
  refine hbytes.bind fun bytes => ?_
  split
  · exact Act.agrees_pure s s' _
  · exact Act.agrees_throw s s' _

theorem SameFile.agrees_readParts (h : SameFile s s' p) (strict : Bool) :
    Agrees s s' (readParts p strict loader) := by
  refine h.agrees_hasEntry.bind fun found => ?_
  cases found with
  | true =>
    refine (h.agrees_readLines.bind fun _ => Act.agrees_ofExcept s s' _).attempt.bind fun outcome => ?_
    split
    · split
      · exact Act.agrees_pure s s' _
      · exact Act.agrees_pure s s' _
    · split
      · exact Act.agrees_pure s s' _
      · exact Act.agrees_throw s s' _
  | false =>
    cases strict with
    | true => exact Act.agrees_throw s s' _
    | false => exact Act.agrees_pure s s' _

theorem SameFile.agrees_readLayer (h : SameFile s s' p) : Agrees s s' (readLayer p loader) := by
  refine (h.agrees_readParts true).bind fun parts => ?_
  split
  · exact Act.agrees_pure s s' _
  · split
    · exact Act.agrees_pure s s' _
    · split
      · exact Act.agrees_throw s s' _
      · exact Act.agrees_pure s s' _

/-- One more file laid over what there is so far. -/
def mergeFile (loader : Yaml.Loader) (acc : Layer) (p : Path) : Act Layer := do
  match acc.merge (← readLayer p loader) with
  | some layer => return layer
  | none => throw .nesting

theorem SameFile.agrees_mergeFile (h : SameFile s s' p) (acc : Layer) : Agrees s s' (mergeFile loader acc p) := by
  refine h.agrees_readLayer.bind fun layer => ?_
  split
  · exact Act.agrees_pure s s' _
  · exact Act.agrees_throw s s' _

/-- What the files of a directory come to depends on the files alone. -/
theorem agrees_mergeDirectory {dir : Path} (hfiles : (yamlFiles dir).outcome s = (yamlFiles dir).outcome s')
    (h : ∀ files, (yamlFiles dir).outcome s = .ok files → ∀ p ∈ files, SameFile s s' p) (base : Layer) :
    Agrees s s' (mergeDirectory base dir loader) := by
  have hlooks (files : List Path) : Looks (files.foldlM (mergeFile loader) base) :=
    fun t => (Act.agrees_foldlM (fun acc p _ => (SameFile.refl t p).agrees_mergeFile acc) base).looks t
  refine ⟨(looks_yamlFiles dir).bind hlooks, ?_⟩
  have hout (t : Session) : (mergeDirectory base dir loader).outcome t =
      ((yamlFiles dir).outcome t).bind fun files => (files.foldlM (mergeFile loader) base).outcome t :=
    (looks_yamlFiles dir).outcome_bind _ t
  rw [hout, hout, ← hfiles]
  cases hs : (yamlFiles dir).outcome s with
  | error e => rfl
  | ok files =>
    exact (Act.agrees_foldlM (fun acc p hp => (h files hs p hp).agrees_mergeFile acc) base).outcome

end

end Files

namespace Project

theorem looks_settle (p : Path) : Looks (settle p) := by
  have hhome : Looks home := Act.looks_get.bind fun _ => Act.looks_pure _
  exact hhome.bind fun _ => (Act.looks_ofExcept _).bind fun _ => Files.looks_resolve _

theorem looks_findRoot (start : Option Path) : Looks (findRoot start) := by
  have hmarked (p : Path) : Looks (isMarked p) := Act.looks_anyM (fun _ => Files.looks_hasEntry _) _
  exact (looks_settle _).bind fun _ => (Act.looks_findM? hmarked _).bind fun _ => Act.looks_pure _

end Project

end Stencil
