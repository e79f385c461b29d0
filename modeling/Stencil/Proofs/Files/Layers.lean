import Stencil.Proofs.Files.Access
import Stencil.Proofs.Files.Looks
import Stencil.Proofs.Value.Layers
import Stencil.Proofs.Yaml.Making

/-! The layers that files hold are proper mappings, and a directory is its layers merged one after the other. -/
namespace Stencil

/-- A mapping of a proper graph is a proper layer. -/
theorem Layer.isProper_ofGraph {g : Graph} {n : Nat} {pairs : List (Nat × Nat)} (hg : g.IsProper)
    (hc : g.cell n = .dict pairs) : (Layer.ofGraph g n).IsProper := by
  unfold ofGraph
  split
  · next m _ hopened => exact .plain (hopened ▸ hg.opened n)
  · exact .shared hg hc

theorem Layer.isProper_nil : (Layer.plain []).IsProper := .plain (.dict List.nodup_nil nofun nofun)

namespace Files

open Act (Looks)

variable {loader : Yaml.Loader} {s : Session} {p : Path}

theorem looks_readParts (p : Path) (strict : Bool) : Looks (readParts p strict loader) := fun t =>
  ((SameFile.refl t p).agrees_readParts strict).looks t

theorem looks_readLayer (p : Path) : Looks (readLayer p loader) := fun t => (SameFile.refl t p).agrees_readLayer.looks t

/-- What a file holds is a cell of a proper graph. -/
theorem isProper_of_readParts {strict : Bool} {g : Graph} {n : Nat}
    (h : (readParts p strict loader).outcome s = .ok (some (g, n))) : g.IsProper := by
  unfold readParts at h
  obtain ⟨found, -, h⟩ := (looks_hasEntry p).outcome_bind_eq_ok_iff.mp h
  split at h
  · obtain ⟨outcome, t, hrun, h⟩ := Act.run_of_outcome_bind h
    rw [Act.attempt_eq] at hrun
    cases hrun
    split at h
    · next g' n' hread =>
      obtain ⟨text, t, -, hread⟩ := Act.run_of_outcome_bind hread
      split at h
      · cases h
      · cases h
        cases hgraph : loader.read (.file p.text) text with
        | error e =>
          rw [hgraph] at hread
          cases hread
        | ok r =>
          rw [hgraph] at hread
          cases hread
          exact (loader.isProper_of_read hgraph).1
    · split at h <;> cases h
  · split at h <;> cases h

theorem isProper_of_readLayer {l : Layer} (h : (readLayer p loader).outcome s = .ok l) : l.IsProper := by
  unfold readLayer at h
  obtain ⟨parts, hparts, h⟩ := (looks_readParts p true).outcome_bind_eq_ok_iff.mp h
  split at h
  · cases h
    exact Layer.isProper_nil
  · split at h
    · next hc =>
      cases h
      exact Layer.isProper_ofGraph (isProper_of_readParts hparts) hc
    · split at h
      · cases h
      · cases h
        exact Layer.isProper_nil

/-- The layer of a file that holds a text of a mapping. -/
theorem outcome_readLayer_of_find {place : List String} {text : List Char} {stamp serial : Nat} {g : Graph}
    {n : Nat} {pairs : List (Nat × Nat)}
    (hfind : s.tree.find true s.cwd p = .ok (place, some (.file (Text.Utf8.encode text) stamp serial)))
    (hread : loader.read (.file p.text) (Text.Utf8.foldNewlines text) = .ok (g, n)) (hc : g.cell n = .dict pairs) :
    (readLayer p loader).outcome s = .ok (.ofGraph g n) := by
  have hparts : readParts p true loader s = .ok (some (g, n)) s := by
    unfold readParts
    rw [Act.run_bind_ok (run_hasEntry (FileTree.hasEntry_of_find hfind)), Option.isSome_some, if_pos rfl]
    have hrun : Act.attempt (do Act.ofExcept (loader.read (.file p.text) (← readLines p))) s =
        .ok (.ok (g, n)) s := by
      unfold Act.attempt
      rw [Act.run_bind_ok (run_readLines_of_find hfind), hread]
      rfl
    rw [Act.run_bind_ok hrun]
    simp only [hc]
    rfl
  unfold readLayer Act.outcome
  rw [Act.run_bind_ok hparts]
  simp only [hc]
  rfl

/-- A file laid over a layer is its layer merged into it. -/
theorem outcome_mergeFile_eq_ok_iff {base next : Layer} :
    (mergeFile loader base p).outcome s = .ok next ↔
      ∃ l, (readLayer p loader).outcome s = .ok l ∧ base.merge l = some next := by
  refine (looks_readLayer p).outcome_bind_eq_ok_iff.trans (exists_congr fun l => and_congr_right fun _ => ?_)
  cases base.merge l with
  | some layer => exact ⟨fun h => congrArg some (Except.ok.inj h), fun h => congrArg Except.ok (Option.some.inj h)⟩
  | none =>
    constructor
    · intro h
      cases h
    · intro h
      cases h

/-- Files laid over a layer one after the other are their layers merged. -/
theorem outcome_mergeFiles_eq_ok_iff {base merged : Layer} {files : List Path} :
    (files.foldlM (mergeFile loader) base).outcome s = .ok merged ↔
      ∃ layers, List.Forall₂ (fun p l => (readLayer p loader).outcome s = .ok l) files layers ∧
        base.mergeAll layers = some merged := by
  induction files generalizing base with
  | nil =>
    constructor
    · intro h
      cases h
      exact ⟨[], .nil, rfl⟩
    · rintro ⟨layers, hall, hmerge⟩
      cases hall
      cases hmerge
      rfl
  | cons p files ih =>
    have hlooks : Looks (mergeFile loader base p) := fun t => ((SameFile.refl t p).agrees_mergeFile base).looks t
    rw [List.foldlM_cons, hlooks.outcome_bind_eq_ok_iff]
    constructor
    · rintro ⟨next, hnext, h⟩
      obtain ⟨l, hl, hnext⟩ := outcome_mergeFile_eq_ok_iff.mp hnext
      obtain ⟨layers, hall, hrest⟩ := ih.mp h
      exact ⟨l :: layers, .cons hl hall, Layer.mergeAll_cons_eq_some.mpr ⟨next, hnext, hrest⟩⟩
    · rintro ⟨layers, hall, h⟩
      cases hall with
      | @cons _ l _ layers hl hall =>
        obtain ⟨next, hnext, hrest⟩ := Layer.mergeAll_cons_eq_some.mp h
        exact ⟨next, outcome_mergeFile_eq_ok_iff.mpr ⟨l, hl, hnext⟩, ih.mpr ⟨layers, hall, hrest⟩⟩

/-- A directory is the layers of its files merged. -/
theorem outcome_mergeDirectory_eq_ok_iff {base merged : Layer} {dir : Path} :
    (mergeDirectory base dir loader).outcome s = .ok merged ↔
      ∃ files layers, (yamlFiles dir).outcome s = .ok files ∧
        List.Forall₂ (fun p l => (readLayer p loader).outcome s = .ok l) files layers ∧
        base.mergeAll layers = some merged := by
  refine (looks_yamlFiles dir).outcome_bind_eq_ok_iff.trans (exists_congr fun files => ?_)
  rw [exists_and_left]
  exact and_congr_right fun _ => outcome_mergeFiles_eq_ok_iff

end Files

end Stencil
