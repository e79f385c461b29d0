import Stencil.Proofs.Target.Nesting
import Stencil.Proofs.Template.OpenMarks
import Stencil.Proofs.Template.TreeRun

/-! A protected text is the text again on both ways back: where its braces are restored, and where it is run.
A run sees no tags in it but the tokens, whatever stands around them, and what the data says under the name
of the brace is kept from it. -/
namespace Stencil.Template

open Target (Construct Written tagsOf foldNewlines_append foldNewlines_cons_of_ne)
open Text.Utf8 (foldNewlines)

/-! ### Line ends -/

theorem foldNewlines_return {s : List Char} (h : s.head? ≠ some '\n') :
    foldNewlines ('\r' :: s) = '\n' :: foldNewlines s := by
  rw [foldNewlines, if_pos rfl]
  rintro s' - rfl
  exact h rfl

theorem head?_protect_ne {s : List Char} (h : s.head? ≠ some '\n') : (protect s).head? ≠ some '\n' := by
  cases s with
  | nil => exact h
  | cons c s =>
    by_cases hc : c = '{'
    · subst hc
      rw [protect_cons_brace]
      exact nofun
    · rwa [protect_cons s hc]

/-- Protection keeps line ends as they are, and brings none in. -/
theorem foldNewlines_protect (s : List Char) : foldNewlines (protect s) = protect (foldNewlines s) := by
  fun_induction foldNewlines s with
  | case1 => rfl
  | case2 s ih =>
    rw [protect_cons _ (by decide), protect_cons _ (by decide), protect_cons _ (by decide), ← ih]
    rfl
  | case3 c s hpair ih =>
    by_cases hreturn : c = '\r'
    · subst hreturn
      have hhead : s.head? ≠ some '\n' := by
        cases s with
        | nil => exact nofun
        | cons d s => exact fun hd => hpair s rfl (by rw [Option.some.inj hd])
      rw [protect_cons _ (by decide), foldNewlines_return (head?_protect_ne hhead), if_pos rfl,
        protect_cons _ (by decide), ih]
    · rw [if_neg hreturn]
      by_cases hbrace : c = '{'
      · subst hbrace
        rw [protect_cons_brace, protect_cons_brace, foldNewlines_append (by decide), ih]
      · rw [protect_cons _ hbrace, protect_cons _ hbrace, foldNewlines_cons_of_ne hreturn, ih]

/-! ### The run of a protected text -/

theorem count_foldNewlines {c : Char} (hreturn : c ≠ '\r') (hfeed : c ≠ '\n') (s : List Char) :
    (foldNewlines s).count c = s.count c := by
  fun_induction foldNewlines s with
  | case1 => rfl
  | case2 s ih =>
    rw [List.count_cons_of_ne hfeed.symm, List.count_cons_of_ne hreturn.symm,
      List.count_cons_of_ne hfeed.symm, ih]
  | case3 d s _ ih =>
    by_cases hd : d = '\r'
    · rw [if_pos hd, hd, List.count_cons_of_ne hfeed.symm, List.count_cons_of_ne hreturn.symm, ih]
    · rw [if_neg hd, List.count_cons, List.count_cons, ih]

/-- A protected text is written from the characters of the text. -/
theorem written_foldNewlines_protect (s : List Char) :
    Written ((foldNewlines s).map pieceOf) (foldNewlines (protect s)) := by
  rw [foldNewlines_protect]
  exact written_protect _

theorem tagsOf_pieceOf (s : List Char) : tagsOf (s.map pieceOf) = List.replicate (s.count '{') .brace := by
  induction s with
  | nil => rfl
  | cons c s ih =>
    rw [List.map_cons, pieceOf]
    split
    · next hc =>
      rw [hc, List.count_cons_self]
      exact congrArg (Construct.brace :: ·) ih
    · next hc =>
      rw [List.count_cons_of_ne hc]
      exact ih

/-- The tags of a protected text are tokens, one for each brace that was in the text. -/
theorem tags_protect (s : List Char) :
    Target.tags (protect s) = List.replicate (s.count '{') .brace := by
  rw [Target.tags_of_written (written_foldNewlines_protect s), tagsOf_pieceOf,
    count_foldNewlines (by decide) (by decide)]

/-- A protected text is put together as the text that it was. -/
theorem treeOf_pieceOf (s : List Char) : Target.treeOf (s.map pieceOf) = .ok (s.map blockOf) := by
  have h := assemble_pieceOf s [] [] []
  rw [List.append_nil, List.append_nil, Target.assemble, List.reverse_reverse] at h
  refine Target.treeOf_of_isSpelled (fun k x hmem => ?_) (fun k x hmem n hn => ?_) h
  · obtain ⟨rfl, rfl⟩ := eq_brace_of_mem_pieceOf hmem
    exact ⟨trivial, rfl⟩
  · obtain ⟨rfl, rfl⟩ := eq_brace_of_mem_pieceOf hmem
    cases hn

/-- Where the data says nothing of the name of the brace, each token stands for its brace. -/
theorem runAll_blockOf_visible (data : Mapping) (s : List Char) :
    Target.runAll (Target.Env.enter ⟨[], visible data⟩ [] true (s.map blockOf)) (s.map blockOf) = .ok s := by
  have hown : (s.map blockOf).flatMap Target.Block.ownNames ⊆ [Target.braceName] := fun name hname =>
    List.mem_singleton.mpr (ownNames_blockOf hname).2
  have hagrees := (Agrees.start data [Target.braceName] []).enter (by decide)
    (show Target.Apart [Target.braceName] by unfold Target.Apart; decide +kernel) hown [] List.nodup_nil
    fun _ h => absurd h List.not_mem_nil
  refine runAll_blockOf fun hbrace => ?_
  refine hagrees.known _ List.mem_cons_self (Target.Env.knows_of_mem_ownNames ?_)
  rw [List.flatMap_map]
  exact List.mem_flatMap.mpr ⟨'{', hbrace, List.mem_singleton.mpr rfl⟩

theorem run_protect (backend : Target.Backend) (s : List Char) (data : Mapping) :
    backend.run (protect s) (visible data) =
      if Target.hasOnlyNames data then .ok (foldNewlines s) else .error .badName := by
  obtain ⟨hdepth, hloops⟩ := Tree.depthOf_blockOf (foldNewlines s)
  rw [backend.run_written (written_foldNewlines_protect s), Target.runPieces, treeOf_pieceOf]
  dsimp only
  rw [Target.runTree, hdepth, hloops, if_neg (by decide), if_neg (by decide), hasOnlyNames_visible,
    runAll_blockOf_visible]
  cases Target.hasOnlyNames data <;> rfl

/-- Protection loses nothing. Restoring the braces gives the text back, also where the text holds the token or
pieces of it. A run finds no tags but tokens, one for each brace, and a text without carriage returns is its
output whatever the data, all keys of which must be names; of data under the name of the brace no more than a
warning comes. -/
theorem protect_lossless (s : List Char) :
    restore (protect s) = s ∧ Target.tags (protect s) = List.replicate (s.count '{') .brace ∧
    ('\r' ∉ s → ∀ (backend : Target.Backend) (data : Mapping) (name : Option String) (t : Trace),
      execute backend (protect s) data name t = endOf (labelOf name) (warned data t)
        (if Target.hasOnlyNames data then .ok s else .error .badName)) := by
  refine ⟨restore_protect s, tags_protect s, fun hreturn backend data name t => ?_⟩
  rw [execute_eq_endOf, run_protect, Text.Utf8.foldNewlines_eq_self hreturn]

theorem protect_lossless_token :
    '\r' ∉ "\x7b\x7b __lb \x7d\x7d\x7b% \x7d\x7d \"#\x7d \x7b".toList ∧ ∀ backend name t,
      execute backend (protect "\x7b\x7b __lb \x7d\x7d\x7b% \x7d\x7d \"#\x7d \x7b".toList)
          [(.str "__lb", .str "<")] name t =
        .ok "\x7b\x7b __lb \x7d\x7d\x7b% \x7d\x7d \"#\x7d \x7b".toList (warned [(.str "__lb", .str "<")] t) := by
  refine ⟨by decide, fun backend name t => ?_⟩
  exact (protect_lossless "\x7b\x7b __lb \x7d\x7d\x7b% \x7d\x7d \"#\x7d \x7b".toList).2.2 (by decide)
    backend [(.str "__lb", .str "<")] name t

/-- The data must be kept from the name of the brace, which a run would else look up there. -/
example : (Target.run (protect ['{']) [(.str "__lb", .str "<")]).toOption = some ['<'] := by decide +kernel

end Stencil.Template
