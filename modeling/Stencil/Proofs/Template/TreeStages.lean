import Stencil.Proofs.Target.Tiling
import Stencil.Proofs.Template.Marks
import Stencil.Proofs.Template.Tree

/-! The loops of a tree, round by round. Round `k` converts the loops that hold exactly `k` loops inside
one another: all inside of them are converted by then, and all around them still are openers in a body. So
after `k` rounds a page is the tree printed with its loops of fewer than `k` as tags. -/
namespace Stencil.Template

open Text (IsName Piece expect takeWord skipSpace)
open Target (Construct isEdge)

namespace IsTreeName

variable {name : String}

theorem isName (h : IsTreeName name) : IsName name.toList := by
  refine ⟨fun hnil => ?_, h.word⟩
  have := ((isRenderable_iff name).mp h.renderable).1
  rw [hnil] at this
  cases this

theorem notMem (h : IsTreeName name) {c : Char} (hc : Unicode.isWord c = false) :
    c ∉ name.toList := by
  intro hmem
  have := h.word c hmem
  rw [hc] at this
  cases this

theorem ne_keyword (h : IsTreeName name) {keyword : String} (hk : keyword ∈ keywords) :
    keyword.toList ≠ name.toList := by
  intro he
  rw [String.toList_inj.mp he] at hk
  exact h.notKeyword hk

end IsTreeName

/-! ### How a tree is printed between two rounds -/

namespace Tree

/-- The protected page after `k` rounds over its loops. -/
def stage (k : Nat) : Tree → List Char
  | done => []
  | text s rest => protect s ++ rest.stage k
  | var name rest => placeholderFor name ++ rest.stage k
  | loop item index collection body rest =>
    (if body.height < k then
      (Construct.openLoop (index.getD defaultIndex) item collection).text
        ++ (body.stage k ++ Construct.closeLoop.text)
    else loopHeader item index collection ++ (body.stage k ++ loopFooter)) ++ rest.stage k

/-- The page after all rounds, with `put name` for the placeholder of a name. -/
def tagged (put : String → List Char) : Tree → List Char
  | done => []
  | text s rest => protect s ++ rest.tagged put
  | var name rest => put name ++ rest.tagged put
  | loop item index collection body rest =>
    (Construct.openLoop (index.getD defaultIndex) item collection).text
      ++ (body.tagged put ++ Construct.closeLoop.text) ++ rest.tagged put

theorem stage_eq_tagged {k : Nat} {T : Tree} (h : T.height ≤ k) :
    T.stage k = T.tagged placeholderFor := by
  induction T with
  | done => rfl
  | text s rest ih => rw [stage, tagged, ih h]
  | var name rest ih => rw [stage, tagged, ih h]
  | loop item index collection body rest ihbody ih =>
    rw [height, Nat.max_le] at h
    have hbody : body.height < k := h.1
    rw [stage, tagged, if_pos hbody, ihbody (Nat.le_of_lt hbody), ih h.2]

end Tree

theorem brace_notMem_header {item collection : String} {index : Option String}
    (hitem : IsTreeName item) (hindex : IsTreeName (index.getD defaultIndex))
    (hcollection : IsTreeName collection) : '{' ∉ loopHeader item index collection := by
  have hbrace : Unicode.isWord '{' = false := by decide
  have hitem := hitem.notMem hbrace
  have hindex := hindex.notMem hbrace
  have hcollection := hcollection.notMem hbrace
  have hpart : '{' ∉ indexPart index := by
    cases index with
    | none => exact List.not_mem_nil
    | some i => simpa [indexPart] using hindex
  unfold loopHeader
  simp only [List.mem_append, hitem, hpart, hcollection, or_false]
  decide

theorem brace_notMem_placeholder {name : String} (h : IsTreeName name) :
    '{' ∉ placeholderFor name := by
  have hname := h.notMem (c := '{') (by decide)
  simp [placeholderFor, hname]

/-- Before the first round a page is only protected. -/
theorem Tree.protect_print {T : Tree} (hT : T.Valid) : protect T.print = T.stage 0 := by
  induction T with
  | done => rfl
  | text s rest ih => rw [print, stage, protect_append, ih hT.2.2.2.2]
  | var name rest ih =>
    rw [print, stage, protect_append, ih hT.2, protect_eq_self (brace_notMem_placeholder hT.1)]
  | loop item index collection body rest ihbody ih =>
    obtain ⟨hitem, hindex, hcollection, -, hbody, hrest⟩ := hT
    rw [print, stage, if_neg (Nat.not_lt_zero _), protect_append, protect_append, protect_append,
      ih hrest, ihbody hbody, protect_eq_self (brace_notMem_header hitem hindex hcollection),
      protect_eq_self (s := loopFooter) (by decide), List.append_assoc (loopHeader _ _ _)]

/-! ### What the stretches of a stage are read as -/

open Directive (opener loopBody loopIndex)

theorem isName_for : IsName "for".toList := Text.isName_of_all (by decide) (by decide)

theorem isName_endfor : IsName "endfor".toList := Text.isName_of_all (by decide) (by decide)

theorem placeholder_append (name : String) (s : List Char) :
    placeholderFor name ++ s = opener name.toList (':' :: '>' :: s) := by
  simp [placeholderFor, opener]

theorem footer_append (s : List Char) :
    loopFooter ++ s = opener "endfor".toList (':' :: '>' :: s) := rfl

theorem header_append (item : String) (index : Option String) (collection : String)
    (s : List Char) :
    loopHeader item index collection ++ s =
      opener "for".toList (item.toList ++ (indexPart index ++ ' ' :: 'i' :: 'n' :: ' ' ::
        (collection.toList ++ ' ' :: ':' :: '>' :: s))) := by
  unfold loopHeader
  simp [opener]

/-- The index of a loop is read up to the keyword behind it. -/
theorem loopIndex_part {index : Option String} (hindex : IsName (index.getD defaultIndex).toList)
    (s : List Char) :
    loopIndex (indexPart index ++ ' ' :: 'i' :: 'n' :: s) = some (index, 'i' :: 'n' :: s) := by
  cases index with
  | none => rfl
  | some i =>
    have hi : IsName i.toList := hindex
    simp (disch := decide) only [indexPart, List.cons_append, loopIndex,
      Text.skipSpace_cons_of_not_space, Text.skipSpace_space, hi.skipSpace, hi.takeWord_space,
      Option.bind_eq_bind, Option.bind_some, Text.needSpace_space, String.ofList_toList]

/-- An opener is read as a loop if its body has an end before the next opener. -/
theorem readLoop_header {item collection : String} {index : Option String}
    (hitem : IsName item.toList) (hindex : IsName (index.getD defaultIndex).toList)
    (hcollection : IsName collection.toList) (s : List Char) :
    Directive.loop.read (loopHeader item index collection ++ s) =
      (loopBody s).map fun r => (⟨item, index, collection, r.1⟩, r.2) := by
  have hword : takeWord (item.toList ++ (indexPart index ++ ' ' :: 'i' :: 'n' :: ' ' ::
      (collection.toList ++ ' ' :: ':' :: '>' :: s))) =
      some (item.toList, indexPart index ++ ' ' :: 'i' :: 'n' :: ' ' ::
        (collection.toList ++ ' ' :: ':' :: '>' :: s)) := by
    cases index with
    | none => exact hitem.takeWord_space _
    | some i => exact hitem.takeWord (by decide) _
  rw [header_append]
  simp only [Directive.loop, Directive.readLoop, Directive.openKeyword_opener isName_for,
    Text.expect_append, Option.bind_eq_bind, Option.bind_some, Text.needSpace_space,
    hitem.skipSpace, hword, loopIndex_part hindex, expect, if_true, hcollection.skipSpace,
    hcollection.takeWord_space, Directive.closeMark_space, String.ofList_toList]
  cases loopBody s <;> rfl

/-- A loop body goes on over text at which no loop ends and none opens. -/
theorem loopBody_append {front s : List Char}
    (h : ∀ c before after, front = before ++ c :: after →
      Directive.loopEnd (c :: after ++ s) = none ∧ Directive.opensLoop (c :: after ++ s) = false) :
    loopBody (front ++ s) = (loopBody s).map fun r => (front ++ r.1, r.2) := by
  induction front with
  | nil => cases hs : loopBody s <;> simp [hs]
  | cons c front ih =>
    obtain ⟨hend, hopens⟩ := h c [] front rfl
    have htail := ih fun d before after he => h d (c :: before) after (by rw [he]; rfl)
    rw [List.cons_append] at hend hopens ⊢
    simp only [loopBody, hend, hopens, htail]
    cases loopBody s <;> rfl

theorem loopBody_unmarked {front s : List Char} (h : Unmarked front s) :
    loopBody (front ++ s) = (loopBody s).map fun r => (front ++ r.1, r.2) := by
  refine loopBody_append fun c before after he => ?_
  have hopen (keyword : List Char) : Directive.openKeyword keyword (c :: after ++ s) = none :=
    Directive.openKeyword_eq_none (h c before after he)
  rw [Directive.loopEnd, Directive.opensLoop, hopen, hopen]
  exact ⟨rfl, rfl⟩

theorem placeholder_eq_cons (name : String) :
    placeholderFor name = '<' :: (": ".toList ++ name.toList ++ " :>".toList) := rfl

theorem angle_notMem_placeholder {name : String} (h : IsTreeName name) :
    '<' ∉ ": ".toList ++ name.toList ++ " :>".toList := by
  have hname := h.notMem (c := '<') (by decide)
  simp [hname]

theorem loopBody_placeholder {name : String} (h : IsTreeName name) (s : List Char) :
    loopBody (placeholderFor name ++ s) =
      (loopBody s).map fun r => (placeholderFor name ++ r.1, r.2) := by
  have hend := Directive.loopEnd_opener h.isName (h.ne_keyword (by decide)) (':' :: '>' :: s)
  have hopens := Directive.opensLoop_opener h.isName (h.ne_keyword (by decide)) (':' :: '>' :: s)
  rw [← placeholder_append] at hend hopens
  rw [placeholder_eq_cons, List.cons_append] at hend hopens ⊢
  simp only [loopBody, hend, hopens,
    loopBody_unmarked (Unmarked.of_notMem (angle_notMem_placeholder h) s)]
  cases loopBody s <;> rfl

theorem loopBody_footer (s : List Char) : loopBody (loopFooter ++ s) = some ([], s) := by
  have hend : Directive.loopEnd (opener "endfor".toList (':' :: '>' :: s)) = some s := by
    rw [Directive.loopEnd, Directive.openKeyword_opener isName_endfor, Text.expect_append]
    rfl
  rw [footer_append]
  unfold opener at hend ⊢
  simp only [loopBody, hend]

theorem loopBody_header (item : String) (index : Option String) (collection : String)
    (s : List Char) : loopBody (loopHeader item index collection ++ s) = none := by
  rw [header_append]
  generalize item.toList ++ _ = t
  have hend := Directive.loopEnd_opener isName_for (by decide) t
  have hopens : Directive.opensLoop (opener "for".toList t) = true := by
    rw [Directive.opensLoop, Directive.openKeyword_opener isName_for, Text.expect_append]
    rfl
  unfold opener at hend hopens ⊢
  simp only [loopBody, hend, hopens, if_true]

/-! ### One round -/

theorem isSound_openLoop {item collection : String} {index : Option String}
    (hitem : IsTreeName item) (hindex : IsTreeName (index.getD defaultIndex))
    (hcollection : IsTreeName collection) :
    (Construct.openLoop (index.getD defaultIndex) item collection).IsSound :=
  ⟨hindex.renderable, hitem.renderable, hcollection.renderable⟩

theorem unmarked_tag {k : Construct} (hk : k.IsSound) (s : List Char) : Unmarked k.text s :=
  Unmarked.of_notMem (Target.edge_notMem_text (by decide) hk) s

/-- A placeholder is skipped if nothing is read at its opening mark. -/
theorem skips_placeholder {α : Type} {p : Text.Recogniser α} (hp : NeedsMark p) {name : String}
    (h : IsTreeName name) {s : List Char}
    (hread : p.read (opener name.toList (':' :: '>' :: s)) = none) :
    p.Skips (placeholderFor name) s := by
  rw [← placeholder_append, placeholder_eq_cons] at hread
  rw [placeholder_eq_cons]
  exact hp.skips_cons hread (angle_notMem_placeholder h)

theorem skips_footer {α : Type} {p : Text.Recogniser α} (hp : NeedsMark p) {s : List Char}
    (hread : p.read (opener "endfor".toList (':' :: '>' :: s)) = none) :
    p.Skips loopFooter s :=
  show p.Skips ('<' :: ": endfor :>".toList) s from hp.skips_cons hread (by decide)

theorem skips_header {α : Type} {p : Text.Recogniser α} (hp : NeedsMark p) {item collection : String}
    {index : Option String} (hitem : IsTreeName item) (hindex : IsTreeName (index.getD defaultIndex))
    (hcollection : IsTreeName collection) {s : List Char}
    (hread : p.read (loopHeader item index collection ++ s) = none) :
    p.Skips (loopHeader item index collection) s := by
  have hangle : Unicode.isWord '<' = false := by decide
  have hitem := hitem.notMem hangle
  have hcollection := hcollection.notMem hangle
  have hpart : '<' ∉ indexPart index := by
    cases index with
    | none => exact List.not_mem_nil
    | some i => simpa [indexPart] using hindex.notMem hangle
  have hcons : loopHeader item index collection = '<' :: (": for ".toList ++ item.toList
      ++ indexPart index ++ " in ".toList ++ collection.toList ++ " :>".toList) := rfl
  rw [hcons] at hread ⊢
  refine hp.skips_cons hread ?_
  simp only [List.mem_append, hitem, hpart, hcollection, or_false]
  decide

namespace Tree

variable {T : Tree} {k : Nat}

/-- Behind a text stands no colon, since no other text does. -/
theorem head_stage (hT : T.isText = false) {s : List Char} (hs : s.head? ≠ some ':') :
    (T.stage k ++ s).head? ≠ some ':' := by
  cases T with
  | done => exact hs
  | text t rest => cases hT
  | var name rest => simp [stage, placeholderFor]
  | loop item index collection body rest =>
    rw [stage]
    split
    · obtain ⟨t, ht⟩ := (Construct.openLoop (index.getD defaultIndex) item collection).exists_text_eq
      simp [ht]
    · rw [List.append_assoc, List.append_assoc, header_append]
      simp [opener]

/-- A stage is the body of a loop if all loops in it are converted, and else it is in the way of one. -/
theorem loopBody_stage (hT : T.Valid) {s : List Char} (hs : s.head? ≠ some ':') :
    loopBody (T.stage k ++ s) =
      if T.height ≤ k then (loopBody s).map fun r => (T.stage k ++ r.1, r.2) else none := by
  induction T generalizing s with
  | done => cases h : loopBody s <;> simp [stage, height, h]
  | text t rest ih =>
    obtain ⟨hmark, -, -, hrest, hvalid⟩ := hT
    rw [stage, List.append_assoc,
      loopBody_unmarked (Unmarked.protect hmark (head_stage hrest hs)), ih hvalid hs, height]
    split
    · cases loopBody s <;> simp
    · rfl
  | var name rest ih =>
    obtain ⟨hname, hvalid⟩ := hT
    rw [stage, List.append_assoc, loopBody_placeholder hname, ih hvalid hs, height]
    split
    · cases loopBody s <;> simp
    · rfl
  | loop item index collection body rest ihbody ih =>
    obtain ⟨hitem, hindex, hcollection, -, hbody, hvalid⟩ := hT
    rw [stage, height]
    split
    · next hlt =>
      have hopen := isSound_openLoop hitem hindex hcollection
      have hheight : max (body.height + 1) rest.height ≤ k ↔ rest.height ≤ k := by omega
      rw [List.append_assoc, List.append_assoc, loopBody_unmarked (unmarked_tag hopen _),
        List.append_assoc, ihbody hbody (by simp [Construct.text_closeLoop]),
        if_pos (Nat.le_of_lt hlt), loopBody_unmarked (unmarked_tag (k := .closeLoop) trivial _),
        ih hvalid hs]
      simp only [hheight]
      split
      · cases loopBody s <;> simp
      · rfl
    · next hge =>
      have hheight : ¬ max (body.height + 1) rest.height ≤ k := by omega
      rw [List.append_assoc, List.append_assoc, loopBody_header, if_neg hheight]

/-- The pieces that round `k` cuts a tree into: loops that hold exactly `k` loops inside one another, and
single characters. -/
def marks (k : Nat) : Tree → List (Piece Directive.Loop)
  | done => []
  | text s rest => (protect s).map .char ++ rest.marks k
  | var name rest => (placeholderFor name).map .char ++ rest.marks k
  | loop item index collection body rest =>
    (if body.height < k then
      (Construct.openLoop (index.getD defaultIndex) item collection).text.map .char
        ++ (body.marks k ++ Construct.closeLoop.text.map .char)
    else if body.height = k then
      [.mark ⟨item, index, collection, body.stage k⟩
        (loopHeader item index collection ++ (body.stage k ++ loopFooter))]
    else
      (loopHeader item index collection).map .char
        ++ (body.marks k ++ loopFooter.map .char)) ++ rest.marks k

/-- Round `k` over a stage. -/
theorem pieces_stage (hT : T.Valid) {s : List Char} (hs : s.head? ≠ some ':') :
    Directive.loop.pieces (T.stage k ++ s) = T.marks k ++ Directive.loop.pieces s := by
  induction T generalizing s with
  | done => rfl
  | text t rest ih =>
    obtain ⟨hmark, -, -, hrest, hvalid⟩ := hT
    have hskips := (Unmarked.protect hmark (head_stage (k := k) hrest hs)).skips
      Directive.loop_needsMark
    rw [stage, marks, List.append_assoc, Text.Recogniser.pieces_append_of_skips hskips,
      ih hvalid hs, List.append_assoc]
  | var name rest ih =>
    obtain ⟨hname, hvalid⟩ := hT
    have hskips := skips_placeholder Directive.loop_needsMark hname (s := rest.stage k ++ s)
      (Directive.readLoop_opener hname.isName (hname.ne_keyword (by decide)) _)
    rw [stage, marks, List.append_assoc, Text.Recogniser.pieces_append_of_skips hskips,
      ih hvalid hs, List.append_assoc]
  | loop item index collection body rest ihbody ih =>
    obtain ⟨hitem, hindex, hcollection, -, hbody, hvalid⟩ := hT
    have hread := readLoop_header hitem.isName hindex.isName hcollection.isName
      (body.stage k ++ (loopFooter ++ (rest.stage k ++ s)))
    have hfooter : (loopFooter ++ (rest.stage k ++ s)).head? ≠ some ':' := by
      rw [footer_append]
      simp [opener]
    rw [loopBody_stage hbody hfooter, loopBody_footer] at hread
    rw [stage, marks]
    split
    · have hopen := isSound_openLoop hitem hindex hcollection
      have hskips := (unmarked_tag hopen
        (body.stage k ++ (Construct.closeLoop.text ++ (rest.stage k ++ s)))).skips
        Directive.loop_needsMark
      have hclose := (unmarked_tag (k := .closeLoop) trivial (rest.stage k ++ s)).skips
        Directive.loop_needsMark
      rw [List.append_assoc, List.append_assoc, List.append_assoc,
        Text.Recogniser.pieces_append_of_skips hskips,
        ihbody hbody (by simp [Construct.text_closeLoop]),
        Text.Recogniser.pieces_append_of_skips hclose, ih hvalid hs]
      simp only [List.append_assoc]
    split
    · next heq =>
      rw [if_pos (Nat.le_of_eq heq)] at hread
      have hmark : Directive.loop.pieces (loopHeader item index collection
          ++ (body.stage k ++ loopFooter) ++ (rest.stage k ++ s)) =
          .mark ⟨item, index, collection, body.stage k⟩
            (loopHeader item index collection ++ (body.stage k ++ loopFooter))
            :: Directive.loop.pieces (rest.stage k ++ s) :=
        Text.Recogniser.pieces_append_of_read (by simpa using hread)
      rw [List.append_assoc, hmark, ih hvalid hs]
      rfl
    · next hge hne =>
      rw [if_neg (by omega)] at hread
      have hskips := skips_header Directive.loop_needsMark hitem hindex hcollection hread
      have hend := skips_footer Directive.loop_needsMark (s := rest.stage k ++ s)
        (Directive.readLoop_opener isName_endfor (by decide) _)
      rw [List.append_assoc, List.append_assoc, List.append_assoc,
        Text.Recogniser.pieces_append_of_skips hskips, ihbody hbody hfooter,
        Text.Recogniser.pieces_append_of_skips hend, ih hvalid hs]
      simp only [List.append_assoc]

end Tree

end Stencil.Template
