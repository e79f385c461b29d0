import Stencil.Proofs.Template.Splices

/-! What the stages of a pass take out of a text and put into it, as stretches replaced in place: each
begins and ends with its own sign, and what takes its place is sealed. So no stage makes a directive out of
parts of a text that were apart. -/
namespace Stencil.Template

open Target (Construct)
open Text (Recogniser isSpace)

/-! ### Stretches -/

/-- A mark without body and props: inner characters between two angles. -/
def IsMark (x : List Char) : Prop := ∃ m, x = '<' :: (m ++ ['>']) ∧ m.all isInner = true

namespace IsMark

variable {x : List Char}

theorem delimited (h : IsMark x) : Delimited x := by
  obtain ⟨m, rfl, -⟩ := h
  exact ⟨.inl rfl, .inl (by simp [List.getLast?_cons])⟩

theorem notMem (h : IsMark x) {c : Char} (hc : isInner c = false) (hopen : c ≠ '<') (hclose : c ≠ '>') :
    c ∉ x := by
  obtain ⟨m, rfl, hm⟩ := h
  simp [hopen, hclose, Text.notMem_of_all hm hc]

/-- A test that does not hold at its front holds nowhere in a mark. -/
theorem free (h : IsMark x) {r : List Char → Bool} (hr : Local r) (hfront : r x = false) :
    Free r x := by
  obtain ⟨m, rfl, hm⟩ := h
  intro s hs
  rcases List.suffix_cons_iff.mp hs with rfl | hs
  · exact hfront
  · refine Free.of_unmarked hr (.of_notMem ?_ []) s hs
    simp [Text.notMem_of_all hm (c := '<') (by decide)]

end IsMark

/-- What is read between two angles is a mark, and is read there whatever follows. -/
theorem Enclosed.exists_mark {E : List Char → List Char → Prop} (hE : Enclosed E) {s rest : List Char}
    (h : E s rest) : ∃ x, s = x ++ rest ∧ IsMark x ∧ ∀ t, E (x ++ t) t := by
  obtain ⟨m, hs, hm, hback⟩ := hE h
  refine ⟨'<' :: (m ++ ['>']), by simp [hs], ⟨m, rfl, hm⟩, fun t => ?_⟩
  simpa using hback t

namespace Directive

variable {source rest : List Char}

theorem isMark_of_readPlaceholder {name : String}
    (h : placeholder.read (source ++ rest) = some (name, rest)) : IsMark source := by
  obtain ⟨x, hx, hmark, -⟩ := (readPlaceholder_enclosed name).exists_mark h
  rwa [List.append_cancel_right hx]

theorem isMark_of_readContent (h : content.read (source ++ rest) = some ((), rest)) : IsMark source := by
  obtain ⟨x, hx, hmark, -⟩ := readContent_enclosed.exists_mark h
  rwa [List.append_cancel_right hx]

theorem delimited_of_readComment {remark : List Char}
    (h : comment.read (source ++ rest) = some (remark, rest)) : Delimited source := by
  obtain ⟨text, rfl, -⟩ := exists_source_of_readComment h
  exact ⟨.inr rfl, .inr (by simp [List.getLast?_cons])⟩

/-- The front of a loop seems to open one. -/
theorem opensLoop_of_loopHeader {s inner : List Char} (h : loopHeader s = some inner) :
    opensLoop s = true := by
  obtain ⟨s₁, hopen, h⟩ := Option.bind_eq_some_iff.mp h
  obtain ⟨s₂, hblank, -⟩ := Option.bind_eq_some_iff.mp h
  rw [opensLoop, hopen, Option.bind_some, hblank]
  rfl

/-- A body ends where the end of a loop is read, and neither end of a loop is in it. -/
theorem exists_end_of_loopBody {s body rest : List Char} (h : loopBody s = some (body, rest)) :
    ∃ footer, s = body ++ (footer ++ rest) ∧ IsMark footer ∧
      (∀ t, loopEnd (footer ++ t) = some t) ∧
      ∀ before m, body = before ++ m → m ≠ [] → isLoopMark (m ++ (footer ++ rest)) = false := by
  induction s generalizing body with
  | nil => cases h
  | cons c s ih =>
    simp only [loopBody] at h
    split at h
    · next hend =>
      cases h
      obtain ⟨x, hx, hmark, hback⟩ := loopEnd_enclosed.exists_mark hend
      exact ⟨x, hx, hmark, hback, fun before m he hm => absurd (List.append_eq_nil_iff.mp he.symm).2 hm⟩
    · next hend =>
      split at h
      · cases h
      · next hopen =>
        obtain ⟨r, hr, he⟩ := Option.map_eq_some_iff.mp h
        cases he
        obtain ⟨footer, rfl, hmark, hback, hfree⟩ := ih hr
        refine ⟨footer, rfl, hmark, hback, fun before m he hm => ?_⟩
        cases before with
        | cons b before => exact hfree before m (List.cons.inj he).2 hm
        | nil =>
          obtain rfl : c :: r.1 = m := he
          have hheader : loopHeader (c :: (r.1 ++ (footer ++ r.2))) = none := by
            cases hread : loopHeader (c :: (r.1 ++ (footer ++ r.2))) with
            | none => rfl
            | some inner => exact absurd (opensLoop_of_loopHeader hread) hopen
          rw [List.cons_append, isLoopMark, hheader, hend]
          rfl

/-- A loop is read by its front, and by its body behind that. -/
theorem exists_inner_of_readLoop {s : List Char} {l : Loop} (h : loop.read s = some (l, rest)) :
    ∃ inner, loopHeader s = some inner ∧ loopBody inner = some (l.body, rest) := by
  change readLoop s = some (l, rest) at h
  simp only [readLoop, Option.bind_eq_bind] at h
  obtain ⟨s₁, h₁, h⟩ := Option.bind_eq_some_iff.mp h
  obtain ⟨s₂, h₂, h⟩ := Option.bind_eq_some_iff.mp h
  obtain ⟨⟨item, s₃⟩, h₃, h⟩ := Option.bind_eq_some_iff.mp h
  obtain ⟨⟨index, s₄⟩, h₄, h⟩ := Option.bind_eq_some_iff.mp h
  obtain ⟨s₅, h₅, h⟩ := Option.bind_eq_some_iff.mp h
  obtain ⟨s₆, h₆, h⟩ := Option.bind_eq_some_iff.mp h
  obtain ⟨⟨collection, s₇⟩, h₇, h⟩ := Option.bind_eq_some_iff.mp h
  obtain ⟨s₈, h₈, h⟩ := Option.bind_eq_some_iff.mp h
  obtain ⟨⟨body, s₉⟩, hbody, h⟩ := Option.bind_eq_some_iff.mp h
  cases h
  refine ⟨s₈, ?_, hbody⟩
  simp only [loopHeader, Option.bind_eq_bind, h₁, h₂, h₃, h₄, h₅, h₆, h₇, h₈, Option.bind_some]

/-- A loop is its front, its body and its end. -/
theorem exists_marks_of_readLoop {l : Loop} (h : loop.read (source ++ rest) = some (l, rest)) :
    ∃ header footer, source = header ++ (l.body ++ footer) ∧ IsMark header ∧ IsMark footer ∧
      (∀ t, loopHeader (header ++ t) = some t) ∧ (∀ t, loopEnd (footer ++ t) = some t) ∧
      Free isLoopMark l.body := by
  obtain ⟨inner, hinner, hbody⟩ := exists_inner_of_readLoop h
  obtain ⟨header, hs, hheader, hbegin⟩ := loopHeader_enclosed.exists_mark hinner
  obtain ⟨footer, rfl, hfooter, hend, hfree⟩ := exists_end_of_loopBody hbody
  have hsource : source ++ rest = header ++ (l.body ++ footer) ++ rest := by simpa using hs
  refine ⟨header, footer, List.append_cancel_right hsource, hheader, hfooter, hbegin, hend, ?_⟩
  rintro s ⟨before, hs⟩
  by_cases hne : s = []
  · rw [hne, isLoopMark_isLocal.nil]
  · have hseam : Seam s (footer ++ rest) := hfooter.delimited.isSealed.seam_before s rest
    rw [← isLoopMark_isLocal.append hne hseam]
    exact hfree before s hs.symm hne

/-- The front and the end of a loop are marks of loops, whatever follows them. -/
theorem exists_parts_of_readLoop {l : Loop} (h : loop.read (source ++ rest) = some (l, rest)) :
    ∃ header footer, source = header ++ (l.body ++ footer) ∧ IsMark header ∧ IsMark footer ∧
      (∀ t, isLoopMark (header ++ t) = true) ∧ (∀ t, isLoopMark (footer ++ t) = true) ∧
      Free isLoopMark l.body := by
  obtain ⟨header, footer, hsource, hheader, hfooter, hbegin, hend, hfree⟩ := exists_marks_of_readLoop h
  refine ⟨header, footer, hsource, hheader, hfooter, fun t => ?_, fun t => ?_, hfree⟩
  · rw [isLoopMark, hbegin t]
    rfl
  · rw [isLoopMark, hend t, Option.isSome_some, Bool.or_true]

theorem delimited_of_readLoop {l : Loop} (h : loop.read (source ++ rest) = some (l, rest)) :
    Delimited source := by
  obtain ⟨header, footer, rfl, hheader, hfooter, -⟩ := exists_parts_of_readLoop h
  refine ⟨hheader.delimited.head.imp ?_ ?_, hfooter.delimited.last.imp ?_ ?_⟩
  · exact fun h => head?_append_of_eq_some h _
  · exact fun h => head?_append_of_eq_some h _
  · exact fun h => getLast?_append_of_eq_some _ (getLast?_append_of_eq_some _ h)
  · exact fun h => getLast?_append_of_eq_some _ (getLast?_append_of_eq_some _ h)

end Directive

/-! ### What takes their place -/

theorem sealed_tags (k k' : Construct) (s : List Char) : Sealed (k.text ++ s ++ k'.text) := by
  obtain ⟨t, ht⟩ := k.exists_text_eq
  refine ⟨⟨'{', ?_, by decide⟩, ⟨'}', getLast?_append_of_eq_some _ k'.getLast?_text, by decide⟩⟩
  rw [List.append_assoc, ht]
  rfl

theorem sealed_tag (k : Construct) : Sealed k.text := by
  obtain ⟨t, ht⟩ := k.exists_text_eq
  exact ⟨⟨'{', by rw [ht]; rfl, by decide⟩, ⟨'}', k.getLast?_text, by decide⟩⟩

/-- A comment of the markup. -/
theorem sealed_comment (s : List Char) : Sealed ("<!-- ".toList ++ s ++ " -->".toList) :=
  ⟨⟨'<', rfl, by decide⟩, ⟨'>', getLast?_append_of_eq_some _ rfl, by decide⟩⟩

theorem sealed_loop_put {l : Directive.Loop} {source rest : List Char}
    (h : Directive.loop.read (source ++ rest) = some (l, rest)) : Sealed (l.put source) := by
  unfold Directive.Loop.put
  split
  · exact sealed_tags _ _ _
  · exact (Directive.delimited_of_readLoop h).isSealed

theorem sealed_placeholderText (scope : Scope) {name : String} {source rest : List Char}
    (h : Directive.placeholder.read (source ++ rest) = some (name, rest)) :
    Sealed (placeholderText scope name source) := by
  unfold placeholderText
  split
  · exact (Directive.isMark_of_readPlaceholder h).delimited.isSealed
  split
  · exact sealed_comment _
  split
  · exact sealed_comment _
  · exact sealed_tag _

/-! ### Stages -/

section

variable {σ : Type} {K : σ → List Char → σ → Prop} {u v : σ} {text : List Char}

theorem Splices.loopRoundsText (hK : Splices K)
    (hput : ∀ {l source rest}, Directive.loop.read (source ++ rest) = some (l, rest) →
      ∀ {u v}, K u source v → K u (l.put source) v)
    (fuel : Nat) (h : K u text v) : K u (loopRoundsText fuel text) v := by
  induction fuel generalizing text with
  | zero => exact h
  | succ fuel ih =>
    rw [Template.loopRoundsText]
    split
    · exact h
    · exact ih (hK.replace Directive.delimited_of_readLoop sealed_loop_put hput h)

theorem Splices.convertedComments (hK : Splices K)
    (hput : ∀ {remark source rest}, Directive.comment.read (source ++ rest) = some (remark, rest) →
      ∀ {u v}, K u source v → K u (markupComment remark) v)
    (h : K u text v) : K u (convertedComments text) v :=
  hK.replace Directive.delimited_of_readComment (fun _ => sealed_comment _) hput h

theorem Splices.placeholders (hK : Splices K) (scope : Scope)
    (hput : ∀ {name source rest}, Directive.placeholder.read (source ++ rest) = some (name, rest) →
      ∀ {u v}, K u source v → K u (placeholderText scope name source) v)
    (h : K u text v) : K u (Directive.placeholder.replace (placeholderText scope) text) v :=
  hK.replace (fun h => (Directive.isMark_of_readPlaceholder h).delimited)
    (sealed_placeholderText scope) hput h

end

/-! ### Directives that are nowhere -/

section

variable {r : List Char → Bool} {text : List Char}

theorem free_tag (hr : Local r) {k : Construct} (hk : k.IsSound) : Free r k.text :=
  .of_marks hr (marks_tag hk)

theorem free_diagnostic (hr : Local r) {message : String} (h : '<' ∉ message.toList) :
    Free r (diagnostic message) :=
  .of_marks hr (marks_diagnostic h)

/-- The blank and the closing sign that follow a remark complete no directive in it. -/
theorem free_markupComment (hr : Local r) (h : Free r text) : Free r (markupComment text) := by
  have hblank : Free r [' '] := .of_unmarked hr (.of_notMem (by decide) [])
  have hclose : Free r "-->".toList := .of_unmarked hr (.of_notMem (by decide) [])
  have hend : Free r (text ++ [' '] ++ "-->".toList) :=
    (h.append hr (.inl (by decide)) hblank).append hr
      (.inr (.inl ⟨'-', "->".toList, rfl, by decide⟩)) hclose
  have hopen : Unmarked "<!-- ".toList (text ++ [' '] ++ "-->".toList) :=
    .cons (openMark_eq_none_of_head (show some '!' ≠ some ':' by decide)) (.of_notMem (by decide) _)
  have := Free.of_unmarked_append hr hopen hend
  simpa [markupComment_eq] using this

theorem free_loop_put (hr : Local r) {l : Directive.Loop} {source rest : List Char}
    (hread : Directive.loop.read (source ++ rest) = some (l, rest)) (h : Free r source) :
    Free r (l.put source) := by
  unfold Directive.Loop.put
  split
  · next husable =>
    obtain ⟨header, footer, rfl, -, hfooter, -⟩ := Directive.exists_parts_of_readLoop hread
    have hbody : Free r l.body := by
      have hinner : Free r (l.body ++ (footer ++ [])) := by
        simpa using h.of_suffix (List.suffix_append header (l.body ++ footer))
      exact hinner.of_append hr (hfooter.delimited.isSealed.seam_before _ _)
    have hopen := free_tag hr (Directive.Loop.isSound_of_isUsable husable)
    have hclose : Free r Construct.closeLoop.text := free_tag hr trivial
    have htag := sealed_tag (.openLoop l.indexName l.item l.collection)
    refine (hopen.append hr (htag.seam_behind [] _) hbody).append hr ?_ hclose
    simpa using (sealed_tag .closeLoop).seam_before _ []
  · exact h

theorem free_loopRoundsText (hr : Local r) (fuel : Nat) (h : Free r text) :
    Free r (loopRoundsText fuel text) :=
  (splices_free hr).loopRoundsText (fun hread _ _ => free_loop_put hr hread) (u := ()) (v := ()) fuel h

theorem free_convertedComments (hr : Local r) (h : Free r text) :
    Free r (convertedComments text) := by
  refine (splices_free hr).convertedComments (fun hread _ _ hsource => ?_) (u := ()) (v := ()) h
  obtain ⟨inner, rfl, rfl, -⟩ := Directive.exists_source_of_readComment hread
  refine free_markupComment hr ?_
  have hinner : Free r inner := by
    have hbehind := hsource.of_suffix (List.suffix_cons '#' _)
    exact hbehind.of_append hr (Cut.seam (.inr (.inl (.inr rfl))))
  obtain ⟨t, -, -, h, -⟩ := (splices_free hr).trimEnd (u := ()) (v := ()) hinner.skipSpace
  exact h

theorem notMem_of_readPlaceholder {name : String} {source rest : List Char}
    (h : Directive.placeholder.read (source ++ rest) = some (name, rest)) : '<' ∉ name.toList := by
  obtain ⟨t, -, hword⟩ := Directive.exists_source_of_readPlaceholder h
  exact Text.notMem_of_all hword (by decide)

theorem free_placeholderText (hr : Local r) (scope : Scope) {name : String} {source rest : List Char}
    (hread : Directive.placeholder.read (source ++ rest) = some (name, rest))
    (h : name = loopEndKeyword → Free r source) : Free r (placeholderText scope name source) := by
  have hname := notMem_of_readPlaceholder hread
  unfold placeholderText
  split
  · next hkeyword => exact h hkeyword
  split
  · exact free_diagnostic hr (by simp [toString, hname])
  split
  · exact free_diagnostic hr (by simp [toString, hname])
  · next h => exact free_tag hr (k := .show name) (by simpa [Construct.IsSound] using h)

theorem free_placeholders (hr : Local r) (scope : Scope) (h : Free r text) :
    Free r (Directive.placeholder.replace (placeholderText scope) text) :=
  (splices_free hr).placeholders scope
    (fun hread _ _ hsource => free_placeholderText hr scope hread fun _ => hsource)
    (u := ()) (v := ()) h

/-- After the last stage no name is to be shown any more. -/
theorem free_showsName_placeholders (scope : Scope) (text : List Char) :
    Free showsName (Directive.placeholder.replace (placeholderText scope) text) := by
  have hskips {front s : List Char} (hseam : Seam front s) (h : Directive.placeholder.Skips front s) :
      Free showsName front := by
    rintro m ⟨before, rfl⟩
    cases m with
    | nil => rfl
    | cons c m =>
      have hread : Directive.readPlaceholder (c :: m ++ s) = none := h c before m rfl
      have hsuffix : c :: m <:+ before ++ c :: m := List.suffix_append _ _
      rw [← showsName_isLocal.append (List.cons_ne_nil c m) (hseam.of_suffix hsuffix (by simp)),
        showsName, hread]
  refine Recogniser.replace_rec (P := fun _ out => Free showsName out)
    (fun s h => hskips (.inl rfl) h) (fun front source rest name h hread ih => ?_) text
  have hmark := Directive.isMark_of_readPlaceholder hread
  have hnew := sealed_placeholderText scope hread
  have hmine : Free showsName (placeholderText scope name source) := by
    refine free_placeholderText showsName_isLocal scope hread fun hname => ?_
    -- the keyword is left as it is, and is no name to be shown
    refine hmark.free showsName_isLocal ?_
    obtain ⟨x, hx, -, hback⟩ := (Directive.readPlaceholder_enclosed name).exists_mark hread
    obtain rfl := List.append_cancel_right hx
    have hread := hback []
    rw [List.append_nil] at hread
    simp [showsName, hread, hname]
  exact (hskips (hmark.delimited.isSealed.seam_before front rest) h).append showsName_isLocal
    (hnew.seam_before front _) (hmine.append showsName_isLocal (hnew.seam_behind [] _) ih)

end

end Stencil.Template
