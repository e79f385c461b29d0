import Stencil.Proofs.Target.Occurrences
import Stencil.Proofs.Template.StageSplices

/-! How often a tag stands in the texts that stages make. What a stage takes out of a tiled text begins and
ends between tags, so a tag is found as often as before and as often as it stands in what is put in; and a
note in the page, which opens and closes with angles, stays where it is. -/
namespace Stencil.Template

open Target (Begins Construct Tiled loopLead occurrences)
open Text (Piece Recogniser isSpace)

/-! ### Stretches of a tiled text -/

/-- A stretch that is read in a tiled text, what stands in front of it, and what follows. -/
theorem Tiles.parts {α : Type} {p : Recogniser α} {Q : α → Prop} (hp : Tiles p Q)
    {front source rest : List Char} {a : α} (hread : p.read (source ++ rest) = some (a, rest))
    (h : Tiled (front ++ (source ++ rest))) : Tiled front ∧ Tiled source ∧ Tiled rest ∧ Q a := by
  obtain ⟨c, s, hs⟩ := List.exists_cons_of_ne_nil (Recogniser.source_ne_nil hread)
  subst hs
  obtain ⟨hfront, hbehind⟩ := Tiled.cut_before (hp.edge_of_read hread) h
  exact ⟨hfront, hp.split hread hbehind⟩

/-- What the stretches among pieces gain, all together. -/
def gains {α : Type} (g : α → Nat) : List (Piece α) → Nat
  | [] => 0
  | .char _ :: pieces => gains g pieces
  | .mark a _ :: pieces => g a + gains g pieces

section

variable {α : Type} {g : α → Nat}

theorem gains_append (g : α → Nat) (a b : List (Piece α)) :
    gains g (a ++ b) = gains g a + gains g b := by
  induction a with
  | nil => simp [gains]
  | cons piece a ih =>
    cases piece with
    | char c => exact ih
    | mark x source => simp only [List.cons_append, gains, ih, Nat.add_assoc]

theorem gains_chars (g : α → Nat) (s : List Char) : gains g (s.map .char) = 0 := by
  induction s with
  | nil => rfl
  | cons c s ih => exact ih

/-- Pieces gain something if one of them does. -/
theorem gains_pos_iff {pieces : List (Piece α)} :
    0 < gains g pieces ↔ ∃ a source, .mark a source ∈ pieces ∧ 0 < g a := by
  induction pieces with
  | nil => simp [gains]
  | cons piece pieces ih =>
    cases piece with
    | char c => simp [gains, ih]
    | mark a source =>
      rw [gains, Nat.add_pos_iff_pos_or_pos, ih]
      constructor
      · rintro (h | ⟨b, source', hmem, h⟩)
        · exact ⟨a, source, List.mem_cons_self, h⟩
        · exact ⟨b, source', List.mem_cons_of_mem _ hmem, h⟩
      · rintro ⟨b, source', hmem, h⟩
        rcases List.mem_cons.mp hmem with he | hmem
        · cases he
          exact .inl h
        · exact .inr ⟨b, source', hmem, h⟩

theorem gains_eq_zero {pieces : List (Piece α)} (h : ∀ a source, .mark a source ∈ pieces → g a = 0) :
    gains g pieces = 0 := by
  by_contra hne
  obtain ⟨a, source, hmem, hpos⟩ := gains_pos_iff.mp (Nat.pos_of_ne_zero hne)
  exact absurd (h a source hmem) (Nat.ne_of_gt hpos)

/-- Stretches replaced in a tiled text: what begins a tag stands in it as often as before, and as often more as
the texts gain that are put in. -/
theorem occurrences_replace {p : Recogniser α} {Q : α → Prop} {f : α → List Char → List Char}
    {q : List Char} (hq : Begins q) (hp : Tiles p Q)
    (hput : ∀ {source rest a}, p.read (source ++ rest) = some (a, rest) → Tiled source → Q a →
      Tiled (f a source) ∧ occurrences q (f a source) = occurrences q source + g a)
    {s : List Char} (hs : Tiled s) :
    occurrences q (p.replace f s) = occurrences q s + gains g (p.pieces s) := by
  revert hs
  refine Recogniser.replace_rec (P := fun s out => Tiled s →
    occurrences q out = occurrences q s + gains g (p.pieces s))
    (fun s hskips _ => ?_) (fun front source rest a hskips hread ih hs => ?_) s
  · rw [Recogniser.pieces_of_skips hskips, gains_chars, Nat.add_zero]
  obtain ⟨hfront, hmine, hrest, hQ⟩ := hp.parts hread hs
  obtain ⟨hnew, hgain⟩ := hput hread hmine hQ
  rw [Recogniser.pieces_append_of_skips hskips, Recogniser.pieces_append_of_read hread, gains_append,
    gains_chars, gains, hfront.occurrences_append hq, hnew.occurrences_append hq, hgain, ih hrest,
    hfront.occurrences_append hq, hmine.occurrences_append hq]
  omega

/-- What takes the place of a stretch stands in the text that comes of it. -/
theorem infix_replace {p : Recogniser α} {f : α → List Char → List Char} {s source : List Char} {a : α}
    (h : .mark a source ∈ p.pieces s) : f a source <:+: p.replace f s := by
  obtain ⟨before, after, hpieces⟩ := List.append_of_mem h
  rw [Recogniser.replace_eq_flatMap, hpieces, List.flatMap_append, List.flatMap_cons]
  exact ⟨_, _, by rw [List.append_assoc]; rfl⟩

end

/-! ### Tags in the texts of the stages -/

section

variable {q text : List Char}

theorem occurrences_mark {x : List Char} (hq : Begins q) (hx : IsMark x) : occurrences q x = 0 :=
  Target.occurrences_of_notMem hq.mem (hx.notMem (by decide) (by decide) (by decide))

/-- Blanks at the ends of a text hold no tag. -/
theorem occurrences_strip (hq : Begins q) (h : Tiled text) :
    occurrences q (Text.strip text) = occurrences q text := by
  have hblank {b : List Char} (hb : b.all isSpace = true) : '{' ∉ b := Text.notMem_of_all hb (by decide)
  obtain ⟨b, hb, htext⟩ := Text.exists_blanks text
  obtain ⟨t, hinner, ht⟩ := exists_trimEnd (Text.skipSpace text)
  have hfront : occurrences q text = occurrences q (Text.skipSpace text) := by
    conv_lhs => rw [htext]
    rw [(Tiled.of_plain (hblank hb)).occurrences_append hq,
      Target.occurrences_of_notMem hq.mem (hblank hb), Nat.zero_add]
  have hend : occurrences q (Text.skipSpace text) = occurrences q (Text.strip text) := by
    conv_lhs => rw [hinner]
    rw [h.skipSpace.trimEnd.occurrences_append hq, Target.occurrences_of_notMem hq.mem (hblank ht),
      Nat.add_zero]
    rfl
  rw [hfront, hend]

/-- The token of a brace is the only tag of a loaded text. -/
theorem occurrences_protect (hq : Begins q) (hbrace : occurrences q braceToken = 0)
    (source : List Char) : occurrences q (protect source) = 0 := by
  induction source with
  | nil => rfl
  | cons c source ih =>
    by_cases hc : c = '{'
    · subst hc
      have htoken : Tiled braceToken := Tiled.of_tag (k := .brace) trivial
      rw [protect_cons_brace, htoken.occurrences_append hq, hbrace, ih]
    · have hplain : '{' ∉ [c] := by simpa using Ne.symm hc
      rw [protect_cons source hc, ← List.singleton_append, (Tiled.of_plain hplain).occurrences_append hq,
        Target.occurrences_of_notMem hq.mem hplain, ih]

/-- A layout gains its body at every place for content. -/
theorem occurrences_fillLayout (hq : Begins q) {body : List Char} (hbody : Tiled body)
    (h : Tiled text) :
    occurrences q (fillLayout text body) = occurrences q text +
      gains (fun _ => occurrences q body) (Directive.content.pieces text) := by
  refine occurrences_replace hq Directive.content_tiles (fun hread _ _ => ⟨hbody, ?_⟩) h
  rw [occurrences_mark hq (Directive.isMark_of_readContent hread), Nat.zero_add]

/-- A loop that can be converted gains the tags that open and close it. -/
theorem occurrences_loop_put (hq : Begins q) {l : Directive.Loop} {source rest : List Char}
    (hread : Directive.loop.read (source ++ rest) = some (l, rest)) (hbody : Tiled l.body) :
    occurrences q (l.put source) = occurrences q source +
      if l.isUsable then occurrences q (Construct.openLoop l.indexName l.item l.collection).text +
        occurrences q Construct.closeLoop.text
      else 0 := by
  unfold Directive.Loop.put
  split
  · next h =>
    obtain ⟨header, footer, rfl, hheader, hfooter, -⟩ := Directive.exists_parts_of_readLoop hread
    have hplain : Tiled header :=
      Tiled.of_plain (hheader.notMem (by decide) (by decide) (by decide))
    have hopen : Tiled (Construct.openLoop l.indexName l.item l.collection).text :=
      Tiled.of_tag (Directive.Loop.isSound_of_isUsable h)
    rw [Directive.Loop.target, (hopen.append hbody).occurrences_append hq, hopen.occurrences_append hq,
      hplain.occurrences_append hq, hbody.occurrences_append hq, occurrences_mark hq hheader,
      occurrences_mark hq hfooter]
    omega
  · rw [Nat.add_zero]

theorem occurrences_loopRound (hq : Begins q) (h : Tiled text) :
    occurrences q (loopRound text) = occurrences q text +
      gains (fun l : Directive.Loop => if l.isUsable then
        occurrences q (Construct.openLoop l.indexName l.item l.collection).text +
          occurrences q Construct.closeLoop.text
        else 0) (Directive.loop.pieces text) :=
  occurrences_replace hq Directive.loop_tiles (fun {source _ l} hread hs hbody =>
    ⟨tiled_loop_put l source hbody hs, occurrences_loop_put hq hread hbody⟩) h

/-- A round opens as many loops as it converts. -/
theorem occurrences_loopLead_loopRound (h : Tiled text) :
    occurrences loopLead (loopRound text) = occurrences loopLead text +
      gains (fun l : Directive.Loop => if l.isUsable then 1 else 0) (Directive.loop.pieces text) := by
  have hgain (l : Directive.Loop) : (if l.isUsable then
      occurrences loopLead (Construct.openLoop l.indexName l.item l.collection).text +
        occurrences loopLead Construct.closeLoop.text
      else 0) = if l.isUsable then 1 else 0 := by
    by_cases hl : l.isUsable = true
    · have hclose : occurrences loopLead Construct.closeLoop.text = 0 := by decide +kernel
      rw [if_pos hl, if_pos hl, hclose,
        Target.occurrences_loopLead_openLoop (Directive.Loop.isSound_of_isUsable hl)]
    · rw [if_neg hl, if_neg hl]
  rw [occurrences_loopRound Target.begins_loopLead h]
  simp only [hgain]

/-- A round shows no name. -/
theorem occurrences_show_loopRound {n : String} (hn : '}' ∉ n.toList) (h : Tiled text) :
    occurrences (Construct.show n).text (loopRound text) = occurrences (Construct.show n).text text := by
  rw [occurrences_loopRound (Target.begins_show hn) h, gains_eq_zero, Nat.add_zero]
  intro l _ _
  split
  · next hl =>
    have hfew : Construct.closeLoop.text.count '{' < (Construct.show n).text.count '{' :=
      Nat.lt_of_lt_of_le (by decide) (Target.two_le_count_show n)
    rw [Target.occurrences_show_openLoop (Directive.Loop.isSound_of_isUsable hl),
      Target.occurrences_of_count_lt hfew]
  · rfl

/-- Remarks keep the tags in them. -/
theorem occurrences_convertedComments (hq : Begins q) (h : Tiled text) :
    occurrences q (convertedComments text) = occurrences q text := by
  have hplain {s : List Char} (hs : '{' ∉ s) : Tiled s ∧ occurrences q s = 0 :=
    ⟨Tiled.of_plain hs, Target.occurrences_of_notMem hq.mem hs⟩
  have hlead := hplain (s := "<!-- ".toList) (by decide)
  have hend := hplain (s := " -->".toList) (by decide)
  have hsign := hplain (s := ['#']) (by decide)
  have hall := occurrences_replace (g := fun _ => 0) (f := fun remark _ => markupComment remark) hq
    Directive.comment_tiles (fun {source rest remark} hread hs hremark => ?_) h
  · rwa [gains_eq_zero fun _ _ _ => rfl, Nat.add_zero] at hall
  obtain ⟨inner, rfl, rfl, -⟩ := Directive.exists_source_of_readComment hread
  have hinner : Tiled inner :=
    (Tiled.cut (a := inner) (by decide) (Tiled.cut (a := []) (by decide) hs).2).1
  refine ⟨(hlead.1.append hremark).append hend.1, ?_⟩
  rw [markupComment_eq, (hlead.1.append hremark).occurrences_append hq, hlead.1.occurrences_append hq,
    occurrences_strip hq hinner, ← List.singleton_append, hsign.1.occurrences_append hq,
    hinner.occurrences_append hq, hlead.2, hend.2, hsign.2]
  omega

/-- A placeholder gains what takes its place. -/
theorem occurrences_placeholders (hq : Begins q) (scope : Scope) (h : Tiled text) :
    occurrences q (Directive.placeholder.replace (placeholderText scope) text) = occurrences q text +
      gains (fun name => occurrences q (placeholderText scope name []))
        (Directive.placeholder.pieces text) := by
  refine occurrences_replace hq Directive.placeholder_tiles
    (fun {source rest name} hread hs hname => ?_) h
  have hmark := occurrences_mark hq (Directive.isMark_of_readPlaceholder hread)
  refine ⟨tiled_placeholderText scope name source hname hs, ?_⟩
  rw [hmark, Nat.zero_add]
  unfold placeholderText
  split
  · exact hmark
  · rfl

end

/-! ### Notes in the texts of the stages -/

/-- Whether a text is like a note. It begins and ends with no blank, an angle that opens stands at most at its
front and one that closes at its end, so no stretch of a text begins or ends inside of it; and it holds an
exclamation mark, which no mark of a directive does. -/
structure IsNote (p : List Char) : Prop where
  head : ∃ c t, p = c :: t ∧ isSpace c = false ∧ '<' ∉ t
  last : ∃ t c, p = t ++ [c] ∧ isSpace c = false ∧ '>' ∉ t
  unsigned : '#' ∉ p
  exclaims : '!' ∈ p

namespace IsNote

variable {p x y : List Char}

/-- Such a text cannot be cut. -/
theorem not_cut (hp : IsNote (x ++ y)) (hx : x ≠ []) (hy : y ≠ []) : ¬ Cut x y := by
  obtain ⟨c, t, hc, -, hopen⟩ := hp.head
  obtain ⟨u, d, hd, hblank, hclose⟩ := hp.last
  have hbehind : ∀ e ∈ y, e ∈ t := by
    obtain ⟨_, x, rfl⟩ := List.exists_cons_of_ne_nil hx
    obtain ⟨-, rfl⟩ := List.cons.inj hc
    exact fun _ => List.mem_append_right x
  have hbefore : (∀ e ∈ x, e ∈ u) ∧ d ∈ y := by
    obtain ⟨y, d', rfl⟩ := (List.eq_nil_or_concat' y).resolve_left hy
    rw [← List.append_assoc] at hd
    obtain ⟨rfl, hlast⟩ := List.append_inj' hd rfl
    obtain rfl := (List.cons.inj hlast).1
    exact ⟨fun _ => List.mem_append_left y, List.mem_append_right y List.mem_cons_self⟩
  rintro (h | (h | h) | (h | h))
  · rw [List.all_eq_true.mp h d hbefore.2] at hblank
    cases hblank
  · exact hopen (hbehind _ (List.mem_of_mem_head? h))
  · exact hp.unsigned (List.mem_append_right x (List.mem_of_mem_head? h))
  · exact hclose (hbefore.1 _ (List.mem_of_getLast? h))
  · exact hp.unsigned (List.mem_append_left y (List.mem_of_getLast? h))

/-- Where a text can be cut, no such text is cut. -/
theorem infix_of_cut (hp : IsNote p) (hcut : Cut x y) (h : p <:+: x ++ y) : p <:+: x ∨ p <:+: y := by
  rcases List.infix_append_iff_ne_nil.mp h with h | h | ⟨a, b, ha, hb, rfl, hx, hy⟩
  · exact .inl h
  · exact .inr h
  · exact absurd (hcut.narrow ha hb hx hy) (hp.not_cut ha hb)

/-- That such a text stands in another one falls into parts. A state says that it stands in front. -/
theorem splices (hp : IsNote p) : Splices fun (before : Prop) s (behind : Prop) =>
    behind → before ∨ p <:+: s where
  cut {a b x y} hcut h := by
    refine ⟨a ∨ p <:+: x, id, fun hb => ?_⟩
    rcases h hb with h | h
    · exact .inl (.inl h)
    · exact (hp.infix_of_cut hcut h).imp .inr id
  join {a m b x y} _ hx hy hb := by
    rcases hy hb with h | h
    · exact (hx h).imp id fun h => h.trans (List.prefix_append x y).isInfix
    · exact .inr (h.trans (List.suffix_append x y).isInfix)

theorem infix_skipSpace (hp : IsNote p) (h : p <:+: x) : p <:+: Text.skipSpace x := by
  obtain ⟨c, t, rfl, hc, -⟩ := hp.head
  induction x with
  | nil => exact absurd (List.infix_nil.mp h) (by simp)
  | cons d x ih =>
    by_cases hd : isSpace d = true
    · rw [Text.skipSpace_cons_of_space x hd]
      rcases List.infix_cons_iff.mp h with ⟨z, hz⟩ | h
      · rw [(List.cons.inj hz).1, hd] at hc
        cases hc
      · exact ih h
    · rwa [Text.skipSpace_cons_of_not_space x (by simpa using hd)]

theorem infix_strip (hp : IsNote p) (h : p <:+: x) : p <:+: Text.strip x := by
  obtain ⟨t, hinner, ht⟩ := exists_trimEnd (Text.skipSpace x)
  have hall := hp.infix_skipSpace h
  rw [hinner] at hall
  refine (hp.infix_of_cut (.inl ht) hall).resolve_right fun hend => ?_
  obtain ⟨c, r, rfl, hc, -⟩ := hp.head
  rw [List.all_eq_true.mp ht c (hend.subset List.mem_cons_self)] at hc
  cases hc

theorem not_infix_mark (hp : IsNote p) (hx : IsMark x) : ¬ p <:+: x :=
  fun h => hx.notMem (by decide) (by decide) (by decide) (h.subset hp.exclaims)

/-- A note in a loop stands in its body. -/
theorem infix_loop_put (hp : IsNote p) {l : Directive.Loop} {source rest : List Char}
    (hread : Directive.loop.read (source ++ rest) = some (l, rest)) (h : p <:+: source) :
    p <:+: l.put source := by
  unfold Directive.Loop.put
  split
  · obtain ⟨header, footer, rfl, hheader, hfooter, -⟩ := Directive.exists_parts_of_readLoop hread
    have hinner := (hp.infix_of_cut (hheader.delimited.cut_behind _) h).resolve_left
      (hp.not_infix_mark hheader)
    have hend : Cut l.body footer := by simpa using hfooter.delimited.cut_before l.body []
    have hbody := (hp.infix_of_cut hend hinner).resolve_right (hp.not_infix_mark hfooter)
    rw [Directive.Loop.target]
    exact hbody.trans ⟨_, _, rfl⟩
  · exact h

theorem infix_markupComment (hp : IsNote p) {remark source rest : List Char}
    (hread : Directive.comment.read (source ++ rest) = some (remark, rest)) (h : p <:+: source) :
    p <:+: markupComment remark := by
  obtain ⟨inner, rfl, rfl, -⟩ := Directive.exists_source_of_readComment hread
  have hsign : ¬ p <:+: ['#'] := fun h =>
    hp.unsigned ((List.mem_singleton.mp (h.subset hp.exclaims)) ▸ hp.exclaims)
  have hbehind := (hp.infix_of_cut (x := ['#']) (.inr (.inr (.inr rfl))) h).resolve_left hsign
  have hinner := (hp.infix_of_cut (.inr (.inl (.inr rfl))) hbehind).resolve_right hsign
  exact (hp.infix_strip hinner).trans ⟨_, _, rfl⟩

/-! A stage leaves every note where it is. -/

theorem infix_loopRound (hp : IsNote p) (h : p <:+: x) : p <:+: loopRound x :=
  (hp.splices.replace Directive.delimited_of_readLoop sealed_loop_put
    (fun hread _ _ hs hv => (hs hv).imp id (hp.infix_loop_put hread)) (u := False) (v := True)
    (fun _ => .inr h) trivial).resolve_left id

theorem infix_convertedComments (hp : IsNote p) (h : p <:+: x) : p <:+: convertedComments x :=
  (hp.splices.convertedComments (fun hread _ _ hs hv => (hs hv).imp id (hp.infix_markupComment hread))
    (u := False) (v := True) (fun _ => .inr h) trivial).resolve_left id

theorem infix_placeholders (hp : IsNote p) (scope : Scope) (h : p <:+: x) :
    p <:+: Directive.placeholder.replace (placeholderText scope) x := by
  refine (hp.splices.placeholders scope (fun hread _ _ hs hv => ?_)
    (u := False) (v := True) (fun _ => .inr h) trivial).resolve_left id
  have hmark := Directive.isMark_of_readPlaceholder hread
  exact .inl ((hs hv).resolve_right (hp.not_infix_mark hmark))

end IsNote

theorem isNote_diagnostic {message : String} (hopen : '<' ∉ message.toList)
    (hclose : '>' ∉ message.toList) (hsign : '#' ∉ message.toList) : IsNote (diagnostic message) where
  head := ⟨'<', "!-- ".toList ++ message.toList ++ " -->".toList, rfl, by decide,
    List.not_mem_append (List.not_mem_append (by decide) hopen) (by decide)⟩
  last := ⟨"<!-- ".toList ++ message.toList ++ " --".toList, '>', by simp [diagnostic_eq], by decide,
    List.not_mem_append (List.not_mem_append (by decide) hclose) (by decide)⟩
  unsigned := List.not_mem_append (List.not_mem_append (by decide) hsign) (by decide)
  exclaims := by simp [diagnostic_eq]

end Stencil.Template
