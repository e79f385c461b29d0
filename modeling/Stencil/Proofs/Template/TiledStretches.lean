import Stencil.Proofs.Target.Tiling
import Stencil.Template.Directive.Comment
import Stencil.Template.Directive.Component
import Stencil.Template.Directive.Layout
import Stencil.Template.Directive.Loop
import Stencil.Template.Directive.Mark

/-! The stretches that directives and remarks take out of a tiled text. Each begins at an edge and ends
behind one, unless it takes in all of the text; so the stretch, the rest, and what a loop or a remark holds
are tiled again. -/
namespace Stencil.Template

open Target (Tiled isEdge)
open Text (Recogniser Piece)

/-- Stretches begin at an edge and leave whole tags. In a tiled text their meanings have the property `Q`. -/
structure Tiles {α : Type} (p : Recogniser α) (Q : α → Prop) : Prop where
  edge_of_read : ∀ {c s a rest}, p.read (c :: s) = some (a, rest) → isEdge c = true
  split : ∀ {source rest a}, p.read (source ++ rest) = some (a, rest) → Tiled (source ++ rest) →
    Tiled source ∧ Tiled rest ∧ Q a

/-- Pieces of a tiled text. `front` are the characters before them that are in no stretch. -/
def TiledPieces {α : Type} (Q : α → Prop) : (front : List Char) → List (Piece α) → Prop
  | front, [] => Tiled front
  | front, .char c :: pieces => TiledPieces Q (front ++ [c]) pieces
  | front, .mark a source :: pieces =>
    Tiled front ∧ Tiled source ∧ Q a ∧ TiledPieces Q [] pieces

variable {α : Type} {p : Recogniser α} {Q : α → Prop}

theorem Tiles.pieces (hp : Tiles p Q) {front s : List Char} (hs : Tiled (front ++ s)) :
    TiledPieces Q front (p.pieces s) := by
  fun_induction Recogniser.pieces p s generalizing front with
  | case1 => simpa [TiledPieces] using hs
  | case2 c s a rest h _ ih =>
    have hedge := hp.edge_of_read h
    have hfront := (Tiled.cut hedge hs).1
    have htext : Tiled (c :: s) := (Tiled.cut_before hedge hs).2
    obtain ⟨source, hsource⟩ := Recogniser.exists_source h
    rw [hsource] at h htext ⊢
    obtain ⟨hmine, hrest, hQ⟩ := hp.split h htext
    rw [Recogniser.take_source]
    exact ⟨hfront, hmine, hQ, ih (by simpa using hrest)⟩
  | case3 c s h ih => exact ih (by simpa using hs)

theorem TiledPieces.flatMap_put {f : α → List Char → List Char}
    (hf : ∀ a source, Q a → Tiled source → Tiled (f a source)) {front : List Char}
    {pieces : List (Piece α)} (h : TiledPieces Q front pieces) :
    Tiled (front ++ pieces.flatMap (Piece.put f)) := by
  induction pieces generalizing front with
  | nil => simpa [TiledPieces] using h
  | cons piece pieces ih =>
    cases piece with
    | char c =>
      have := ih h
      simpa [Piece.put] using this
    | mark a source =>
      obtain ⟨hfront, hsource, hQ, hrest⟩ := h
      have hrest := ih hrest
      exact hfront.append ((hf a source hQ hsource).append hrest)

/-- Stretches of a tiled text that are replaced by tiled texts leave a tiled text. -/
theorem Tiles.replace (hp : Tiles p Q) {f : α → List Char → List Char}
    (hf : ∀ a source, Q a → Tiled source → Tiled (f a source)) {s : List Char} (hs : Tiled s) :
    Tiled (p.replace f s) := by
  have := (hp.pieces (show Tiled ([] ++ s) from hs)).flatMap_put hf
  simpa [Recogniser.replace_eq_flatMap] using this

/-! ### Where stretches begin and end -/

/-- A rest that an edge of the text stands in front of. -/
def BehindEdge (s rest : List Char) : Prop :=
  ∃ front c, isEdge c = true ∧ s = front ++ c :: rest

theorem BehindEdge.of_suffix {s t rest : List Char} (hst : t <:+ s) (h : BehindEdge t rest) :
    BehindEdge s rest := by
  obtain ⟨before, rfl⟩ := hst
  obtain ⟨front, c, hc, rfl⟩ := h
  exact ⟨before ++ front, c, hc, by simp⟩

theorem BehindEdge.tiled {s rest : List Char} (h : BehindEdge s rest) (hs : Tiled s) :
    Tiled rest := by
  obtain ⟨front, c, hc, rfl⟩ := h
  exact (Tiled.cut hc hs).2

theorem BehindEdge.split {source rest : List Char} (h : BehindEdge (source ++ rest) rest)
    (hs : Tiled (source ++ rest)) : Tiled source ∧ Tiled rest := by
  obtain ⟨front, c, hc, he⟩ := h
  have hsource : source = front ++ [c] := by
    have : source ++ rest = (front ++ [c]) ++ rest := by rw [he]; simp
    exact List.append_cancel_right this
  rw [he] at hs
  rw [hsource]
  exact Tiled.cut_after hc hs

namespace Directive

theorem edge_of_openMark {c : Char} {s rest : List Char} (h : openMark (c :: s) = some rest) :
    isEdge c = true := by
  obtain ⟨r, hr, _⟩ := Option.map_eq_some_iff.mp h
  have := Text.expect_eq_some hr
  rw [(List.cons.inj this).1]
  decide

theorem edge_of_openKeyword {keyword : List Char} {c : Char} {s rest : List Char}
    (h : openKeyword keyword (c :: s) = some rest) : isEdge c = true := by
  obtain ⟨r, hr, _⟩ := Option.bind_eq_some_iff.mp h
  exact edge_of_openMark hr

theorem behindEdge_of_closeMark {s rest : List Char} (h : closeMark s = some rest) :
    BehindEdge s rest := by
  have hmark : Text.skipSpace s = [':', '>'] ++ rest := Text.expect_eq_some h
  exact .of_suffix (Text.skipSpace_suffix s) ⟨[':'], '>', by decide, hmark⟩

/-! ### Placeholders -/

theorem exists_word_of_readPlaceholder {s rest : List Char} {name : String}
    (h : readPlaceholder s = some (name, rest)) :
    BehindEdge s rest ∧ name.toList.all Unicode.isWord = true := by
  simp only [readPlaceholder, Option.bind_eq_bind] at h
  obtain ⟨s₁, hopen, h⟩ := Option.bind_eq_some_iff.mp h
  obtain ⟨⟨w, s₂⟩, hword, h⟩ := Option.bind_eq_some_iff.mp h
  obtain ⟨s₃, hclose, h⟩ := Option.bind_eq_some_iff.mp h
  cases h
  have hsuffix := (Text.takeWord_suffix hword).trans (openMark_suffix hopen).1
  exact ⟨(behindEdge_of_closeMark hclose).of_suffix hsuffix,
    by simpa using (Text.takeWord_eq_some hword).2.2⟩

theorem placeholder_tiles : Tiles placeholder fun name => '{' ∉ name.toList where
  edge_of_read h := by
    obtain ⟨_, hopen, _⟩ := Option.bind_eq_some_iff.mp h
    exact edge_of_openMark hopen
  split {source rest name} h hs := by
    obtain ⟨hedge, hword⟩ := exists_word_of_readPlaceholder h
    obtain ⟨hsource, hrest⟩ := hedge.split hs
    exact ⟨hsource, hrest, Text.notMem_of_all hword (by decide)⟩

/-! ### Loops -/

theorem loopEnd_behindEdge {s rest : List Char} (h : loopEnd s = some rest) :
    BehindEdge s rest := by
  obtain ⟨s₁, hopen, hclose⟩ := Option.bind_eq_some_iff.mp h
  exact (behindEdge_of_closeMark hclose).of_suffix (openKeyword_suffix hopen).1

/-- A body ends in front of an edge. -/
theorem loopBody_eq_some {s body rest : List Char} (h : loopBody s = some (body, rest)) :
    ∃ c mark, isEdge c = true ∧ s = body ++ c :: mark ∧ BehindEdge (c :: mark) rest := by
  induction s generalizing body with
  | nil => cases h
  | cons c s ih =>
    simp only [loopBody] at h
    split at h
    · next hend =>
      cases h
      obtain ⟨r, hopen, _⟩ := Option.bind_eq_some_iff.mp hend
      exact ⟨c, s, edge_of_openKeyword hopen, rfl, loopEnd_behindEdge hend⟩
    · split at h
      · cases h
      · obtain ⟨r, hr, he⟩ := Option.map_eq_some_iff.mp h
        cases he
        obtain ⟨d, mark, hd, rfl, hedge⟩ := ih hr
        exact ⟨d, mark, hd, rfl, hedge⟩

/-- A loop has its body behind an edge and in front of one, and ends behind one. -/
theorem exists_body_of_readLoop {s rest : List Char} {l : Loop} (h : readLoop s = some (l, rest)) :
    ∃ c mark, isEdge c = true ∧ BehindEdge s (l.body ++ c :: mark) ∧ BehindEdge s rest := by
  simp only [readLoop, Option.bind_eq_bind] at h
  obtain ⟨s₁, h₁, h⟩ := Option.bind_eq_some_iff.mp h
  obtain ⟨s₂, h₂, h⟩ := Option.bind_eq_some_iff.mp h
  obtain ⟨⟨_, s₃⟩, h₃, h⟩ := Option.bind_eq_some_iff.mp h
  obtain ⟨⟨_, s₄⟩, h₄, h⟩ := Option.bind_eq_some_iff.mp h
  obtain ⟨s₅, h₅, h⟩ := Option.bind_eq_some_iff.mp h
  obtain ⟨s₆, h₆, h⟩ := Option.bind_eq_some_iff.mp h
  obtain ⟨⟨_, s₇⟩, h₇, h⟩ := Option.bind_eq_some_iff.mp h
  obtain ⟨s₈, hclose, h⟩ := Option.bind_eq_some_iff.mp h
  obtain ⟨⟨body, s₉⟩, hbody, h⟩ := Option.bind_eq_some_iff.mp h
  cases h
  have hsuffix : s₇ <:+ s :=
    (Text.takeWord_suffix h₇).trans <| (Text.needSpace_suffix h₆).1.trans <|
      (Text.expect_suffix h₅).trans <| (loopIndex_suffix h₄).trans <|
      (Text.takeWord_suffix h₃).trans <| (Text.needSpace_suffix h₂).1.trans
      (openKeyword_suffix h₁).1
  obtain ⟨c, mark, hc, rfl, hedge⟩ := loopBody_eq_some hbody
  exact ⟨c, mark, hc, (behindEdge_of_closeMark hclose).of_suffix hsuffix,
    (hedge.of_suffix (List.suffix_append _ _)).of_suffix ((closeMark_suffix hclose).trans hsuffix)⟩

theorem loop_tiles : Tiles loop fun l => Tiled l.body where
  edge_of_read h := by
    obtain ⟨_, hopen, _⟩ := Option.bind_eq_some_iff.mp h
    exact edge_of_openKeyword hopen
  split {source rest l} h hs := by
    obtain ⟨c, mark, hc, hheader, hend⟩ := exists_body_of_readLoop h
    obtain ⟨hsource, hrest⟩ := hend.split hs
    exact ⟨hsource, hrest, (Tiled.cut hc (hheader.tiled hs)).1⟩

/-! ### Remarks -/

theorem splitSign_eq_some {s text rest : List Char} (h : splitSign s = some (text, rest)) :
    s = text ++ '#' :: rest := by
  induction s generalizing text with
  | nil => cases h
  | cons c s ih =>
    simp only [splitSign] at h
    split at h
    · next hc => cases h; rw [hc]; rfl
    · obtain ⟨r, hr, he⟩ := Option.map_eq_some_iff.mp h
      cases he
      rw [ih hr]
      rfl

/-- A remark stands between two signs. -/
theorem exists_inner_of_readComment {s rest remark : List Char}
    (h : readComment s = some (remark, rest)) :
    ∃ inner, s = '#' :: (inner ++ '#' :: rest) ∧ remark = Text.strip inner := by
  unfold readComment at h
  split at h
  · obtain ⟨⟨inner, r⟩, hr, he⟩ := Option.map_eq_some_iff.mp h
    cases he
    exact ⟨inner, congrArg ('#' :: ·) (splitSign_eq_some hr), rfl⟩
  · cases h

theorem behindEdge_of_readComment {s rest remark : List Char}
    (h : readComment s = some (remark, rest)) : BehindEdge s rest := by
  obtain ⟨inner, rfl, -⟩ := exists_inner_of_readComment h
  exact ⟨'#' :: inner, '#', by decide, rfl⟩

theorem comment_tiles : Tiles comment Tiled where
  edge_of_read h := by
    obtain ⟨inner, hs, -⟩ := exists_inner_of_readComment h
    rw [(List.cons.inj hs).1]
    decide
  split {source rest text} h hs := by
    obtain ⟨hsource, hrest⟩ := (behindEdge_of_readComment h).split hs
    obtain ⟨inner, he, rfl⟩ := exists_inner_of_readComment h
    rw [he] at hs
    have hinner := (Tiled.cut (a := []) (by decide) hs).2
    exact ⟨hsource, hrest, (Tiled.cut (by decide) hinner).1.strip⟩

/-! ### Uses of components -/

theorem splitEnd_eq_some {quote : Option Char} {s inner rest : List Char}
    (h : splitEnd quote s = some (inner, rest)) : s = inner ++ '>' :: rest := by
  induction s generalizing quote inner with
  | nil => cases h
  | cons c s ih =>
    simp only [splitEnd] at h
    split at h
    · next hc => cases h; rw [hc.2]; rfl
    · obtain ⟨r, hr, he⟩ := Option.map_eq_some_iff.mp h
      cases he
      rw [ih hr]
      rfl

/-- Only a quote is ever open. -/
theorem isQuote_quoteAfter {quote : Option Char} (hquote : ∀ q ∈ quote, isQuote q = true) (c : Char) :
    ∀ q ∈ quoteAfter quote c, isQuote q = true := by
  intro q hq
  cases quote with
  | none =>
    rw [quoteAfter] at hq
    split at hq
    · next hc =>
      cases hq
      exact hc
    · cases hq
  | some open' =>
    rw [quoteAfter] at hq
    split at hq
    · cases hq
    · exact hquote q hq

theorem openKeyword_of_componentOpener {s rest : List Char} (h : componentOpener s = some rest) :
    openKeyword "component".toList s = some rest := by
  unfold componentOpener at h
  split at h
  · next hopen =>
    split at h
    · cases h
    · cases h
      exact hopen
  · exact h

theorem all_isNameChar_takeName {s w rest : List Char} (h : takeName s = some (w, rest)) :
    w.all isNameChar = true := by
  unfold takeName at h
  split at h
  · cases h
  · cases h
    exact List.all_takeWhile

/-- The name in a use of a component is made of the characters of names. -/
theorem all_isNameChar_readHead {inner : List Char} {use : ComponentUse}
    (h : readHead inner = some use) : use.name.toList.all isNameChar = true := by
  obtain ⟨s, _, h⟩ := Option.bind_eq_some_iff.mp h
  obtain ⟨⟨name, s'⟩, hname, h⟩ := Option.bind_eq_some_iff.mp h
  have hall := all_isNameChar_takeName hname
  dsimp only at h
  split at h
  · cases h
    simpa using hall
  · obtain ⟨_, _, he⟩ := Option.map_eq_some_iff.mp h
    cases he
    simpa using hall

/-- A use of a component that has an end has a name of the characters of names. -/
theorem behindEdge_of_readComponent {s rest : List Char} {use : Option ComponentUse}
    (h : readComponent s = some (use, rest)) :
    (use = none ∧ rest = []) ∨
      BehindEdge s rest ∧ ∀ u, use = some u → u.name.toList.all isNameChar = true := by
  unfold readComponent at h
  split at h
  · cases h
  · next s hopen =>
    split at h
    · cases h
      exact .inl ⟨rfl, rfl⟩
    · next inner after hend =>
      cases h
      have hedge : BehindEdge s rest := ⟨inner, '>', by decide, splitEnd_eq_some hend⟩
      exact .inr ⟨hedge.of_suffix (componentOpener_suffix hopen).1, fun u => all_isNameChar_readHead⟩

theorem component_tiles :
    Tiles component fun use => ∀ u, use = some u → '{' ∉ u.name.toList where
  edge_of_read {c s a rest} h := by
    change readComponent (c :: s) = some (a, rest) at h
    unfold readComponent at h
    split at h
    · cases h
    · next hopen => exact edge_of_openKeyword (openKeyword_of_componentOpener hopen)
  split {source rest use} h hs := by
    rcases behindEdge_of_readComponent h with ⟨rfl, rfl⟩ | ⟨hedge, hname⟩
    · exact ⟨by simpa using hs, .nil, fun u hu => by cases hu⟩
    · obtain ⟨hsource, hrest⟩ := hedge.split hs
      exact ⟨hsource, hrest, fun u hu => Text.notMem_of_all (hname u hu) (by decide)⟩

/-! ### Layouts -/

theorem behindEdge_of_readContent {s rest : List Char} {a : Unit}
    (h : readContent s = some (a, rest)) : BehindEdge s rest := by
  simp only [readContent, Option.bind_eq_bind] at h
  obtain ⟨s₁, hopen, h⟩ := Option.bind_eq_some_iff.mp h
  obtain ⟨s₂, hclose, h⟩ := Option.bind_eq_some_iff.mp h
  cases h
  exact (behindEdge_of_closeMark hclose).of_suffix (openKeyword_suffix hopen).1

theorem content_tiles : Tiles content fun _ => True where
  edge_of_read h := by
    obtain ⟨_, hopen, _⟩ := Option.bind_eq_some_iff.mp h
    exact edge_of_openKeyword hopen
  split h hs := by
    obtain ⟨hsource, hrest⟩ := (behindEdge_of_readContent h).split hs
    exact ⟨hsource, hrest, trivial⟩

theorem behindEdge_of_readLayout {s rest : List Char} {name : String}
    (h : readLayout s = some (name, rest)) : BehindEdge s rest := by
  simp only [readLayout, Option.bind_eq_bind] at h
  obtain ⟨s₁, hopen, h⟩ := Option.bind_eq_some_iff.mp h
  obtain ⟨⟨_, s₂⟩, hquote, h⟩ := Option.bind_eq_some_iff.mp h
  obtain ⟨⟨_, s₃⟩, hname, h⟩ := Option.bind_eq_some_iff.mp h
  obtain ⟨s₄, hexpect, h⟩ := Option.bind_eq_some_iff.mp h
  obtain ⟨s₅, hclose, h⟩ := Option.bind_eq_some_iff.mp h
  cases h
  have hsuffix : s₄ <:+ s :=
    (Text.expect_suffix hexpect).trans <| (takeName_suffix hname).trans <|
      (takeQuote_suffix hquote).trans <| (Text.skipSpace_suffix s₁).trans
      (openKeyword_suffix hopen).1
  exact (behindEdge_of_closeMark hclose).of_suffix hsuffix

theorem layout_tiles : Tiles layout fun _ => True where
  edge_of_read h := by
    obtain ⟨_, hopen, _⟩ := Option.bind_eq_some_iff.mp h
    exact edge_of_openKeyword hopen
  split h hs := by
    obtain ⟨hsource, hrest⟩ := (behindEdge_of_readLayout h).split hs
    exact ⟨hsource, hrest, trivial⟩

end Directive

/-- A search in a tiled text leaves tiled texts on both sides of what it finds. -/
theorem Tiles.search (hp : Tiles p Q) {s lead rest : List Char} {a : α}
    (h : p.search s = some (lead, a, rest)) (hs : Tiled s) : Tiled lead ∧ Tiled rest := by
  suffices ∃ c t, isEdge c = true ∧ s = lead ++ c :: t ∧ p.read (c :: t) = some (a, rest) by
    obtain ⟨c, t, hc, rfl, hread⟩ := this
    obtain ⟨hlead, hmark⟩ := Tiled.cut_before hc hs
    obtain ⟨source, hsource⟩ := Recogniser.exists_source hread
    rw [hsource] at hread hmark
    exact ⟨hlead, (hp.split hread hmark).2.1⟩
  clear hs
  induction s generalizing lead with
  | nil => cases h
  | cons c s ih =>
    rw [Recogniser.search] at h
    split at h
    · next hread =>
      cases h
      exact ⟨c, s, hp.edge_of_read hread, rfl, hread⟩
    · obtain ⟨⟨before, found⟩, hfound, he⟩ := Option.map_eq_some_iff.mp h
      cases he
      obtain ⟨d, t, hd, rfl, hread⟩ := ih hfound
      exact ⟨d, t, hd, rfl, hread⟩

end Stencil.Template
