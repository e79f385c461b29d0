import Mathlib.Algebra.GroupWithZero.Nat
import Stencil.Proofs.Target.Literals
import Stencil.Proofs.Template.Places
import Stencil.Proofs.Template.TreeRounds
import Stencil.Proofs.Template.TruthfulReport

/-! Rounds over the loops of any text. Every loop that is converted uses up its opener, and no text that is put
in has one, so there are no more rounds than openers and one. What the report counts and what the scope
knows behind them are the tags that were put in and their names, and what is left to be read as a loop has
names of no use. -/
namespace Stencil.Template

open Directive (loopEnd opensLoop)
open Target (Construct loopLead occurrences)
open Text (Piece Recogniser isSpace)

/-! ### Openers -/

namespace Directive

variable {source rest : List Char}

/-- An opener is an opening mark, blanks, and a keyword with a blank behind it. -/
theorem opensLoop_iff {s : List Char} :
    opensLoop s = true ↔ ∃ b c rest, s = '<' :: ':' :: (b ++ ("for".toList ++ c :: rest)) ∧
      b.all isSpace = true ∧ isSpace c = true := by
  have hkeyword (rest : List Char) : openKeyword "for".toList s = some rest ↔
      ∃ b, s = '<' :: ':' :: (b ++ ("for".toList ++ rest)) ∧ b.all isSpace = true :=
    openKeyword_eq_some_iff (by decide)
  unfold opensLoop
  rw [Option.isSome_iff_exists]
  constructor
  · rintro ⟨_, h⟩
    obtain ⟨after, hopen, hblank⟩ := Option.bind_eq_some_iff.mp h
    obtain ⟨b, hs, hb⟩ := (hkeyword after).mp hopen
    cases after with
    | nil => cases hblank
    | cons c after =>
      refine ⟨b, c, after, hs, hb, ?_⟩
      by_contra hc
      rw [Text.needSpace, if_neg hc] at hblank
      cases hblank
  · rintro ⟨b, c, rest, hs, hb, hc⟩
    refine ⟨Text.skipSpace rest, ?_⟩
    rw [(hkeyword _).mpr ⟨b, hs, hb⟩, Option.bind_some, Text.needSpace, if_pos hc]

theorem head?_of_opensLoop (s : List Char) (h : opensLoop s = true) : s.head? = some '<' := by
  obtain ⟨b, c, rest, rfl, -⟩ := opensLoop_iff.mp h
  rfl

/-- The end of a loop opens none. -/
theorem opensLoop_of_loopEnd {s rest : List Char} (h : loopEnd s = some rest) : opensLoop s = false := by
  obtain ⟨after, hopen, -⟩ := Option.bind_eq_some_iff.mp h
  obtain ⟨mid, hmark, hend⟩ := Option.bind_eq_some_iff.mp hopen
  obtain rfl := Text.expect_eq_some hend
  rw [opensLoop, openKeyword, hmark]
  rfl

end Directive

theorem isWord_opener {b : List Char} {c : Char} (hb : b.all isSpace = true) (hc : isSpace c = true) :
    IsWord ('<' :: ':' :: (b ++ ("for".toList ++ [c]))) := by
  have hblank {d : Char} (hd : isSpace d = true) : isOpening d = false ∧ isClosing d = false :=
    isOpening_isClosing_of (by decide) hd
  have hword : IsWord ('<' :: ((':' :: (b ++ "for".toList)) ++ [c])) := by
    refine isWord_of_inner rfl (hblank hc).1 fun d hd => ?_
    rcases List.mem_cons.mp hd with rfl | hd
    · decide
    rcases List.mem_append.mp hd with hd | hd
    · exact hblank (List.all_eq_true.mp hb d hd)
    · exact isOpening_isClosing_of_all (w := "for".toList) (by decide) d hd
  simpa using hword

theorem opensLoop_walled : Walled opensLoop := by
  refine walled_of_words (W := fun w => ∃ b c, w = '<' :: ':' :: (b ++ ("for".toList ++ [c])) ∧
    b.all isSpace = true ∧ isSpace c = true) (fun s => ?_) ?_
  · rw [Directive.opensLoop_iff]
    constructor
    · rintro ⟨b, c, rest, rfl, hb, hc⟩
      exact ⟨_, rest, by simp, b, c, rfl, hb, hc⟩
    · rintro ⟨_, rest, rfl, b, c, rfl, hb, hc⟩
      exact ⟨b, c, rest, by simp, hb, hc⟩
  · rintro _ ⟨b, c, rfl, hb, hc⟩
    exact isWord_opener hb hc

/-- How often loops seem to open in a text. -/
def loopOpeners (text : List Char) : Nat := places opensLoop text

/-! ### Tags that open loops -/

/-- The tag of a loop. -/
def Directive.Loop.tag (l : Directive.Loop) : Construct := .openLoop l.indexName l.item l.collection

section

variable {index item collection : String}

theorem isOpening_isClosing_of_mem_name {n : String} (hn : isRenderable n = true) :
    ∀ c ∈ n.toList, isOpening c = false ∧ isClosing c = false := by
  intro c hc
  refine isOpening_isClosing_of (p := (n.toList.contains ·)) (List.any_eq_false.mpr fun d hd => ?_)
    (List.contains_iff_mem.mpr hc)
  have hnot : d ∉ n.toList := by
    simp only [List.mem_cons, List.not_mem_nil, or_false] at hd
    rcases hd with rfl | rfl | rfl | rfl <;> exact Target.notMem_name (by decide) (by decide) hn
  simpa using hnot

theorem isWord_loopLead : IsWord loopLead :=
  isWord_of_inner (m := ['%', ' ', 'f', 'o']) rfl rfl (isOpening_isClosing_of_all rfl)

/-- In a tag that opens a loop the only braces are its ends. -/
theorem isWord_openLoop (h : (Construct.openLoop index item collection).IsSound) :
    IsWord (Construct.openLoop index item collection).text := by
  have hword : IsWord ('\x7b' :: (("% for ".toList ++ index.toList ++ ", ".toList ++ item.toList ++
      " in ".toList ++ collection.toList ++ "|entries %".toList) ++ ['\x7d'])) := by
    refine isWord_of_inner rfl rfl ?_
    simp only [List.forall_mem_append]
    have hfixed {w : List Char} := isOpening_isClosing_of_all (w := w)
    exact ⟨⟨⟨⟨⟨⟨hfixed (by decide), isOpening_isClosing_of_mem_name h.1⟩, hfixed (by decide)⟩,
      isOpening_isClosing_of_mem_name h.2.1⟩, hfixed (by decide)⟩,
      isOpening_isClosing_of_mem_name h.2.2⟩, hfixed (by decide)⟩
  rw [Construct.text_openLoop]
  simpa using hword

/-- A text that begins with this tag is this tag, if it is one of a loop at all. -/
theorem openLoop_prefix_iff {index' item' collection' : String}
    (h : (Construct.openLoop index item collection).IsSound)
    (h' : (Construct.openLoop index' item' collection').IsSound) :
    (Construct.openLoop index item collection).text <+:
        (Construct.openLoop index' item' collection').text ↔
      Construct.openLoop index item collection = .openLoop index' item' collection' := by
  refine ⟨fun ⟨z, hz⟩ => ?_, fun he => he ▸ List.prefix_rfl⟩
  have hreads {i x c : String} (hs : (Construct.openLoop i x c).IsSound) (t : List Char) :
      Construct.read ((Construct.openLoop i x c).text ++ t) = some (.openLoop i x c, t) :=
    Target.read_openLoop hs.1 hs.2.1 hs.2.2 t
  have hwhole := hreads h' []
  rw [List.append_nil, ← hz, hreads h z] at hwhole
  exact (Prod.mk.inj (Option.some.inj hwhole)).1

/-- What begins a loop stands in the tag of one at its front or nowhere. -/
theorem occurrences_openLoop {p : List Char} (hp : '\x7b' ∈ p)
    (h : (Construct.openLoop index item collection).IsSound) :
    occurrences p (Construct.openLoop index item collection).text =
      if p <+: (Construct.openLoop index item collection).text then 1 else 0 := by
  obtain ⟨s, hs, hbrace⟩ := Target.exists_text_openLoop h
  have hrest : '\x7b' ∉ ['%', ' ', 'f', 'o', 'r'] ++ s := List.not_mem_append (by decide) hbrace
  rw [hs]
  change occurrences p ('\x7b' :: (['%', ' ', 'f', 'o', 'r'] ++ s)) = _
  rw [Target.occurrences, Target.occurrences_of_notMem hp hrest, Nat.add_zero]
  simp only [List.isPrefixOf_iff_prefix]
  rfl

end

/-! ### One round -/

/-- The loops among pieces that are converted, from left to right. -/
def convertible : List (Piece Directive.Loop) → List Directive.Loop
  | [] => []
  | .char _ :: pieces => convertible pieces
  | .mark l _ :: pieces => if l.isUsable then l :: convertible pieces else convertible pieces

/-- The names that loops bind. -/
def boundBy (loops : List Directive.Loop) : List String := loops.flatMap fun l => [l.item, l.indexName]

section

variable {pieces : List (Piece Directive.Loop)} {text : List Char} {l : Directive.Loop}

theorem isUsable_of_mem_convertible (h : l ∈ convertible pieces) : l.isUsable = true := by
  fun_induction convertible pieces with
  | case1 => cases h
  | case2 c pieces ih => exact ih h
  | case3 m source pieces hm ih =>
    rcases List.mem_cons.mp h with rfl | h
    · exact hm
    · exact ih h
  | case4 m source pieces hm ih => exact ih h

theorem mem_convertible {source : List Char} (h : .mark l source ∈ pieces) (hl : l.isUsable = true) :
    l ∈ convertible pieces := by
  fun_induction convertible pieces with
  | case1 => cases h
  | case2 c pieces ih => exact ih (by simpa using h)
  | case3 m source' pieces hm ih =>
    rcases List.mem_cons.mp h with he | h
    · cases he
      exact List.mem_cons_self
    · exact List.mem_cons_of_mem m (ih h)
  | case4 m source' pieces hm ih =>
    rcases List.mem_cons.mp h with he | h
    · cases he
      exact absurd hl hm
    · exact ih h

theorem gains_convertible (g : Directive.Loop → Nat) (pieces : List (Piece Directive.Loop)) :
    gains (fun l => if l.isUsable then g l else 0) pieces = ((convertible pieces).map g).sum := by
  fun_induction convertible pieces with
  | case1 => rfl
  | case2 c pieces ih => exact ih
  | case3 m source pieces hm ih => rw [gains, if_pos hm, ih, List.map_cons, List.sum_cons]
  | case4 m source pieces hm ih => rw [gains, if_neg hm, ih, Nat.zero_add]

/-- A mark counts itself or nothing, for a test for what begins with an angle. -/
theorem places_mark {r : List Char → Bool} (hr : ∀ s, r s = true → s.head? = some '<') {x : List Char}
    (h : IsMark x) : places r x = if r x then 1 else 0 := by
  obtain ⟨m, rfl, hm⟩ := h
  have hrest : '<' ∉ m ++ ['>'] := List.not_mem_append (Text.notMem_of_all hm (by decide)) (by decide)
  rw [places, places_of_notMem hr hrest, Nat.add_zero]

/-- A loop and what takes its place are stretches. -/
theorem isStretch_put {source rest : List Char}
    (hread : Directive.loop.read (source ++ rest) = some (l, rest)) :
    IsStretch source ∧ IsStretch (l.put source) := by
  obtain ⟨header, footer, rfl, hheader, hfooter, -⟩ := Directive.exists_marks_of_readLoop hread
  have hsource := hheader.isStretch.append (y := l.body) hfooter.isStretch
  refine ⟨hsource, ?_⟩
  unfold Directive.Loop.put
  split
  · rw [Directive.Loop.target, List.append_assoc]
    exact (isStretch_tag _).append (isStretch_tag _)
  · exact hsource

/-- What a test loses and gains by a loop that is converted, it loses and gains by the marks of the loop. -/
theorem places_put {r : List Char → Bool} (hr : Walled r) {source rest : List Char} {a b : Nat}
    (hread : Directive.loop.read (source ++ rest) = some (l, rest))
    (hfit : l.isUsable = true → ∀ header footer, IsMark header → IsMark footer →
      opensLoop header = true → opensLoop footer = false →
        places r l.tag.text + places r Construct.closeLoop.text + a =
          places r header + places r footer + b) :
    places r (l.put source) + (if l.isUsable then a else 0) =
      places r source + if l.isUsable then b else 0 := by
  unfold Directive.Loop.put
  split
  · next hl =>
    obtain ⟨header, footer, rfl, hheader, hfooter, hbegin, hend, -⟩ :=
      Directive.exists_marks_of_readLoop hread
    have hopen : opensLoop header = true := by
      have := Directive.opensLoop_of_loopHeader (hbegin [])
      rwa [List.append_nil] at this
    have hclose : opensLoop footer = false := by
      have := Directive.opensLoop_of_loopEnd (hend [])
      rwa [List.append_nil] at this
    have hmarks := hfit hl header footer hheader hfooter hopen hclose
    rw [Directive.Loop.target, List.append_assoc, (isStretch_tag _).places_within (isStretch_tag _) hr,
      hheader.isStretch.places_within hfooter.isStretch hr]
    rw [Directive.Loop.tag] at hmarks
    omega
  · rfl

/-- A round uses up an opener for every loop that it converts. -/
theorem loopOpeners_loopRound (text : List Char) :
    loopOpeners (loopRound text) + (convertible (Directive.loop.pieces text)).length =
      loopOpeners text := by
  have hround := places_replace (fun l : Directive.Loop => if l.isUsable then 1 else 0)
    (fun l : Directive.Loop => if l.isUsable then 0 else 0) (f := Directive.Loop.put)
    opensLoop_walled (p := Directive.loop) (fun {source rest l} hread => ?_) text
  · rw [gains_convertible, gains_convertible] at hround
    simpa [loopOpeners, loopRound] using hround
  · obtain ⟨hsource, hput⟩ := isStretch_put hread
    refine ⟨hsource, hput, places_put opensLoop_walled hread ?_⟩
    intro hl header footer hheader hfooter hopen hclose
    have htag {k : Construct} (hk : k.IsSound) : places opensLoop k.text = 0 :=
      places_of_notMem Directive.head?_of_opensLoop (Target.edge_notMem_text (by decide) hk)
    rw [Directive.Loop.tag, htag (Directive.Loop.isSound_of_isUsable hl),
      htag (k := .closeLoop) trivial,
      places_mark Directive.head?_of_opensLoop hheader, places_mark Directive.head?_of_opensLoop hfooter,
      hopen, hclose]
    rfl

/-- A text that begins a loop of the target language stands in the text as often more as in the tags that a
round puts in. -/
theorem occurrences_lead_loopRound {p : List Char} (hp : IsWord p) (hlead : loopLead <+: p)
    (text : List Char) :
    occurrences p (loopRound text) = occurrences p text +
      ((convertible (Directive.loop.pieces text)).map fun l => occurrences p l.tag.text).sum := by
  have hbrace : '\x7b' ∈ p := hlead.subset (by decide)
  have hround := places_replace (r := p.isPrefixOf)
    (fun l : Directive.Loop => if l.isUsable then 0 else 0)
    (fun l : Directive.Loop => if l.isUsable then occurrences p l.tag.text else 0) (f := Directive.Loop.put)
    (walled_isPrefixOf hp) (p := Directive.loop) (fun {source rest l} hread => ?_) text
  · rw [gains_convertible, gains_convertible] at hround
    simpa [← occurrences_eq_places, loopRound] using hround
  · obtain ⟨hsource, hput⟩ := isStretch_put hread
    refine ⟨hsource, hput, places_put (walled_isPrefixOf hp) hread ?_⟩
    intro hl header footer hheader hfooter _ _
    have hclose : occurrences p Construct.closeLoop.text = 0 := by
      refine Target.occurrences_eq_zero (List.ne_nil_of_mem hbrace) fun hin => ?_
      exact absurd (hlead.isInfix.trans hin) (by decide)
    have hmark {x : List Char} (hx : IsMark x) : occurrences p x = 0 :=
      Target.occurrences_of_notMem hbrace (hx.notMem (by decide) (by decide) (by decide))
    simp only [← occurrences_eq_places]
    rw [hmark hheader, hmark hfooter, hclose]
    omega

/-- A round that converts nothing changes nothing, and no other does. -/
theorem loopRound_eq_self_iff : loopRound text = text ↔ convertible (Directive.loop.pieces text) = [] := by
  constructor
  · intro h
    have hround := loopOpeners_loopRound text
    rw [h] at hround
    exact List.length_eq_zero_iff.mp (by omega)
  · intro h
    have hput : ∀ piece ∈ Directive.loop.pieces text,
        piece.put Directive.Loop.put = piece.text := by
      intro piece hpiece
      cases piece with
      | char c => rfl
      | mark l source =>
        refine if_neg fun hl => ?_
        have := mem_convertible hpiece hl
        rw [h] at this
        cases this
    rw [loopRound, Recogniser.replace_eq_flatMap, List.flatMap_congr hput,
      Recogniser.flatMap_text_pieces]

/-- Behind the front of a loop no other one begins in it. -/
theorem free_loopHeader_tail {source rest : List Char}
    (hread : Directive.loop.read (source ++ rest) = some (l, rest)) :
    Free (fun s => (Directive.loopHeader s).isSome) source.tail := by
  obtain ⟨header, footer, rfl, hheader, hfooter, -, hend, hbody⟩ := Directive.exists_marks_of_readLoop hread
  obtain ⟨m, rfl, hm⟩ := hheader
  have hseam : Seam l.body footer := by simpa using hfooter.delimited.isSealed.seam_before l.body []
  have hfree : Free (fun s => (Directive.loopHeader s).isSome) l.body := fun s hs =>
    (Bool.or_eq_false_iff.mp (hbody s hs)).1
  have hfront : (Directive.loopHeader footer).isSome = false := by
    have hopens := Directive.opensLoop_of_loopEnd (hend [])
    rw [List.append_nil] at hopens
    refine Bool.eq_false_iff.mpr fun hsome => ?_
    obtain ⟨inner, hinner⟩ := Option.isSome_iff_exists.mp hsome
    rw [Directive.opensLoop_of_loopHeader hinner] at hopens
    cases hopens
  refine Free.of_unmarked_append loopHeader_isLocal (x := m ++ ['>']) (.of_notMem ?_ _)
    (hfree.append loopHeader_isLocal hseam (hfooter.free loopHeader_isLocal hfront))
  exact List.not_mem_append (Text.notMem_of_all hm (by decide)) (by decide)

/-- No loop is read inside of another one: the front of a loop that is read there would be one in the rest of
the outer loop. -/
theorem readLoop_inside {b : Char} {before m after : List Char}
    (hread : Directive.loop.read (b :: before ++ m ++ after) = some (l, after)) (hm : m ≠ []) :
    Directive.loop.read (m ++ after) = none := by
  refine Option.eq_none_iff_forall_ne_some.mpr fun out hout => ?_
  have hfree : (Directive.loopHeader m).isSome = false :=
    free_loopHeader_tail hread m (List.suffix_append before m)
  obtain ⟨inner, hinner, -⟩ := Directive.exists_inner_of_readLoop hout
  have hseam := (Directive.delimited_of_readLoop hread).isSealed.seam_behind [] after
  rw [List.nil_append] at hseam
  have hlocal := loopHeader_isLocal.append hm
    (hseam.of_suffix (List.suffix_append (b :: before) m) hm)
  simp only [hfree, hinner, Option.isSome_some] at hlocal
  cases hlocal

/-- So every loop that is read at some place of a text is one of its pieces. -/
theorem exists_piece_of_readLoop {s rest : List Char} (hs : s <:+ text)
    (h : Directive.loop.read s = some (l, rest)) :
    ∃ source, .mark l source ∈ Directive.loop.pieces text := by
  fun_induction Recogniser.pieces Directive.loop text with
  | case1 =>
    rw [List.suffix_nil.mp hs] at h
    exact absurd (Directive.loop.read_shorter h) (Nat.not_lt_zero _)
  | case2 c text a after hread _ ih =>
    obtain ⟨source, hsource⟩ := Recogniser.exists_source hread
    rw [hsource] at hread hs ⊢
    obtain ⟨before, hbefore⟩ := hs
    rcases List.append_eq_append_iff.mp hbefore with ⟨m, rfl, rfl⟩ | ⟨m, rfl, rfl⟩
    · cases before with
      | nil =>
        rw [List.nil_append] at hread ⊢
        rw [h] at hread
        cases hread
        exact ⟨_, List.mem_cons_self⟩
      | cons b before =>
        by_cases hm : m = []
        · subst hm
          obtain ⟨source, hmem⟩ := ih List.suffix_rfl
          exact ⟨source, List.mem_cons_of_mem _ hmem⟩
        · rw [readLoop_inside hread hm] at h
          cases h
    · obtain ⟨source, hmem⟩ := ih (List.suffix_append m s)
      exact ⟨source, List.mem_cons_of_mem _ hmem⟩
  | case3 c text hread ih =>
    rcases List.suffix_cons_iff.mp hs with rfl | hs
    · rw [h] at hread
      cases hread
    · obtain ⟨source, hmem⟩ := ih hs
      exact ⟨source, List.mem_cons_of_mem _ hmem⟩

end

/-! ### The run -/

/-- Rounds over the loops of a text until one leaves it as it is, counted. -/
inductive Rounds : Nat → Scope → List Char → Trace → (Scope × List Char) × Trace → Prop
  | last {scope text t} (hstill : (convertLoops scope (Directive.loop.pieces text) t).1.2 = text) :
    Rounds 1 scope text t (convertLoops scope (Directive.loop.pieces text) t)
  | next {n scope text t scope' text' t' out}
    (hround : convertLoops scope (Directive.loop.pieces text) t = ((scope', text'), t'))
    (hchange : text' ≠ text) (hrest : Rounds n scope' text' t' out) : Rounds (n + 1) scope text t out

/-- What the conversion of some loops makes of a scope, a text and a trace. -/
structure Converts (loops : List Directive.Loop) (before after : (Scope × List Char) × Trace) : Prop where
  usable : ∀ l ∈ loops, l.isUsable = true
  scope : after.1.1 = before.1.1.bindLoop (boundBy loops)
  openers : loopOpeners after.1.2 + loops.length = loopOpeners before.1.2
  leads : ∀ p, IsWord p → loopLead <+: p → occurrences p after.1.2 =
    occurrences p before.1.2 + (loops.map fun l => occurrences p l.tag.text).sum
  counted : after.2.report.loopsExpanded = before.2.report.loopsExpanded + loops.length

theorem convertLoops_scope (scope : Scope) (pieces : List (Piece Directive.Loop)) (t : Trace) :
    (convertLoops scope pieces t).1.1 = scope.bindLoop (boundBy (convertible pieces)) := by
  induction pieces generalizing scope t with
  | nil => rfl
  | cons piece pieces ih =>
    cases piece with
    | char c => exact ih scope t
    | mark l source =>
      have hrest := ih (convertLoop scope l source t).1.1 (convertLoop scope l source t).2
      have hmine : (convertLoop scope l source t).1.1 =
          if l.isUsable then scope.bindLoop [l.item, l.indexName] else scope := by
        unfold convertLoop
        split <;> rfl
      refine hrest.trans ?_
      rw [hmine, convertible]
      split <;> rfl

namespace Converts

variable {loops more : List Directive.Loop} {a b c : (Scope × List Char) × Trace}

theorem trans (h : Converts loops a b) (h' : Converts more b c) : Converts (loops ++ more) a c where
  usable l hl := (List.mem_append.mp hl).elim (h.usable l) (h'.usable l)
  scope := by
    rw [h'.scope, h.scope]
    simp [Scope.bindLoop, boundBy, List.foldl_append]
  openers := by
    rw [List.length_append, ← h.openers, ← h'.openers]
    omega
  leads p hp hlead := by
    rw [h'.leads p hp hlead, h.leads p hp hlead, List.map_append, List.sum_append, Nat.add_assoc]
  counted := by rw [h'.counted, h.counted, List.length_append, Nat.add_assoc]

/-- One round. -/
theorem round (scope : Scope) (text : List Char) (t : Trace) :
    Converts (convertible (Directive.loop.pieces text)) ((scope, text), t)
      (convertLoops scope (Directive.loop.pieces text) t) := by
  have htext : (convertLoops scope (Directive.loop.pieces text) t).1.2 = loopRound text :=
    convertLoops_text scope _ t
  refine ⟨fun l => isUsable_of_mem_convertible, ?_, ?_, fun p hp hlead => ?_, ?_⟩
  · exact convertLoops_scope scope _ t
  · rw [htext]
    exact loopOpeners_loopRound text
  · rw [htext]
    exact occurrences_lead_loopRound hp hlead text
  · have hreport := (convertLoops_report scope (Directive.loop.pieces text) t).1
    rw [gains_convertible] at hreport
    simpa using hreport

end Converts

variable {n fuel : Nat} {scope : Scope} {text : List Char} {t : Trace} {out : (Scope × List Char) × Trace}

/-- The rounds of a text end, and there is fuel for all of them if there is some for every opener. -/
theorem exists_rounds (scope : Scope) (t : Trace) (h : loopOpeners text < fuel) :
    ∃ n, Rounds n scope text t (loopRounds fuel scope text t) := by
  induction fuel generalizing scope text t with
  | zero => omega
  | succ fuel ih =>
    have htext : (convertLoops scope (Directive.loop.pieces text) t).1.2 = loopRound text :=
      convertLoops_text scope _ t
    rw [loopRounds_succ]
    dsimp only
    split
    · next hstill => exact ⟨1, .last hstill⟩
    · next hchange =>
      have hloops : convertible (Directive.loop.pieces text) ≠ [] := by
        rwa [htext, loopRound_eq_self_iff] at hchange
      have hround := loopOpeners_loopRound text
      have hpos := List.length_pos_iff.mpr hloops
      have hfuel : loopOpeners (convertLoops scope (Directive.loop.pieces text) t).1.2 < fuel := by
        rw [htext]
        omega
      obtain ⟨n, hn⟩ := ih (convertLoops scope (Directive.loop.pieces text) t).1.1
        (convertLoops scope (Directive.loop.pieces text) t).2 hfuel
      exact ⟨n + 1, .next rfl hchange hn⟩

/-- Every round but the last one converts a loop, and behind the last one no loop is left that can be. -/
theorem Rounds.converts (h : Rounds n scope text t out) :
    (∃ loops, n ≤ loops.length + 1 ∧ Converts loops ((scope, text), t) out) ∧
      loopRound out.1.2 = out.1.2 := by
  induction h with
  | @last scope text t hstill =>
    have htext : (convertLoops scope (Directive.loop.pieces text) t).1.2 = loopRound text :=
      convertLoops_text scope _ t
    refine ⟨⟨_, Nat.le_add_left 1 _, Converts.round scope text t⟩, ?_⟩
    rw [hstill, ← htext, hstill]
  | @next n scope text t scope' text' t' out hround hchange hrest ih =>
    obtain ⟨⟨more, hn, hmore⟩, hstill⟩ := ih
    have hfirst := Converts.round scope text t
    rw [hround] at hfirst
    have hloops : convertible (Directive.loop.pieces text) ≠ [] := by
      intro hnone
      have htext := convertLoops_text scope (Directive.loop.pieces text) t
      rw [hround] at htext
      exact hchange (htext.trans (loopRound_eq_self_iff.mpr hnone))
    have hpos := List.length_pos_iff.mpr hloops
    refine ⟨⟨_, ?_, hfirst.trans hmore⟩, hstill⟩
    rw [List.length_append]
    omega

/-- Every tag of a loop that is converted begins one loop. -/
theorem sum_occurrences_loopLead {loops : List Directive.Loop} (h : ∀ l ∈ loops, l.isUsable = true) :
    (loops.map fun l => occurrences loopLead l.tag.text).sum = loops.length := by
  have hone : ∀ l ∈ loops, occurrences loopLead l.tag.text = 1 := fun l hl =>
    Target.occurrences_loopLead_openLoop (Directive.Loop.isSound_of_isUsable (h l hl))
  rw [List.map_congr_left hone]
  simp

/-- The tags of one loop are put in as often as loops of its names are converted. -/
theorem sum_occurrences_tag {l : Directive.Loop} {loops : List Directive.Loop} (hl : l.isUsable = true)
    (h : ∀ m ∈ loops, m.isUsable = true) :
    (loops.map fun m => occurrences l.tag.text m.tag.text).sum = loops.countP fun m => m.tag = l.tag := by
  have hsound := Directive.Loop.isSound_of_isUsable hl
  have hbrace : '\x7b' ∈ l.tag.text := List.mem_cons_self
  induction loops with
  | nil => rfl
  | cons m loops ih =>
    have hm := Directive.Loop.isSound_of_isUsable (h m List.mem_cons_self)
    have hmine : occurrences l.tag.text m.tag.text = if m.tag = l.tag then 1 else 0 := by
      rw [show m.tag = .openLoop m.indexName m.item m.collection from rfl, occurrences_openLoop hbrace hm]
      exact if_congr ((openLoop_prefix_iff hsound hm).trans eq_comm) rfl rfl
    rw [List.map_cons, List.sum_cons, ih fun m hm => h m (List.mem_cons_of_mem _ hm), hmine,
      List.countP_cons]
    simp only [decide_eq_true_eq]
    omega

theorem mem_loopNames_bindLoop {scope : Scope} {loops : List Directive.Loop} {name : String} :
    name ∈ (scope.bindLoop (boundBy loops)).loopNames ↔
      name ∈ scope.loopNames ∨ ∃ l ∈ loops, name = l.item ∨ name = l.indexName := by
  induction loops generalizing scope with
  | nil => simp [boundBy, Scope.bindLoop]
  | cons l loops ih =>
    have hsplit : scope.bindLoop (boundBy (l :: loops)) =
        (scope.bindLoop [l.item, l.indexName]).bindLoop (boundBy loops) := rfl
    rw [hsplit, ih, (bindLoop_gains scope l.item l.indexName).loopNames]
    simp [or_assoc]

/-- The loops of any text are expanded in no more rounds than it has openers and one, and then no loop can be
read anywhere that has three names of use, item and index apart. Some loops are converted: the report counts
them, their tags are the ones that the text gains, and the scope knows their items and indexes besides the
names that it knew. -/
theorem expandLoops_exact (scope : Scope) (text : List Char) (t : Trace) :
    ∃ (rounds : Nat) (loops : List Directive.Loop),
      rounds ≤ loopOpeners text + 1 ∧
      Rounds rounds scope text t (expandLoops scope text t) ∧
      (∀ s l rest, s <:+ (expandLoops scope text t).1.2 → Directive.loop.read s = some (l, rest) →
        isRenderable l.item = false ∨ isRenderable l.indexName = false ∨
          isRenderable l.collection = false ∨ l.item = l.indexName) ∧
      (expandLoops scope text t).2.report.loopsExpanded = t.report.loopsExpanded + loops.length ∧
      occurrences loopLead (expandLoops scope text t).1.2 = occurrences loopLead text + loops.length ∧
      (∀ l ∈ loops, occurrences l.tag.text (expandLoops scope text t).1.2 =
        occurrences l.tag.text text + loops.countP fun m => m.tag = l.tag) ∧
      ∀ name, name ∈ (expandLoops scope text t).1.1.loopNames ↔
        name ∈ scope.loopNames ∨ ∃ l ∈ loops, name = l.item ∨ name = l.indexName := by
  have hfuel : loopOpeners text < text.length + 1 := Nat.lt_succ_of_le (places_le_length opensLoop text)
  obtain ⟨rounds, hrounds⟩ : ∃ n, Rounds n scope text t (expandLoops scope text t) :=
    exists_rounds scope t hfuel
  obtain ⟨⟨loops, hbound, hconverts⟩, hstill⟩ := hrounds.converts
  have hopeners : loopOpeners (expandLoops scope text t).1.2 + loops.length = loopOpeners text :=
    hconverts.openers
  refine ⟨rounds, loops, by omega, hrounds, fun s l rest hs hread => ?_, hconverts.counted, ?_,
    fun l hl => ?_, fun name => ?_⟩
  · obtain ⟨source, hmem⟩ := exists_piece_of_readLoop hs hread
    have hunusable : l.isUsable = false := by
      refine Bool.eq_false_iff.mpr fun hl => ?_
      have := mem_convertible hmem hl
      rw [loopRound_eq_self_iff.mp hstill] at this
      cases this
    simpa only [Directive.Loop.isUsable, Bool.and_eq_false_iff, bne_eq_false_iff_eq, or_assoc]
      using hunusable
  · have hleads := hconverts.leads loopLead isWord_loopLead List.prefix_rfl
    rwa [sum_occurrences_loopLead hconverts.usable] at hleads
  · have husable := hconverts.usable l hl
    have hsound := Directive.Loop.isSound_of_isUsable husable
    obtain ⟨z, hz, -⟩ := Target.exists_text_openLoop hsound
    have hleads := hconverts.leads l.tag.text (isWord_openLoop hsound) ⟨z, hz.symm⟩
    rwa [sum_occurrences_tag husable hconverts.usable] at hleads
  · rw [hconverts.scope]
    exact mem_loopNames_bindLoop

end Stencil.Template
