import Stencil.Proofs.Target.Nesting
import Stencil.Proofs.Template.NormalForm

/-! Loops in the text of a page without components nest properly, whatever is written in its file. A text is
walked through with the number of loops that are open; where one is open, no directive begins or ends a
loop. So a loop that is read stands where none is open, its body leaves none open, and the loop that takes its
place is one level deeper than before inside and on the same level around it. -/
namespace Stencil.Template

open Target (Construct isEdge)
open Text (IsName Recogniser isSpace)

/-! ### Walks -/

/-- Whether a text falls into characters and basic tags that lead from one number of open loops to another,
and directives begin and end loops only where none is open. -/
inductive Walks : Nat → List Char → Nat → Prop
  | nil (depth : Nat) : Walks depth [] depth
  | char {depth out : Nat} {c : Char} {s : List Char} (hc : c ≠ '{')
      (hmark : depth = 0 ∨ isLoopMark (c :: s) = false) (hs : Walks depth s out) :
      Walks depth (c :: s) out
  | tag {depth inner out : Nat} {k : Construct} {s : List Char} (hk : k.IsBasic)
      (hdepth : k.depthAfter depth = some inner) (hs : Walks inner s out) :
      Walks depth (k.text ++ s) out

namespace Walks

variable {depth inner out : Nat} {s x y : List Char} {c : Char}

theorem of_tag {k : Construct} (hk : k.IsBasic) (hdepth : k.depthAfter depth = some out) :
    Walks depth k.text out := by
  simpa using tag hk hdepth (nil out)

theorem uncons (hc : c ≠ '{') (h : Walks depth (c :: s) out) :
    (depth = 0 ∨ isLoopMark (c :: s) = false) ∧ Walks depth s out := by
  generalize ht : c :: s = t at h
  cases h with
  | nil => cases ht
  | char hd hmark hs =>
    obtain ⟨rfl, rfl⟩ := List.cons.inj ht
    exact ⟨hmark, hs⟩
  | @tag _ _ _ k r hk hdepth hs =>
    obtain ⟨t, hk⟩ := k.exists_text_eq
    rw [hk] at ht
    exact absurd (List.cons.inj ht).1 hc

/-- Plain text in front leads nowhere. -/
theorem drop (hx : '{' ∉ x) (h : Walks depth (x ++ s) out) : Walks depth s out := by
  induction x with
  | nil => exact h
  | cons c x ih =>
    rw [List.mem_cons, not_or] at hx
    exact ih hx.2 (h.uncons (Ne.symm hx.1)).2

theorem depth_eq_of_nil (h : Walks depth [] out) : depth = out := by
  generalize ht : [] = t at h
  cases h with
  | nil => rfl
  | char => cases ht
  | @tag _ _ _ k r hk hdepth hs =>
    obtain ⟨t, hk⟩ := k.exists_text_eq
    rw [hk] at ht
    cases ht

theorem depth_eq (hs : '{' ∉ s) (h : Walks depth s out) : depth = out := by
  rw [← List.append_nil s] at h
  exact (h.drop hs).depth_eq_of_nil

theorem plain (hs : '{' ∉ s) (hfree : Free isLoopMark s) (depth : Nat) : Walks depth s depth := by
  induction s with
  | nil => exact nil depth
  | cons c s ih =>
    rw [List.mem_cons, not_or] at hs
    exact char (Ne.symm hs.1) (.inr (hfree _ List.suffix_rfl))
      (ih hs.2 (hfree.of_suffix (List.suffix_cons c s)))

/-- Plain text without opening marks may stand in front. -/
theorem unmarked_append (hx : '{' ∉ x) (hmark : Unmarked x s) (h : Walks depth s out) :
    Walks depth (x ++ s) out := by
  induction x with
  | nil => exact h
  | cons c x ih =>
    rw [List.mem_cons, not_or] at hx
    refine char (Ne.symm hx.1) (.inr (isLoopMark_isLocal.needsMark (hmark c [] x rfl))) (ih hx.2 ?_)
    exact fun d before after he => hmark d (c :: before) after (by rw [he]; rfl)

/-- Loops may stand inside of another one if no directive begins or ends one there. -/
theorem deeper (hfree : Free isLoopMark s) (h : Walks depth s out) :
    Walks (depth + 1) s (out + 1) := by
  induction h with
  | nil => exact nil _
  | char hc _ _ ih =>
    exact char hc (.inr (hfree _ List.suffix_rfl)) (ih (hfree.of_suffix (List.suffix_cons _ _)))
  | @tag depth inner out k s hk hdepth _ ih =>
    have hrest := ih (hfree.of_suffix (List.suffix_append _ _))
    refine tag hk ?_ hrest
    cases k <;> simp only [Construct.depthAfter] at hdepth ⊢
    · cases hdepth; rfl
    · cases hdepth; rfl
    · cases hdepth; rfl
    · split at hdepth
      · cases hdepth
      · cases hdepth
        rw [if_neg (Nat.succ_ne_zero _)]
        congr 1
        omega
    · cases hdepth
    · cases hdepth

theorem join_of_seams (hseam : ∀ m, m <:+ x → m ≠ [] → Seam m y) (hx : Walks depth x inner)
    (hy : Walks inner y out) : Walks depth (x ++ y) out := by
  induction hx with
  | nil => exact hy
  | @char depth inner c s hc hmark _ ih =>
    have hhere := hseam (c :: s) List.suffix_rfl (List.cons_ne_nil c s)
    refine char hc ?_ (ih (fun m hm => hseam m (hm.trans (List.suffix_cons c s))) hy)
    rw [← isLoopMark_isLocal.append (List.cons_ne_nil c s) hhere] at hmark
    exact hmark
  | tag hk hdepth _ ih =>
    rw [List.append_assoc]
    exact tag hk hdepth (ih (fun m hm => hseam m (hm.trans (List.suffix_append _ _))) hy)

/-- Cut where no tag lies across, and no directive either. -/
theorem cut_of_seams (hseam : ∀ m, m <:+ x → m ≠ [] → Seam m y)
    (htag : ∀ a b, a <:+ x → b <+: y → a ≠ [] → b ≠ [] → ∀ k : Construct, k.IsBasic → k.text ≠ a ++ b)
    (h : Walks depth (x ++ y) out) : ∃ inner, Walks depth x inner ∧ Walks inner y out := by
  generalize ht : x ++ y = t at h
  induction h generalizing x with
  | nil depth =>
    obtain ⟨rfl, rfl⟩ := List.append_eq_nil_iff.mp ht
    exact ⟨depth, nil depth, nil depth⟩
  | @char depth out c s hc hmark hs ih =>
    cases x with
    | nil =>
      obtain rfl : y = c :: s := ht
      exact ⟨depth, nil depth, char hc hmark hs⟩
    | cons d x =>
      obtain ⟨rfl, rfl⟩ := List.cons.inj ht
      obtain ⟨inner, hx, hy⟩ := ih (fun m hm => hseam m (hm.trans (List.suffix_cons d x)))
        (fun a b ha => htag a b (ha.trans (List.suffix_cons d x))) rfl
      refine ⟨inner, char hc ?_ hx, hy⟩
      have hhere := hseam (d :: x) List.suffix_rfl (List.cons_ne_nil d x)
      rw [← isLoopMark_isLocal.append (List.cons_ne_nil d x) hhere]
      exact hmark
  | @tag depth inner out k s hk hdepth hs ih =>
    rcases List.append_eq_append_iff.mp ht with ⟨m, hm, hrest⟩ | ⟨m, rfl, hrest⟩
    · by_cases hnil : m = []
      · subst hnil
        rw [List.append_nil] at hm
        rw [← hm]
        exact ⟨inner, of_tag hk hdepth, by rw [hrest]; exact hs⟩
      · by_cases hx : x = []
        · subst hx
          obtain rfl : k.text = m := hm
          exact ⟨depth, nil depth, by rw [hrest]; exact tag hk hdepth hs⟩
        · exact absurd hm (htag x m List.suffix_rfl ⟨s, hrest.symm⟩ hx hnil k hk)
    · obtain ⟨inner', hx, hy⟩ := ih (fun a ha => hseam a (ha.trans (List.suffix_append _ _)))
        (fun a b ha => htag a b (ha.trans (List.suffix_append _ _))) hrest.symm
      exact ⟨inner', tag hk hdepth hx, hy⟩

/-- A basic tag lies across no place where a text can be cut. -/
theorem tag_ne_of_cut (hcut : Cut x y) {a b : List Char} (ha : a <:+ x) (hb : b <+: y) (hane : a ≠ [])
    (hbne : b ≠ []) {k : Construct} (hk : k.IsBasic) : k.text ≠ a ++ b := by
  intro he
  have hedge {c : Char} (hc : isEdge c = true) : c ∉ a ++ b := he ▸ Target.edge_notMem_text hc hk.isSound
  rcases hcut.narrow hane hbne ha hb with hblank | (h | h) | (h | h)
  · -- a tag ends with a brace, which is not blank
    have hend := k.getLast?_text
    rw [he, List.getLast?_append_of_ne_nil _ hbne] at hend
    have := List.all_eq_true.mp hblank '}' (List.mem_of_getLast? hend)
    exact absurd this (by decide)
  · exact hedge (by decide) (List.mem_append_right a (List.mem_of_mem_head? h))
  · exact hedge (by decide) (List.mem_append_right a (List.mem_of_mem_head? h))
  · exact hedge (by decide) (List.mem_append_left b (List.mem_of_getLast? h))
  · exact hedge (by decide) (List.mem_append_left b (List.mem_of_getLast? h))

end Walks

theorem splices_walks : Splices Walks where
  cut hcut := Walks.cut_of_seams (fun _ hm hne => hcut.seam.of_suffix hm hne)
    fun _ _ ha hb hane hbne _ hk => Walks.tag_ne_of_cut hcut ha hb hane hbne hk
  join hseam := Walks.join_of_seams fun _ hm hne => hseam.of_suffix hm hne

/-! ### Names -/

namespace Directive

variable {s rest : List Char}

theorem isName_of_takeWord {w : List Char} (h : Text.takeWord s = some (w, rest)) : IsName w := by
  obtain ⟨-, hne, hw⟩ := Text.takeWord_eq_some h
  exact Text.isName_of_all hne hw

theorem isName_of_readPlaceholder {name : String} (h : placeholder.read s = some (name, rest)) :
    IsName name.toList := by
  obtain ⟨s₁, -, h⟩ := Option.bind_eq_some_iff.mp h
  obtain ⟨⟨w, s₂⟩, hword, h⟩ := Option.bind_eq_some_iff.mp h
  obtain ⟨s₃, -, h⟩ := Option.bind_eq_some_iff.mp h
  cases h
  simpa using isName_of_takeWord hword

theorem isName_of_loopIndex {index : Option String} (h : loopIndex s = some (index, rest)) :
    IsName (index.getD defaultIndex).toList := by
  unfold loopIndex at h
  split at h
  · obtain ⟨⟨w, u⟩, hword, h⟩ := Option.bind_eq_some_iff.mp h
    obtain ⟨v, -, h⟩ := Option.bind_eq_some_iff.mp h
    cases h
    simpa using isName_of_takeWord hword
  · obtain ⟨v, -, h⟩ := Option.map_eq_some_iff.mp h
    cases h
    exact Text.isName_of_all (by decide) (by decide)

/-- The tag of a loop that can be converted is basic. -/
theorem isBasic_of_readLoop {l : Loop} (h : loop.read s = some (l, rest)) (husable : l.isUsable = true) :
    (Construct.openLoop l.indexName l.item l.collection).IsBasic := by
  refine ⟨Loop.isSound_of_isUsable husable, ?_⟩
  change readLoop s = some (l, rest) at h
  simp only [readLoop, Option.bind_eq_bind] at h
  obtain ⟨s₁, -, h⟩ := Option.bind_eq_some_iff.mp h
  obtain ⟨s₂, -, h⟩ := Option.bind_eq_some_iff.mp h
  obtain ⟨⟨item, s₃⟩, hitem, h⟩ := Option.bind_eq_some_iff.mp h
  obtain ⟨⟨index, s₄⟩, hindex, h⟩ := Option.bind_eq_some_iff.mp h
  obtain ⟨s₅, -, h⟩ := Option.bind_eq_some_iff.mp h
  obtain ⟨s₆, -, h⟩ := Option.bind_eq_some_iff.mp h
  obtain ⟨⟨collection, s₇⟩, hcollection, h⟩ := Option.bind_eq_some_iff.mp h
  obtain ⟨s₈, -, h⟩ := Option.bind_eq_some_iff.mp h
  obtain ⟨⟨body, s₉⟩, -, h⟩ := Option.bind_eq_some_iff.mp h
  cases h
  exact ⟨isName_of_loopIndex hindex, by simpa using isName_of_takeWord hitem,
    by simpa using isName_of_takeWord hcollection⟩

end Directive

/-! ### Stages -/

section

variable {depth out : Nat} {source rest : List Char}

/-- Where a loop begins or ends, none is open. -/
theorem Walks.depth_eq_zero {x : List Char} (hx : IsMark x) (hmark : isLoopMark x = true)
    (h : Walks depth x out) : depth = 0 ∧ out = 0 := by
  have hplain := h.depth_eq (hx.notMem (by decide) (by decide) (by decide))
  obtain ⟨m, rfl, -⟩ := hx
  have hzero := (h.uncons (by decide)).1.resolve_right (by simp [hmark])
  exact ⟨hzero, by omega⟩

/-- A loop in the place of one that is written. -/
theorem walks_loop_put {l : Directive.Loop}
    (hread : Directive.loop.read (source ++ rest) = some (l, rest)) (h : Walks depth source out) :
    Walks depth (l.put source) out := by
  unfold Directive.Loop.put
  split
  · next husable =>
    obtain ⟨header, footer, rfl, hheader, hfooter, hbegin, hend, hfree⟩ :=
      Directive.exists_parts_of_readLoop hread
    obtain ⟨d, hfront, h⟩ := splices_walks.cut (hheader.delimited.cut_behind _) h
    have hcut : Cut l.body footer := by
      simpa using hfooter.delimited.cut_before l.body []
    obtain ⟨e, hbody, hback⟩ := splices_walks.cut hcut h
    obtain ⟨rfl, rfl⟩ := hfront.depth_eq_zero hheader (by simpa using hbegin [])
    obtain ⟨rfl, rfl⟩ := hback.depth_eq_zero hfooter (by simpa using hend [])
    have hopen : Walks 0 (Construct.openLoop l.indexName l.item l.collection).text 1 :=
      .of_tag (Directive.isBasic_of_readLoop hread husable) rfl
    have hclose : Walks 1 Construct.closeLoop.text 0 := .of_tag (k := .closeLoop) trivial rfl
    have hinner := splices_walks.join ((sealed_tag (.openLoop _ _ _)).seam_behind [] l.body)
      hopen (hbody.deeper hfree)
    exact splices_walks.join (by simpa using (sealed_tag .closeLoop).seam_before _ []) hinner hclose
  · exact h

/-- A comment of the markup in the place of a remark leads where the remark led. -/
theorem walks_markupComment {remark : List Char}
    (hread : Directive.comment.read (source ++ rest) = some (remark, rest))
    (h : Walks depth source out) : Walks depth (markupComment remark) out := by
  obtain ⟨inner, rfl, rfl, -⟩ := Directive.exists_source_of_readComment hread
  obtain ⟨d, hinner, hsign⟩ := splices_walks.cut (.inr (.inl (.inr rfl))) (h.uncons (by decide)).2
  obtain rfl := hsign.depth_eq (by decide)
  have hbehind : Walks depth (Text.skipSpace inner) d := by
    refine Walks.drop (x := inner.takeWhile isSpace) ?_ ?_
    · exact Text.notMem_of_all List.all_takeWhile (by decide)
    · rwa [Text.skipSpace, List.takeWhile_append_dropWhile]
  obtain ⟨t, e, ht, hstripped, hblank⟩ := splices_walks.trimEnd hbehind
  obtain rfl := hblank.depth_eq (Text.notMem_of_all ht (by decide))
  have hfree {s : List Char} (hs : '<' ∉ s) : Free isLoopMark s :=
    .of_unmarked isLoopMark_isLocal (.of_notMem hs [])
  have hend := splices_walks.join (.inr (.inl ⟨'-', "->".toList, rfl, by decide⟩))
    (splices_walks.join (.inl (by decide)) hstripped
      (Walks.plain (s := [' ']) (by decide) (hfree (by decide)) e))
    (Walks.plain (s := "-->".toList) (by decide) (hfree (by decide)) e)
  have hopen (s : List Char) : Unmarked "<!-- ".toList s :=
    .cons (openMark_eq_none_of_head (show some '!' ≠ some ':' by decide)) (.of_notMem (by decide) _)
  have := Walks.unmarked_append (x := "<!-- ".toList) (by decide) (hopen _) hend
  simpa [markupComment_eq, Text.strip] using this

theorem walks_placeholderText (scope : Scope) {name : String}
    (hread : Directive.placeholder.read (source ++ rest) = some (name, rest))
    (h : Walks depth source out) : Walks depth (placeholderText scope name source) out := by
  have hmark := Directive.isMark_of_readPlaceholder hread
  obtain rfl := h.depth_eq (hmark.notMem (by decide) (by decide) (by decide))
  have hname := Directive.isName_of_readPlaceholder hread
  have hangle := notMem_of_readPlaceholder hread
  have hbrace : '{' ∉ name.toList := fun hmem => absurd (hname.word _ hmem) (by decide)
  have hnote {message : String} (hopen : '<' ∉ message.toList) (hbrace : '{' ∉ message.toList) :
      Walks depth (diagnostic message) depth :=
    .plain (List.not_mem_append (List.not_mem_append (by decide) hbrace) (by decide))
      (free_diagnostic isLoopMark_isLocal hopen) depth
  unfold placeholderText
  split
  · exact h
  split
  · exact hnote (by simp [toString, hangle]) (by simp [toString, hbrace])
  split
  · exact hnote (by simp [toString, hangle]) (by simp [toString, hbrace])
  · next h =>
    have hbasic : (Construct.show name).IsBasic := ⟨by simpa using h, hname⟩
    exact .of_tag hbasic rfl

/-- A pass leads where the text led. -/
theorem walks_passText (known : Scope) {text : List Char} (h : Walks depth text out) :
    Walks depth (passText known text) out :=
  splices_walks.placeholders known (fun hread => walks_placeholderText known hread)
    (splices_walks.convertedComments (fun hread => walks_markupComment hread)
      (splices_walks.loopRoundsText (fun hread => walks_loop_put hread) _ h))

/-- Loaded text has no loops of the target language, open or closed. -/
theorem walks_protect (s : List Char) : Walks 0 (protect s) 0 := by
  induction s with
  | nil => exact .nil 0
  | cons c s ih =>
    by_cases hc : c = '{'
    · subst hc
      rw [protect_cons_brace]
      exact .tag (k := .brace) trivial rfl ih
    · rw [protect_cons s hc]
      exact .char hc (.inl rfl) ih

end

/-! ### Parsing -/

section

variable {depth out : Nat} {text : List Char}

/-- A text is written from pieces whose tags lead where the text leads. -/
theorem Walks.exists_written (h : Walks depth text out) :
    ∃ pieces, Target.Written pieces (Text.Utf8.foldNewlines text) ∧
      (∀ k x, .mark k x ∈ pieces → k.IsBasic ∧ x = k.text) ∧
      Target.depthBehind depth (Target.tagsOf pieces) = some out := by
  induction h with
  | nil => exact ⟨[], .nil, fun _ _ hmem => absurd hmem List.not_mem_nil, rfl⟩
  | @char depth out c s hc _ _ ih =>
    obtain ⟨pieces, hwritten, hbasic, hdepth⟩ := ih
    rcases Target.foldNewlines_cons hc s with he | ⟨d, hd, he⟩
    · exact ⟨pieces, he ▸ hwritten, hbasic, hdepth⟩
    · refine ⟨.char d :: pieces, he ▸ .char hd hwritten, fun k x hmem => ?_, hdepth⟩
      exact hbasic k x (by simpa using hmem)
  | @tag depth inner out k s hk hafter _ ih =>
    obtain ⟨pieces, hwritten, hbasic, hdepth⟩ := ih
    rw [Target.foldNewlines_append (Target.return_notMem_text hk.isSound)]
    refine ⟨.mark k k.text :: pieces, .tag (Target.writes_text hk.isSound) hwritten, fun k' x hmem => ?_, ?_⟩
    · rcases List.mem_cons.mp hmem with heq | hmem
      · obtain ⟨rfl, rfl⟩ := Text.Piece.mark.inj heq
        exact ⟨hk, rfl⟩
      · exact hbasic k' x hmem
    · rw [Target.tagsOf, Target.depthBehind, hafter, Option.bind_some, hdepth]

/-- Such a text is put together, so no run refuses it for its tags. -/
theorem Walks.run_ne_malformed (h : Walks 0 text 0) (backend : Target.Backend) (data : Mapping)
    (fault : Target.SyntaxFault) : backend.run text data ≠ .error (.malformed fault) := by
  obtain ⟨pieces, hwritten, hbasic, hdepth⟩ := h.exists_written
  have hloops : ∀ o ∈ ([] : List (Target.OpenTag × List Target.Block)), o.1.tag = .loop := nofun
  obtain ⟨blocks, hblocks⟩ := Target.exists_assemble hloops hdepth []
  have htree : Target.treeOf pieces = .ok blocks := Target.treeOf_of_isSpelled
    (fun k x hmem => ⟨(hbasic k x hmem).1.isSound, (hbasic k x hmem).2⟩)
    (fun k x hmem => (hbasic k x hmem).1.isReadable) hblocks
  rw [backend.run_written hwritten, Target.runPieces, htree]
  exact Target.runTree_ne_malformed blocks data fault

/-! ### Expansions -/

variable {lib : Library} {expand : Scope → List Char → Expansion (List Char)} {scope : Scope}

/-- A pass over a text without uses of components keeps its loops nested. -/
theorem yields_pass_walks (limit : Nat) (scope : Scope) (hfree : Free opensComponent text)
    (hwalks : Walks 0 text 0) :
    (runStages (Compiler.stages { library := lib, limit := limit } expand) scope text).Yields
      fun r => Free opensComponent r.2 ∧ Walks 0 r.2 0 := by
  refine (yieldsWithin_pass hfree limit scope).yields.imp ?_
  rintro r ⟨known, hr⟩
  rw [hr]
  exact ⟨(IsTidy.passText hfree known).unused, walks_passText known hwalks⟩

/-- Passes that keep a property end with it, or for their number. -/
theorem ends_settle_invariant {pass : Scope → List Char → Expansion (Scope × List Char)}
    {I : List Char → Prop}
    (hpass : ∀ scope text, I text → (pass scope text).Yields fun r => I r.2) (limit left : Nat)
    (scope : Scope) (h : I text) :
    (settle pass limit left scope text).Ends (fun r => I r.2)
      fun e => ∃ name depth, e = .expansionLimit name limit depth := by
  induction left generalizing scope text with
  | zero => exact Expansion.ends_throw ⟨_, _, rfl⟩
  | succ left ih =>
    refine (hpass scope text h).toEnds.bind fun out hout => Expansion.ends_lift_bind fun _ => ?_
    split
    · exact Expansion.ends_lift_bind fun _ => Expansion.ends_pure hout
    · exact ih out.1 hout

end

/-- However the loops of a file without uses of components are written, unclosed, stray, overlapping or under
names that cannot be referred to: the loops that come of it are nested properly, and no backend refuses it for a
tag that is missing or in the wrong place. It comes to an end if three passes are allowed. -/
theorem expand_nests (lib : Library) (limit : Nat) (scope : Scope) {source : List Char}
    (h : ∀ s, s <:+ protect source → Directive.componentOpener s = none) :
    (({ library := lib, limit := limit } : Compiler).expand scope (protect source)).Ends
      (fun out => Target.depthBehind 0 (Target.tags out.2) = some 0 ∧
        ∀ (backend : Target.Backend) data fault, backend.run out.2 data ≠ .error (.malformed fault))
      fun e => limit < 3 ∧ ∃ name depth, e = .expansionLimit name limit depth := by
  have hfree : Free opensComponent (protect source) := fun s hs => by rw [opensComponent, h s hs]; rfl
  have hends : (Compiler.expand { library := lib, limit := limit } scope (protect source)).Ends
      (fun r => Free opensComponent r.2 ∧ Walks 0 r.2 0)
      fun e => ∃ name depth, e = .expansionLimit name limit depth :=
    ends_settle_invariant (I := fun text => Free opensComponent text ∧ Walks 0 text 0)
      (fun s text hI => yields_pass_walks limit s hI.1 hI.2) limit limit scope
      ⟨hfree, walks_protect source⟩
  have hreturns (hlimit : 3 ≤ limit) :
      (Compiler.expand { library := lib, limit := limit } scope (protect source)).Yields
        fun _ => True := by
    obtain ⟨left, rfl⟩ : ∃ left, limit = left + 3 := ⟨limit - 3, by omega⟩
    exact (yieldsWithin_settle_unused lib _ (left + 3) scope hfree left).yields.imp fun _ _ => trivial
  intro t
  have hend := hends t
  cases hout : Compiler.expand { library := lib, limit := limit } scope (protect source) t with
  | ok out t' =>
    rw [hout] at hend
    obtain ⟨pieces, hwritten, -, hdepth⟩ := hend.2.exists_written
    exact ⟨(Target.tags_of_written hwritten).symm ▸ hdepth, hend.2.run_ne_malformed⟩
  | error e t' =>
    rw [hout] at hend
    refine ⟨Nat.lt_of_not_le fun hlimit => ?_, hend⟩
    obtain ⟨out, t'', hok, -⟩ := hreturns hlimit t
    rw [hok] at hout
    cases hout

/-- An end without a loop, a loop without an end, one under a reserved name, and two that overlap. -/
theorem expand_nests_overlapping :
    let source := "<: endfor :><: for x in xs :><: for loop in xs :><: endfor :><: for y in x :>\x7b<: endfor :><: y :>".toList
    (∀ s, s <:+ protect source → Directive.componentOpener s = none) ∧
    (({ library := .ofTexts [] } : Compiler).expand { templateName := "page" } (protect source)).Ends
      (fun out => Target.depthBehind 0 (Target.tags out.2) = some 0 ∧
        ∀ (backend : Target.Backend) data fault, backend.run out.2 data ≠ .error (.malformed fault))
      fun e => 100 < 3 ∧ ∃ name depth, e = .expansionLimit name 100 depth := by
  intro source
  have h : ∀ s, s <:+ protect source → Directive.componentOpener s = none := by
    have hall : (protect source).tails.all (fun s => (Directive.componentOpener s).isNone) = true := by
      decide +kernel
    intro s hs
    simpa using List.all_eq_true.mp hall s ((List.mem_tails s (protect source)).mpr hs)
  exact ⟨h, expand_nests (.ofTexts []) 100 _ h⟩

end Stencil.Template
