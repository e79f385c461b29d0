import Stencil.Proofs.Target.Names
import Stencil.Proofs.Target.Nesting

/-! Data cannot add markup. What a run shows of data is escaped, so without loops the markup of an output
is that of the text, unless a name takes the slot of the brace. Such a run fails for its data only where a value
cannot be shown. -/
namespace Stencil

/-- The characters that can end or begin a tag or a quoted word of a page. -/
def isMarkup (c : Char) : Bool := c == '<' || c == '>' || c == '"' || c == '\''

/-- The markup characters of a text, in order. -/
def markup (s : List Char) : List Char := s.filter isMarkup

@[simp] theorem markup_nil : markup [] = [] := rfl

@[simp] theorem markup_append (s t : List Char) : markup (s ++ t) = markup s ++ markup t :=
  List.filter_append ..

theorem markup_escapeMarkupChar (c : Char) : markup (escapeMarkupChar c) = [] := by
  unfold escapeMarkupChar
  split
  · decide
  split
  · decide
  split
  · decide
  split
  · decide
  split
  · decide
  · next hless hgreater hdouble hsingle =>
    simp [markup, isMarkup, hless, hgreater, hdouble, hsingle]

/-- Nothing of an escaped text is markup. -/
theorem markup_escapeMarkup (s : List Char) : markup (escapeMarkup s) = [] := by
  induction s with
  | nil => rfl
  | cons c s ih =>
    rw [escapeMarkup, List.flatMap_cons, markup_append, markup_escapeMarkupChar]
    exact ih

theorem Value.markup_display (v : Value) : markup v.display = [] := by
  unfold Value.display
  split
  · rfl
  · exact markup_escapeMarkup _

namespace Mapping

/-- Whether two mappings have the same keys. -/
def SameKeys (d d' : Mapping) : Prop :=
  (∀ p ∈ d, Mapping.contains d' p.1 = true) ∧ ∀ p ∈ d', Mapping.contains d p.1 = true

namespace SameKeys

variable {d d' : Mapping}

theorem symm (h : SameKeys d d') : SameKeys d' d := ⟨h.2, h.1⟩

theorem contains_of_contains (h : SameKeys d d') {name : String}
    (hname : Mapping.contains d (.str name) = true) : Mapping.contains d' (.str name) = true := by
  obtain ⟨p, hp, hsame⟩ := List.any_eq_true.mp hname
  rw [← sameKey_name_iff.mp hsame]
  exact h.1 p hp

theorem contains_eq (h : SameKeys d d') (name : String) :
    Mapping.contains d (.str name) = Mapping.contains d' (.str name) :=
  Bool.eq_iff_iff.mpr ⟨h.contains_of_contains, h.symm.contains_of_contains⟩

theorem hasOnlyNames_of_hasOnlyNames (h : SameKeys d d') (hd : Target.hasOnlyNames d = true) :
    Target.hasOnlyNames d' = true := by
  refine List.all_eq_true.mpr fun p hp => ?_
  obtain ⟨q, hq, hsame⟩ := List.any_eq_true.mp (h.2 p hp)
  have hname := List.all_eq_true.mp hd q hq
  split at hname
  · next name hkey =>
    rw [hkey] at hsame
    rw [sameKey_comm] at hsame
    rw [sameKey_name_iff.mp hsame]
  · cases hname

theorem hasOnlyNames_eq (h : SameKeys d d') :
    Target.hasOnlyNames d = Target.hasOnlyNames d' :=
  Bool.eq_iff_iff.mpr ⟨h.hasOnlyNames_of_hasOnlyNames, h.symm.hasOnlyNames_of_hasOnlyNames⟩

end SameKeys

end Mapping

namespace Target

open Text (Piece)

/-- Whether a tag begins a loop. -/
def Construct.isLoop : Construct → Bool
  | openLoop _ _ _ => true
  | _ => false

mutual

/-- The markup of a part, apart from its loops. -/
def Block.markup : Block → List Char
  | .char c => Stencil.markup [c]
  | .brace | .show _ | .loop _ _ _ _ => []
  | .bind _ body => markupOf body

/-- The markup of parts in a row, apart from their loops. -/
def markupOf : List Block → List Char
  | [] => []
  | b :: rest => b.markup ++ markupOf rest

end

/-! ### Trees of tags of one kind -/

mutual

/-- Whether all tags that a part is made of have a property. -/
def Block.All (P : Construct → Prop) : Block → Prop
  | .char _ => True
  | .brace => P .brace
  | .show n => P (.show n)
  | .loop index item collection body => P (.openLoop index item collection) ∧ AllOf P body
  | .bind bindings body => P (.openWith bindings) ∧ AllOf P body

/-- Whether all tags that parts in a row are made of have a property. -/
def AllOf (P : Construct → Prop) : List Block → Prop
  | [] => True
  | b :: rest => b.All P ∧ AllOf P rest

end

/-- The tag that opens a part. -/
def OpenTag.construct : OpenTag → Construct
  | loop index item collection => .openLoop index item collection
  | bind bindings => .openWith bindings

section

variable {P : Construct → Prop}

theorem allOf_append {a b : List Block} : AllOf P (a ++ b) ↔ AllOf P a ∧ AllOf P b := by
  induction a with
  | nil => exact (and_iff_right trivial).symm
  | cons part a ih => rw [List.cons_append, AllOf, AllOf, ih, and_assoc]

theorem allOf_reverse {blocks : List Block} (h : AllOf P blocks) : AllOf P blocks.reverse := by
  induction blocks with
  | nil => exact h
  | cons b blocks ih =>
    rw [List.reverse_cons, allOf_append]
    exact ⟨ih h.2, h.1, trivial⟩

theorem OpenTag.all_close {tag : OpenTag} (htag : P tag.construct) {body : List Block} (hbody : AllOf P body) :
    (tag.close body).All P := by
  cases tag <;> exact ⟨htag, hbody⟩

/-- The end of a loop or a binding closes the innermost tag. -/
theorem exists_of_assemble_close {opened : List (OpenTag × List Block)} {done : List Block} {k : Construct}
    (hk : k = .closeLoop ∨ k = .closeWith) {source : List Char} {pieces : List (Piece Construct)}
    {blocks : List Block} (h : assemble opened done (.mark k source :: pieces) = .ok blocks) :
    ∃ tag before outer, opened = (tag, before) :: outer ∧
      assemble outer (tag.close done.reverse :: before) pieces = .ok blocks := by
  rcases hk with rfl | rfl
  · match opened with
    | [] => cases h
    | (.loop index item collection, before) :: outer => exact ⟨_, before, outer, rfl, h⟩
    | (.bind bindings, before) :: outer => cases h
  · match opened with
    | [] => cases h
    | (.loop index item collection, before) :: outer => cases h
    | (.bind bindings, before) :: outer => exact ⟨_, before, outer, rfl, h⟩

/-- A tree is made of the tags among the pieces that it is put together from. -/
theorem allOf_assemble {pieces : List (Piece Construct)} (hpieces : ∀ k ∈ tagsOf pieces, P k)
    {opened : List (OpenTag × List Block)} (hopened : ∀ o ∈ opened, P o.1.construct ∧ AllOf P o.2)
    {done : List Block} (hdone : AllOf P done) {blocks : List Block}
    (h : assemble opened done pieces = .ok blocks) : AllOf P blocks := by
  induction pieces generalizing opened done with
  | nil =>
    cases opened with
    | nil =>
      cases h
      exact allOf_reverse hdone
    | cons o opened => cases h
  | cons piece pieces ih =>
    have hadd {b : Block} {parts : List Block} (hb : b.All P) (hparts : AllOf P parts) : AllOf P (b :: parts) :=
      ⟨hb, hparts⟩
    have hnil : AllOf P [] := trivial
    cases piece with
    | char c => exact ih hpieces hopened (hadd (b := .char c) trivial hdone) h
    | mark k source =>
      have hk : P k := hpieces k List.mem_cons_self
      have hrest : ∀ k ∈ tagsOf pieces, P k := fun k hk => hpieces k (List.mem_cons_of_mem _ hk)
      have hopen (tag : OpenTag) (htag : P tag.construct) :
          ∀ o ∈ (tag, done) :: opened, P o.1.construct ∧ AllOf P o.2 := fun o ho => by
        rcases List.mem_cons.mp ho with rfl | ho
        · exact ⟨htag, hdone⟩
        · exact hopened o ho
      have hclose (hclosing : k = .closeLoop ∨ k = .closeWith) : AllOf P blocks := by
        obtain ⟨tag, before, outer, rfl, houter⟩ := exists_of_assemble_close hclosing h
        obtain ⟨htag, hbefore⟩ := hopened _ List.mem_cons_self
        exact ih hrest (fun o ho => hopened o (List.mem_cons_of_mem _ ho))
          (hadd (OpenTag.all_close htag (allOf_reverse hdone)) hbefore) houter
      cases k with
      | brace => exact ih hrest hopened (hadd (b := .brace) hk hdone) h
      | «show» n => exact ih hrest hopened (hadd (b := .show n) hk hdone) h
      | openLoop index item collection => exact ih hrest (hopen (.loop index item collection) hk) hnil h
      | openWith bindings => exact ih hrest (hopen (.bind bindings) hk) hnil h
      | closeLoop => exact hclose (.inl rfl)
      | closeWith => exact hclose (.inr rfl)

end

/-- What a tag is in a text without loops, which `braced` says whether it prints braces; then no name may share the
slot of the brace. -/
structure Construct.IsUnlooped (braced : Prop) (k : Construct) : Prop where
  notLoop : k.isLoop = false
  counted : k = .brace → braced
  apart : braced → ∀ n ∈ k.names, slotOf n ≠ slotOf braceName

/-! ### What bindings show -/

theorem Binding.markup_display {b : Binding} {out : List Char} (h : b.display = .ok out) :
    Stencil.markup out = [] := by
  cases b with
  | value v =>
    rw [Binding.display] at h
    split at h
    · cases h
    · cases h
      exact v.markup_display
  | builtin shown kind =>
    cases h
    exact markup_escapeMarkup _
  | missing name =>
    cases h
    rfl

/-- Whether a run fails because a value of its data cannot be shown. -/
def Unshown (d : Mapping) (e : RunFault) : Prop :=
  ∃ fault, e = .unshown fault ∧ ∃ p ∈ d, p.2.showFault? = some fault

/-- Whether a name that cannot be shown stands for a value of some data. -/
def Binding.IsFed (d : Mapping) : Binding → Prop
  | value v => ∀ fault, v.showFault? = some fault → ∃ p ∈ d, p.2.showFault? = some fault
  | builtin _ _ | missing _ => True

theorem Binding.IsFed.of_str (d : Mapping) (s : String) : (Binding.value (.str s)).IsFed d :=
  fun _ h => nomatch h

theorem Binding.IsFed.unshown {d : Mapping} {b : Binding} (h : b.IsFed d) {e : RunFault}
    (he : b.display = .error e) : Unshown d e := by
  cases b with
  | value v =>
    rw [Binding.display] at he
    split at he
    · next fault hfault =>
      cases he
      exact ⟨fault, rfl, h fault hfault⟩
    · cases he
  | builtin shown kind => cases he
  | missing name => cases he

/-! ### Environments -/

theorem mem_of_lookup {α β : Type} [BEq α] [LawfulBEq α] {l : List (α × β)} {key : α} {b : β}
    (h : l.lookup key = some b) : (key, b) ∈ l := by
  obtain ⟨before, behind, rfl, _⟩ := List.lookup_eq_some_iff.mp h
  exact List.mem_append_right before List.mem_cons_self

/-- Whether all values around a place are from some data, which says nothing of the brace, and the brace is still
the brace if it is printed. -/
structure Env.IsFed (d : Mapping) (braced : Prop) (env : Env) : Prop where
  data : ∀ p ∈ env.data, (Binding.value p.2).IsFed d
  slots : ∀ f ∈ env.frames, ∀ s ∈ f.slots, ∀ b, s.2 = some b → b.IsFed d
  hidden : Mapping.get? env.data (.str braceName) = none
  brace : braced → env.knows braceName = true → env.lookup braceName = .value (.str "\x7b")

namespace Env.IsFed

variable {d : Mapping} {braced : Prop} {env : Env}

theorem lookup (h : env.IsFed d braced) (name : String) : (env.lookup name).IsFed d := by
  unfold Env.lookup
  split
  · trivial
  · next f given hfind =>
    obtain ⟨g, hg, hgiven⟩ := List.exists_of_findSome?_eq_some hfind
    obtain ⟨_, _, hpair⟩ := Option.map_eq_some_iff.mp hgiven
    obtain rfl : g = f := congrArg Prod.fst hpair
    split
    · next b hslot =>
      exact h.slots g hg _ (mem_of_lookup (Option.join_eq_some_iff.mp hslot)) b rfl
    · split <;> trivial

theorem eval (h : env.IsFed d braced) (e : Expr) : (env.eval e).IsFed d := by
  cases e with
  | name n => exact h.lookup n
  | nothing => exact fun _ hfault => nomatch hfault
  | literal value => exact .of_str d value

theorem resolve (h : env.IsFed d braced) {name : String} {b : Binding}
    (hb : Target.resolve env.data name = some b) : b.IsFed d := by
  unfold Target.resolve at hb
  split at hb
  · next v hv =>
    cases hb
    obtain ⟨p, hp, rfl⟩ := Option.map_eq_some_iff.mp hv
    exact h.data p (List.mem_of_find?_eq_some hp)
  · have hglobal : ∀ p ∈ globals, p.2.IsFed d := by
      intro p hp
      rcases List.mem_cons.mp hp with rfl | hp
      · exact .of_str d "\x7b"
      · have hshown : ∀ p ∈ builtins, ∃ shown kind, p.2 = .builtin shown kind := by simp [builtins]
        obtain ⟨shown, kind, heq⟩ := hshown p hp
        rw [heq]
        trivial
    exact hglobal _ (mem_of_lookup hb)

/-- A tag that binds values of the data to names apart from the brace changes neither. -/
theorem enter (h : env.IsFed d braced) {given : List (String × Binding)} (hgiven : ∀ g ∈ given, g.2.IsFed d)
    {body : List Block} (hnames : braced → ∀ g ∈ given, slotOf g.1 ≠ slotOf braceName)
    (hbody : braced → ∀ n ∈ body.flatMap Block.ownNames, slotOf n = slotOf braceName → n = braceName)
    (early : Bool) : (env.enter given early body).IsFed d braced where
  data := h.data
  slots := by
    intro f hf s hs b hb
    rw [Env.enter_eq] at hf
    rcases List.mem_cons.mp hf with rfl | hf
    · obtain ⟨p, hp, rfl⟩ := List.mem_map.mp (List.mem_reverse.mp hs)
      rcases Env.mem_found.mp hp with ⟨g, hg, rfl⟩ | ⟨n, -, rfl⟩
      · obtain rfl := Option.some.inj hb
        exact hgiven g hg
      · exact h.resolve hb
    · exact h.slots f hf s hs b hb
  hidden := h.hidden
  brace := by
    intro hbraced hknows
    have hunbound : given.reverse.lookup braceName = none := by
      rw [lookup_eq_none_iff_notMem]
      intro hmem
      obtain ⟨g, hg, hname⟩ := List.mem_map.mp hmem
      exact hnames hbraced g (List.mem_reverse.mp hg) (congrArg slotOf hname)
    rw [Env.lookup_enter, hunbound]
    · dsimp only
      split
      · rw [Target.resolve, h.hidden]
        rfl
      · next hfresh =>
        rw [lookup_reverse_eq_none_iff, lookup_eq_none_iff_notMem] at hunbound
        exact h.brace hbraced (((Env.knows_enter.mp hknows).resolve_left hunbound).resolve_left hfresh)
    · intro p hp hslot
      rcases Env.mem_found.mp hp with ⟨g, hg, rfl⟩ | ⟨n, hn, rfl⟩
      · exact absurd hslot (hnames hbraced g hg)
      · exact hbody hbraced n (Env.mem_freshNames.mp hn).1 hslot

end Env.IsFed

/-! ### Runs -/

/-- Whether a run shows no other markup than that given, or fails because a value of the data cannot be shown. -/
def ShowsMarkup (d : Mapping) (marks : List Char) : Except RunFault (List Char) → Prop
  | .ok out => Stencil.markup out = marks
  | .error e => Unshown d e

section

variable {d : Mapping} {braced : Prop}

theorem slotOf_of_mem_ownNames (hbraced : braced) {blocks : List Block} (h : AllOf (·.IsUnlooped braced) blocks)
    {name : String} (hname : name ∈ blocks.flatMap Block.ownNames) (hslot : slotOf name = slotOf braceName) :
    name = braceName := by
  induction blocks with
  | nil => cases hname
  | cons b blocks ih =>
    rw [List.flatMap_cons] at hname
    refine (List.mem_append.mp hname).elim (fun hname => ?_) (ih h.2)
    cases b with
    | char c => cases hname
    | brace => exact List.mem_singleton.mp hname
    | «show» n =>
      obtain rfl := List.mem_singleton.mp hname
      exact absurd hslot (h.1.apart hbraced _ List.mem_cons_self)
    | loop index item collection body => exact absurd h.1.1.notLoop (by simp [Construct.isLoop])
    | bind bindings body =>
      obtain ⟨⟨k, e⟩, hb, he⟩ := List.mem_filterMap.mp hname
      refine absurd hslot (h.1.1.apart hbraced name (List.mem_flatMap.mpr ⟨(k, e), hb, ?_⟩))
      cases e with
      | name n =>
        obtain rfl := Option.some.inj he
        simp [Expr.names]
      | nothing => cases he
      | literal v => cases he

mutual

theorem run_block_markup {env : Env} (henv : env.IsFed d braced) :
    (b : Block) → b.All (·.IsUnlooped braced) → (∀ n ∈ b.ownNames, env.knows n = true) →
      ShowsMarkup d b.markup (b.run env)
  | .char c, _, _ => by
    rw [Block.run]
    rfl
  | .brace, h, hknows => by
    rw [Block.run, henv.brace (h.counted rfl) (hknows _ List.mem_cons_self)]
    rfl
  | .show n, _, _ => by
    rw [Block.run, Block.markup]
    cases h : (env.lookup n).display with
    | ok out => exact Binding.markup_display h
    | error e => exact (henv.lookup n).unshown h
  | .loop index item collection body, h, _ => absurd h.1.notLoop (by simp [Construct.isLoop])
  | .bind bindings body, h, _ => by
    rw [Block.run, Block.markup]
    refine runAll_markup (henv.enter (fun g hg => ?_) (fun hbraced g hg => ?_)
      (fun hbraced n hn => slotOf_of_mem_ownNames hbraced h.2 hn) false) body h.2
      fun n hn => Env.knows_of_mem_ownNames hn
    · obtain ⟨b, _, rfl⟩ := List.mem_map.mp hg
      exact henv.eval b.2
    · obtain ⟨b, hb, rfl⟩ := List.mem_map.mp hg
      exact h.1.apart hbraced b.1 (List.mem_flatMap.mpr ⟨b, hb, List.mem_cons_self⟩)

/-- Whatever the names around them mean, parts without loops show their own markup only. -/
theorem runAll_markup {env : Env} (henv : env.IsFed d braced) :
    (blocks : List Block) → AllOf (·.IsUnlooped braced) blocks →
      (∀ n ∈ blocks.flatMap Block.ownNames, env.knows n = true) →
      ShowsMarkup d (markupOf blocks) (runAll env blocks)
  | [], _, _ => rfl
  | b :: blocks, h, hknows => by
    rw [List.flatMap_cons] at hknows
    have hfirst := run_block_markup henv b h.1 fun n hn => hknows n (List.mem_append_left _ hn)
    have hrest := runAll_markup henv blocks h.2 fun n hn => hknows n (List.mem_append_right _ hn)
    rw [runAll, markupOf]
    cases hrun : b.run env with
    | error e => rwa [hrun] at hfirst
    | ok out =>
      rw [hrun] at hfirst
      cases hmore : runAll env blocks with
      | error e => rwa [hmore] at hrest
      | ok more =>
        rw [hmore] at hrest
        exact (markup_append out more).trans (hfirst ▸ hrest ▸ rfl)

end

end

/-! ### Whole texts -/

/-- How two runs end whose data differ in values alone: with one fault, or with outputs of one markup; else each
that fails does so because a value of its data cannot be shown. -/
def RunAlike (d d' : Mapping) :
    Except RunFault (List Char) → Except RunFault (List Char) → Prop
  | .ok out, .ok out' => Stencil.markup out = Stencil.markup out'
  | .error e, .error e' => e = e' ∨ Unshown d e ∧ Unshown d' e'
  | .error e, .ok _ => Unshown d e
  | .ok _, .error e => Unshown d' e

theorem ShowsMarkup.runAlike {d d' : Mapping} {marks : List Char} {r r' : Except RunFault (List Char)}
    (h : ShowsMarkup d marks r) (h' : ShowsMarkup d' marks r') : RunAlike d d' r r' := by
  cases r with
  | ok out =>
    cases r' with
    | ok out' => exact Eq.trans h (Eq.symm h')
    | error e' => exact h'
  | error e =>
    cases r' with
    | ok out' => exact h
    | error e' => exact .inr ⟨h, h'⟩

/-- Data from which the name of the brace is erased is seen from the outside of all tags. -/
theorem isFed_start (d : Mapping) (braced : Prop) : Env.IsFed d braced ⟨[], Mapping.erase d (.str braceName)⟩ where
  data p hp _ hfault := ⟨p, (List.mem_filter.mp hp).1, hfault⟩
  slots _ hf := absurd hf List.not_mem_nil
  hidden := Mapping.get?_erase_self d _
  brace _ hknows := absurd hknows Bool.false_ne_true

/-- The run of a tree without loops shows its own markup only, once it has begun. -/
theorem showsMarkup_enter {braced : Prop} {blocks : List Block} (h : AllOf (·.IsUnlooped braced) blocks) (d : Mapping) :
    ShowsMarkup d (markupOf blocks)
      (runAll (Env.enter ⟨[], Mapping.erase d (.str braceName)⟩ [] true blocks) blocks) :=
  runAll_markup ((isFed_start d braced).enter (fun _ hg => absurd hg List.not_mem_nil)
      (fun _ _ hg => absurd hg List.not_mem_nil) (fun hbraced _ hn => slotOf_of_mem_ownNames hbraced h hn) true)
    blocks h fun _ hn => Env.knows_of_mem_ownNames hn

end Target

end Stencil
