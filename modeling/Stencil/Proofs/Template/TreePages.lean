import Stencil.Proofs.Template.Steps
import Stencil.Proofs.Template.TreeRounds

/-! Pages printed from trees are compiled. The first pass converts the loops and then the placeholders,
and comes upon no remark and no component; the second pass finds no mark at all and changes nothing. -/
namespace Stencil.Template

open Text (IsName Piece Recogniser)
open Target (Construct)
open Directive (opener)

/-- What a placeholder becomes, where `bound` tells the names that stand for something. -/
def variableText (bound : String → Bool) (name : String) : List Char :=
  if bound name then (Construct.show name).text else notFound name

theorem notFound_eq (name : String) :
    notFound name = '<' :: ("!-- Variable ".toList ++ name.toList ++ " not found -->".toList) := by
  change "<!-- ".toList ++ (s!"Variable {name} not found").toList ++ " -->".toList = _
  simp [toString]

namespace Tree

variable {T : Tree} {k : Nat}

/-- A directive that is read at no placeholder and at no part of a loop is not read in a stage. -/
theorem skips_stage {α : Type} {p : Recogniser α} (hp : NeedsMark p)
    (hname : ∀ name, IsTreeName name → ∀ s, p.read (opener name.toList (':' :: '>' :: s)) = none)
    (hfor : ∀ s, p.read (opener "for".toList s) = none)
    (hend : ∀ s, p.read (opener "endfor".toList (':' :: '>' :: s)) = none)
    (hT : T.Valid) {s : List Char} (hs : s.head? ≠ some ':') : p.Skips (T.stage k) s := by
  induction T generalizing s with
  | done => exact Recogniser.skips_nil s
  | text t rest ih =>
    obtain ⟨hmark, -, -, hrest, hvalid⟩ := hT
    exact Recogniser.skips_append ((Unmarked.protect hmark (head_stage hrest hs)).skips hp)
      (ih hvalid hs)
  | var name rest ih =>
    exact Recogniser.skips_append (skips_placeholder hp hT.1 (hname name hT.1 _)) (ih hT.2 hs)
  | loop item index collection body rest ihbody ih =>
    obtain ⟨hitem, hindex, hcollection, -, hbody, hvalid⟩ := hT
    refine Recogniser.skips_append ?_ (ih hvalid hs)
    split
    · have hopen := isSound_openLoop hitem hindex hcollection
      have hclose := unmarked_tag (k := .closeLoop) trivial (rest.stage k ++ s)
      have hbody := ihbody hbody (s := Construct.closeLoop.text ++ (rest.stage k ++ s))
        (by simp [Construct.text_closeLoop])
      exact Recogniser.skips_append ((unmarked_tag hopen _).skips hp)
        (Recogniser.skips_append hbody (hclose.skips hp))
    · have hfooter : (loopFooter ++ (rest.stage k ++ s)).head? ≠ some ':' := by
        rw [footer_append]
        simp [opener]
      have hheader := skips_header hp hitem hindex hcollection
        (s := body.stage k ++ loopFooter ++ (rest.stage k ++ s)) (by rw [header_append]; exact hfor _)
      exact Recogniser.skips_append hheader
        (Recogniser.skips_append (ihbody hbody hfooter) (skips_footer hp (hend _)))

/-- A printed page declares no layout. -/
theorem search_layout (hT : T.Valid) : Directive.layout.search (protect T.print) = none := by
  rw [protect_print hT]
  refine Recogniser.search_of_skips ?_
  refine skips_stage Directive.layout_needsMark (fun name h s => ?_) (fun s => ?_) (fun s => ?_) hT
    (by simp)
  · exact Directive.readLayout_opener h.isName (.inr rfl)
  · exact Directive.readLayout_opener isName_for (.inl (by decide))
  · exact Directive.readLayout_opener isName_endfor (.inl (by decide))

/-- A page uses no component. -/
theorem skips_component (hT : T.Valid) : Directive.component.Skips (T.tagged placeholderFor) [] := by
  rw [← stage_eq_tagged (Nat.le_refl T.height)]
  refine skips_stage Directive.component_needsMark (fun name h s => ?_) (fun s => ?_) (fun s => ?_)
    hT (by simp)
  · exact Directive.readComponent_opener h.isName (h.ne_keyword (by decide)) _
  · exact Directive.readComponent_opener isName_for (by decide) s
  · exact Directive.readComponent_opener isName_endfor (by decide) _

/-! ### No remarks and no carriage returns -/

/-- Whether a character stands neither in texts of a tree nor in tags. -/
def isStray (c : Char) : Bool := c == '#' || c == '\r'

variable {c : Char}

theorem stray_cases (hc : isStray c = true) : c = '#' ∨ c = '\r' := by
  simpa [isStray] using hc

theorem stray_notMem_name (hc : isStray c = true) {name : String} (h : IsTreeName name) :
    c ∉ name.toList := by
  refine h.notMem ?_
  rcases stray_cases hc with rfl | rfl <;> decide

theorem stray_notMem_protect (hc : isStray c = true) {s : List Char} (h : c ∉ s) :
    c ∉ protect s := by
  induction s with
  | nil => exact List.not_mem_nil
  | cons d s ih =>
    rw [List.mem_cons, not_or] at h
    by_cases hd : d = '{'
    · subst hd
      rw [protect_cons_brace]
      refine List.not_mem_append ?_ (ih h.2)
      rcases stray_cases hc with rfl | rfl <;> decide
    · rw [protect_cons s hd, List.mem_cons, not_or]
      exact ⟨h.1, ih h.2⟩

theorem stray_notMem_openLoop (hc : isStray c = true) {index item collection : String}
    (hindex : IsTreeName index) (hitem : IsTreeName item) (hcollection : IsTreeName collection) :
    c ∉ (Construct.openLoop index item collection).text := by
  have hindex := stray_notMem_name hc hindex
  have hitem := stray_notMem_name hc hitem
  have hcollection := stray_notMem_name hc hcollection
  rw [Construct.text_openLoop]
  simp only [List.mem_append, hindex, hitem, hcollection, or_false]
  rcases stray_cases hc with rfl | rfl <;> decide

theorem stray_notMem_closeLoop (hc : isStray c = true) : c ∉ Construct.closeLoop.text := by
  rcases stray_cases hc with rfl | rfl <;> decide

/-- No stray character is in a page if none is in its placeholders. -/
theorem stray_notMem_tagged (hc : isStray c = true) {put : String → List Char} (hT : T.Valid)
    (hput : ∀ name, IsTreeName name → c ∉ put name) : c ∉ T.tagged put := by
  induction T with
  | done => exact List.not_mem_nil
  | text t rest ih =>
    obtain ⟨-, hsign, hreturn, -, hvalid⟩ := hT
    have ht : c ∉ t := by
      rcases stray_cases hc with rfl | rfl
      · exact hsign
      · exact hreturn
    exact List.not_mem_append (stray_notMem_protect hc ht) (ih hvalid)
  | var name rest ih => exact List.not_mem_append (hput name hT.1) (ih hT.2)
  | loop item index collection body rest ihbody ih =>
    obtain ⟨hitem, hindex, hcollection, -, hbody, hvalid⟩ := hT
    exact List.not_mem_append (List.not_mem_append
      (stray_notMem_openLoop hc hindex hitem hcollection)
      (List.not_mem_append (ihbody hbody) (stray_notMem_closeLoop hc))) (ih hvalid)

theorem stray_notMem_placeholder (hc : isStray c = true) {name : String} (h : IsTreeName name) :
    c ∉ placeholderFor name := by
  have hname := stray_notMem_name hc h
  unfold placeholderFor
  simp only [List.mem_append, hname, or_false]
  rcases stray_cases hc with rfl | rfl <;> decide

theorem stray_notMem_variableText (hc : isStray c = true) (bound : String → Bool) {name : String}
    (h : IsTreeName name) : c ∉ variableText bound name := by
  have hname := stray_notMem_name hc h
  unfold variableText
  split
  · rw [Construct.text_show]
    simp only [List.mem_append, hname, or_false]
    rcases stray_cases hc with rfl | rfl <;> decide
  · rw [notFound_eq]
    simp only [List.mem_cons, List.mem_append, hname, or_false]
    rcases stray_cases hc with rfl | rfl <;> decide

/-! ### The placeholders -/

theorem placeholderText_eq {scope : Scope} {name : String} (h : IsTreeName name)
    (source : List Char) : placeholderText scope name source = variableText scope.isBound name := by
  have hend : name ≠ loopEndKeyword := by
    rintro rfl
    exact h.notKeyword (by decide)
  unfold placeholderText variableText
  rw [if_neg hend, h.renderable]
  cases scope.isBound name <;> rfl

/-- Behind a text stands no colon. -/
theorem head_tagged (hT : T.isText = false) {s : List Char} (hs : s.head? ≠ some ':') :
    (T.tagged placeholderFor ++ s).head? ≠ some ':' := by
  rw [← stage_eq_tagged (Nat.le_refl T.height)]
  exact head_stage hT hs

/-- All placeholders of a page converted. -/
theorem replace_placeholders (hT : T.Valid) (scope : Scope) {s : List Char}
    (hs : s.head? ≠ some ':') :
    Directive.placeholder.replace (placeholderText scope) (T.tagged placeholderFor ++ s) =
      T.tagged (variableText scope.isBound)
        ++ Directive.placeholder.replace (placeholderText scope) s := by
  induction T generalizing s with
  | done => rfl
  | text t rest ih =>
    obtain ⟨hmark, -, -, hrest, hvalid⟩ := hT
    have hskips := (Unmarked.protect hmark (head_tagged hrest hs)).skips
      Directive.placeholder_needsMark
    rw [tagged, tagged, List.append_assoc, Recogniser.replace_append_of_skips hskips,
      ih hvalid hs, List.append_assoc]
  | var name rest ih =>
    obtain ⟨hname, hvalid⟩ := hT
    have hread : Directive.placeholder.read
        (placeholderFor name ++ (rest.tagged placeholderFor ++ s)) =
        some (name, rest.tagged placeholderFor ++ s) := by
      rw [placeholder_append, Directive.readPlaceholder_opener hname.isName, String.ofList_toList]
    rw [tagged, tagged, List.append_assoc, Recogniser.replace_append_of_read hread,
      placeholderText_eq hname, ih hvalid hs, List.append_assoc]
  | loop item index collection body rest ihbody ih =>
    obtain ⟨hitem, hindex, hcollection, -, hbody, hvalid⟩ := hT
    have hopen := unmarked_tag (isSound_openLoop hitem hindex hcollection)
      (body.tagged placeholderFor ++ (Construct.closeLoop.text ++
        (rest.tagged placeholderFor ++ s)))
    have hclose := unmarked_tag (k := .closeLoop) trivial (rest.tagged placeholderFor ++ s)
    have hbody := ihbody hbody (s := Construct.closeLoop.text ++ (rest.tagged placeholderFor ++ s))
      (by simp [Construct.text_closeLoop])
    rw [tagged, tagged, List.append_assoc, List.append_assoc, List.append_assoc,
      Recogniser.replace_append_of_skips (hopen.skips Directive.placeholder_needsMark), hbody,
      Recogniser.replace_append_of_skips (hclose.skips Directive.placeholder_needsMark),
      ih hvalid hs]
    simp only [List.append_assoc]

/-! ### Nothing is left for the second pass -/

theorem head_compiled (bound : String → Bool) (hT : T.isText = false) {s : List Char}
    (hs : s.head? ≠ some ':') : (T.tagged (variableText bound) ++ s).head? ≠ some ':' := by
  cases T with
  | done => exact hs
  | text t rest => cases hT
  | var name rest =>
    rw [tagged, variableText]
    split
    · simp [Construct.text_show]
    · rw [notFound_eq]
      simp
  | loop item index collection body rest =>
    obtain ⟨t, ht⟩ := (Construct.openLoop (index.getD defaultIndex) item collection).exists_text_eq
    rw [tagged, ht]
    simp

theorem unmarked_notFound {name : String} (h : IsTreeName name) (s : List Char) :
    Unmarked (notFound name) s := by
  have hangle := h.notMem (c := '<') (by decide)
  rw [notFound_eq]
  refine Unmarked.cons (openMark_eq_none_of_head (by simp)) (Unmarked.of_notMem ?_ s)
  simp [hangle]

theorem unmarked_compiled (hT : T.Valid) (bound : String → Bool) {s : List Char}
    (hs : s.head? ≠ some ':') : Unmarked (T.tagged (variableText bound)) s := by
  induction T generalizing s with
  | done => exact Unmarked.nil s
  | text t rest ih =>
    obtain ⟨hmark, -, -, hrest, hvalid⟩ := hT
    exact (Unmarked.protect hmark (head_compiled bound hrest hs)).append (ih hvalid hs)
  | var name rest ih =>
    refine Unmarked.append ?_ (ih hT.2 hs)
    unfold variableText
    split
    · exact unmarked_tag (k := .show name) hT.1.renderable _
    · exact unmarked_notFound hT.1 _
  | loop item index collection body rest ihbody ih =>
    obtain ⟨hitem, hindex, hcollection, -, hbody, hvalid⟩ := hT
    refine Unmarked.append ?_ (ih hvalid hs)
    refine (unmarked_tag (isSound_openLoop hitem hindex hcollection) _).append ?_
    exact (ihbody hbody (by simp [Construct.text_closeLoop])).append
      (unmarked_tag (k := .closeLoop) trivial _)

end Tree

end Stencil.Template
