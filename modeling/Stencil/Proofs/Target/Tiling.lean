import Stencil.Proofs.Pieces
import Stencil.Target.Construct
import Stencil.Template.Scope

/-! Texts made of whole tags. A tag is sound if every name in it can be referred to; a text is tiled if it
falls into plain characters other than an opening brace and whole sound tags. A stretch that a directive
takes out of a text begins and ends at an edge, a character that no sound tag holds. So a tiled text that
is cut at an edge falls into tiled texts. -/
namespace Stencil.Target

open Template (isRenderable)

/-- Whether an expression is a literal, nothing, or a name that can be referred to. -/
def Expr.IsSound : Expr → Prop
  | name n => isRenderable n = true
  | nothing => True
  | literal _ => True

/-- Whether every name in a tag can be referred to. -/
def Construct.IsSound : Construct → Prop
  | brace => True
  | «show» n => isRenderable n = true
  | openLoop index item collection =>
    isRenderable index = true ∧ isRenderable item = true ∧ isRenderable collection = true
  | closeLoop => True
  | openWith bindings =>
    bindings ≠ [] ∧ ∀ b ∈ bindings, isRenderable b.1 = true ∧ b.2.IsSound
  | closeWith => True

/-- A text that splits completely into plain characters other than `{` and whole sound tags. -/
inductive Tiled : List Char → Prop
  | nil : Tiled []
  | char {c : Char} {s : List Char} (hc : c ≠ '{') (hs : Tiled s) : Tiled (c :: s)
  | tag {k : Construct} {s : List Char} (hk : k.IsSound) (hs : Tiled s) : Tiled (k.text ++ s)

/-- The characters at which directives and remarks begin and end. -/
def isEdge (c : Char) : Bool := c == '<' || c == '>' || c == '#'

/-! ### The characters of tags -/

/-- Whether a character is foreign to tags: the edges are, and the carriage return. -/
def isForeign (c : Char) : Bool := isEdge c || c == '\r'

/-- A text of other characters holds no foreign one. -/
theorem foreign_notMem {c : Char} (hc : isForeign c = true) {s : List Char}
    (hs : s.all (fun d => !isForeign d) = true) : c ∉ s := by
  intro hmem
  have := List.all_eq_true.mp hs c hmem
  simp [hc] at this

/-- A character that neither begins nor continues names is no part of any. -/
theorem notMem_name {c : Char} (hstart : Unicode.isIdentifierStart c = false)
    (hcontinue : Unicode.isIdentifierContinue c = false) {n : String} (hn : isRenderable n = true) :
    c ∉ n.toList := by
  have h := ((Template.isRenderable_iff n).mp hn).1
  cases hl : n.toList with
  | nil => simp
  | cons d rest =>
    rw [hl, Unicode.isIdentifier_cons, Bool.and_eq_true, List.all_eq_true] at h
    intro hmem
    rcases List.mem_cons.mp hmem with rfl | hmem
    · simp [hstart] at h
    · have := h.2 c hmem
      simp [hcontinue] at this

theorem foreign_notMem_name {c : Char} (hc : isForeign c = true) {n : String}
    (hn : isRenderable n = true) : c ∉ n.toList := by
  simp only [isForeign, isEdge, Bool.or_eq_true, beq_iff_eq] at hc
  rcases hc with ((rfl | rfl) | rfl) | rfl <;> exact notMem_name (by decide) (by decide) hn

theorem isPlainInLiteral_hex {c : Char} {width n : Nat} (h : c ∈ Text.hex width n) :
    isPlainInLiteral c = true := by
  have hdigit : ∀ d < 16, isPlainInLiteral (Nat.digitChar d) = true := by decide
  induction width generalizing n with
  | zero => simp [Text.hex] at h
  | succ width ih =>
    rcases List.mem_append.mp h with h | h
    · exact ih h
    · obtain rfl := List.mem_singleton.mp h
      exact hdigit (n % 16) (Nat.mod_lt n (by decide))

/-- A literal holds backslashes, and else only what it may hold as it is. -/
theorem isPlainInLiteral_of_mem {c d : Char} (h : c ∈ literalChar d) (hslash : c ≠ '\\') :
    isPlainInLiteral c = true := by
  have hcode {letter : Char} (hletter : isPlainInLiteral letter = true) {width : Nat}
      (h : c ∈ '\\' :: letter :: Text.hex width d.toNat) : isPlainInLiteral c = true := by
    rcases List.mem_cons.mp h with rfl | h
    · exact absurd rfl hslash
    rcases List.mem_cons.mp h with rfl | h
    · exact hletter
    · exact isPlainInLiteral_hex h
  unfold literalChar at h
  split at h
  · next hplain => rwa [List.mem_singleton.mp h]
  unfold Text.codeEscape at h
  dsimp only at h
  split at h
  · exact hcode (by decide) h
  split at h
  · exact hcode (by decide) h
  · exact hcode (by decide) h

theorem foreign_notMem_literalChar {c : Char} (hc : isForeign c = true) (d : Char) :
    c ∉ literalChar d := by
  have hplain : isPlainInLiteral c = false ∧ c ≠ '\\' := by
    simp only [isForeign, isEdge, Bool.or_eq_true, beq_iff_eq] at hc
    rcases hc with ((rfl | rfl) | rfl) | rfl <;> decide
  intro h
  have := isPlainInLiteral_of_mem h hplain.2
  simp [hplain.1] at this

theorem foreign_notMem_expr {c : Char} (hc : isForeign c = true) {e : Expr} (he : e.IsSound) :
    c ∉ e.text := by
  cases e with
  | name n => exact foreign_notMem_name hc he
  | nothing => exact foreign_notMem hc (by decide)
  | literal value =>
    have hquote : c ∉ ['"'] := foreign_notMem hc (by decide)
    refine List.not_mem_append hquote (List.not_mem_append ?_ hquote)
    rw [List.mem_flatMap]
    rintro ⟨d, _, hmem⟩
    exact foreign_notMem_literalChar hc d hmem

theorem foreign_notMem_bindings {c : Char} (hc : isForeign c = true) {bindings : List (String × Expr)}
    (hb : ∀ b ∈ bindings, isRenderable b.1 = true ∧ b.2.IsSound) : c ∉ bindingsText bindings := by
  have hequals : c ∉ ['='] := foreign_notMem hc (by decide)
  have hcomma : c ∉ [',', ' '] := foreign_notMem hc (by decide)
  fun_induction bindingsText bindings with
  | case1 => simp
  | case2 k e =>
    obtain ⟨hk, he⟩ := hb (k, e) (by simp)
    exact List.not_mem_append (foreign_notMem_name hc hk)
      (List.not_mem_append hequals (foreign_notMem_expr hc he))
  | case3 k e rest _ ih =>
    obtain ⟨hk, he⟩ := hb (k, e) (by simp)
    have hrest := ih fun b hmem => hb b (List.mem_cons_of_mem _ hmem)
    exact List.not_mem_append (foreign_notMem_name hc hk) (List.not_mem_append hequals
      (List.not_mem_append (foreign_notMem_expr hc he) (List.not_mem_append hcomma hrest)))

/-- No sound tag holds a foreign character. -/
theorem foreign_notMem_text {c : Char} (hc : isForeign c = true) {k : Construct} (hk : k.IsSound) :
    c ∉ k.text := by
  have fixed {s : List Char} (hs : s.all (fun d => !isForeign d) = true) : c ∉ s := foreign_notMem hc hs
  cases k with
  | brace => exact fixed (by decide)
  | «show» n =>
    exact List.not_mem_append (List.not_mem_append (fixed (by decide)) (foreign_notMem_name hc hk))
      (fixed (by decide))
  | openLoop index item collection =>
    obtain ⟨hindex, hitem, hcollection⟩ := hk
    have hlead := List.not_mem_append (fixed (s := "\x7b% for ".toList) (by decide))
      (foreign_notMem_name hc hindex)
    have hitem := List.not_mem_append
      (List.not_mem_append hlead (fixed (s := ", ".toList) (by decide))) (foreign_notMem_name hc hitem)
    have hcollection := List.not_mem_append
      (List.not_mem_append hitem (fixed (s := " in ".toList) (by decide)))
      (foreign_notMem_name hc hcollection)
    exact List.not_mem_append hcollection (fixed (by decide))
  | closeLoop => exact fixed (by decide)
  | openWith bindings =>
    exact List.not_mem_append
      (List.not_mem_append (fixed (by decide)) (foreign_notMem_bindings hc hk.2)) (fixed (by decide))
  | closeWith => exact fixed (by decide)

theorem edge_notMem_text {c : Char} (hc : isEdge c = true) {k : Construct} (hk : k.IsSound) :
    c ∉ k.text :=
  foreign_notMem_text (by rw [isForeign, hc, Bool.true_or]) hk

theorem return_notMem_text {k : Construct} (hk : k.IsSound) : '\r' ∉ k.text :=
  foreign_notMem_text rfl hk

/-! ### Building and cutting tiled texts -/

theorem Construct.exists_text_eq (k : Construct) : ∃ s, k.text = '{' :: s := by
  cases k <;> exact ⟨_, rfl⟩

theorem Construct.getLast?_text (k : Construct) : k.text.getLast? = some '}' := by
  cases k with
  | brace => decide
  | «show» n => simp [text_show, List.getLast?_cons]
  | openLoop index item collection => simp [text_openLoop, List.getLast?_cons]
  | closeLoop => decide
  | openWith bindings => simp [text_openWith, List.getLast?_cons]
  | closeWith => decide

namespace Tiled

theorem of_plain {s : List Char} (hs : '{' ∉ s) : Tiled s := by
  induction s with
  | nil => exact nil
  | cons c s ih =>
    rw [List.mem_cons, not_or] at hs
    exact char (Ne.symm hs.1) (ih hs.2)

theorem of_tag {k : Construct} (hk : k.IsSound) : Tiled k.text := by
  simpa using tag hk nil

theorem append {s t : List Char} (hs : Tiled s) (ht : Tiled t) : Tiled (s ++ t) := by
  induction hs with
  | nil => exact ht
  | char hc _ ih => exact char hc ih
  | tag hk _ ih => rw [List.append_assoc]; exact tag hk ih

/-- A loaded text is tiled: each of its opening braces became a tag. -/
theorem protect (s : List Char) : Tiled (Template.protect s) := by
  induction s with
  | nil => exact nil
  | cons c s ih =>
    by_cases hc : c = '{'
    · rw [hc, Template.protect_cons_brace]
      exact tag (k := .brace) trivial ih
    · rw [Template.protect_cons s hc]
      exact char hc ih

/-- An edge stands between tags, never inside one, so a cut there leaves whole tags on both sides. -/
theorem cut {c : Char} (hc : isEdge c = true) {a b : List Char} (h : Tiled (a ++ c :: b)) :
    Tiled a ∧ Tiled b := by
  generalize ht : a ++ c :: b = t at h
  induction h generalizing a with
  | nil => simp at ht
  | char hd hs ih =>
    cases a with
    | nil =>
      obtain ⟨rfl, rfl⟩ := List.cons.inj ht
      exact ⟨nil, hs⟩
    | cons d a =>
      obtain ⟨rfl, hs⟩ := List.cons.inj ht
      exact ⟨char hd (ih hs).1, (ih hs).2⟩
  | @tag k s hk hs ih =>
    rcases List.append_eq_append_iff.mp ht with ⟨m, hm, hrest⟩ | ⟨m, rfl, hrest⟩
    · cases m with
      | nil =>
        rw [List.append_nil] at hm
        rw [← hm]
        exact ⟨of_tag hk, (ih (a := []) hrest).2⟩
      | cons d m =>
        obtain ⟨rfl, _⟩ := List.cons.inj hrest
        exact absurd (hm ▸ List.mem_append_right a List.mem_cons_self) (edge_notMem_text hc hk)
    · obtain ⟨ha, hb⟩ := ih hrest.symm
      exact ⟨tag hk ha, hb⟩

/-- A text that begins with an edge. -/
theorem edge {c : Char} (hc : isEdge c = true) {s : List Char} (hs : Tiled s) : Tiled (c :: s) :=
  char (by rintro rfl; simp [isEdge] at hc) hs

/-- A cut in front of an edge. -/
theorem cut_before {c : Char} (hc : isEdge c = true) {a b : List Char} (h : Tiled (a ++ c :: b)) :
    Tiled a ∧ Tiled (c :: b) :=
  ⟨(cut hc h).1, edge hc (cut hc h).2⟩

/-- A cut behind an edge. -/
theorem cut_after {c : Char} (hc : isEdge c = true) {a b : List Char} (h : Tiled (a ++ c :: b)) :
    Tiled (a ++ [c]) ∧ Tiled b :=
  ⟨(cut hc h).1.append (edge hc nil), (cut hc h).2⟩

theorem skipSpace {s : List Char} (h : Tiled s) : Tiled (Text.skipSpace s) := by
  induction h with
  | nil => exact nil
  | @char c s hc hs ih =>
    by_cases hspace : Text.isSpace c = true
    · rw [Text.skipSpace_cons_of_space s hspace]
      exact ih
    · rw [Text.skipSpace_cons_of_not_space s (by simpa using hspace)]
      exact char hc hs
  | @tag k s hk hs _ =>
    have h := tag hk hs
    obtain ⟨r, hr⟩ := k.exists_text_eq
    rw [hr, List.cons_append] at h ⊢
    rwa [Text.skipSpace_cons_of_not_space _ (by decide)]

theorem trimEnd {s : List Char} (h : Tiled s) : Tiled (Text.trimEnd s) := by
  induction h with
  | nil => exact nil
  | @char c s hc hs ih =>
    rw [Text.trimEnd]
    split
    · split
      · exact nil
      · exact char hc nil
    · exact char hc ih
  | @tag k s hk hs ih =>
    by_cases hnil : Text.trimEnd s = []
    · rw [Text.trimEnd_append_of_eq_nil k.text hnil,
        Text.trimEnd_of_getLast? k.getLast?_text (by decide)]
      exact of_tag hk
    · rw [Text.trimEnd_append_of_ne_nil k.text hnil]
      exact tag hk ih

/-- Blanks at the ends are characters of their own, so cutting them off leaves whole tags. -/
theorem strip {s : List Char} (h : Tiled s) : Tiled (Text.strip s) := h.skipSpace.trimEnd

end Tiled

end Stencil.Target
