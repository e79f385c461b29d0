import Mathlib.Algebra.Group.Nat.Defs
import Stencil.Proofs.Target.Tiling
import Stencil.Proofs.Text.PrefixCode
import Stencil.Template.Render

/-! Literals and whole texts. A literal is written as the grammar says, whatever its text is, since every character
in it stands for itself or is given by its code; so all sound tags are, and all tiled texts. A text is read to its
end unless a name in one of its tags holds a mark that is too new, and a name that is bound to a literal shows the
text of the literal. -/
namespace Stencil.Target

open Template (isRenderable)
open Text (Piece hex)
open Text.Utf8 (foldNewlines)

/-! ### Codes of characters -/

theorem hexValue?_digitChar : ∀ d < 16, hexValue? (Nat.digitChar d) = some d := by decide

/-- Digits are read as the number that they write, behind the number of the digits before them. -/
theorem takeHex_hex {width n : Nat} (h : n < 16 ^ width) (more m : Nat) (s : List Char) :
    takeHex (width + more) m (hex width n ++ s) = takeHex more (m * 16 ^ width + n) s := by
  induction width generalizing n more s with
  | zero =>
    obtain rfl : n = 0 := by simpa using h
    simp [hex]
  | succ width ih =>
    have hhigh : n / 16 < 16 ^ width := by
      rw [Nat.pow_succ] at h
      exact Nat.div_lt_of_lt_mul (by omega)
    have hdigit := hexValue?_digitChar (n % 16) (Nat.mod_lt n (by decide))
    rw [hex, List.append_assoc, Nat.add_right_comm, Nat.add_assoc, ih hhigh, List.singleton_append,
      takeHex, hdigit, Option.bind_some, Nat.pow_succ]
    congr 1
    rw [Nat.add_mul, Nat.mul_assoc]
    omega

theorem takeHex_code {width : Nat} {c : Char} (h : c.toNat < 16 ^ width) (s : List Char) :
    takeHex width 0 (hex width c.toNat ++ s) = some (c.toNat, s) := by
  have := takeHex_hex h 0 0 s
  rwa [Nat.zero_mul, Nat.zero_add, takeHex] at this

/-! ### Literals -/

theorem writesChar_code (letter : Char) {width : Nat} (hwidth : escapeWidth? letter = some width)
    {c : Char} (hc : c.toNat < 16 ^ width) : WritesChar c ('\\' :: letter :: hex width c.toNat) := by
  refine .code hwidth ?_
  have := takeHex_code hc []
  rwa [List.append_nil] at this

theorem writesChar_literalChar (c : Char) : WritesChar c (literalChar c) := by
  unfold literalChar
  split
  · next hplain => exact .plain hplain
  · have hrange := Text.Utf8.toNat_range c
    unfold Text.codeEscape
    dsimp only
    split
    · next hsmall => exact writesChar_code 'x' rfl hsmall
    split
    · next hsmall => exact writesChar_code 'u' rfl hsmall
    · exact writesChar_code 'U' rfl (show c.toNat < 16 ^ 8 by omega)

theorem writesText_literal (v : List Char) : WritesText v (v.flatMap literalChar) := by
  induction v with
  | nil => exact .nil
  | cons c v ih =>
    rw [List.flatMap_cons]
    exact .cons (writesChar_literalChar c) ih

/-- A literal spells one text. -/
theorem literalText_injective : Function.Injective literalText := by
  intro v w h
  have hread (value : List Char) (hfuel : value.length < max v.length w.length + 1) :
      readLiteral '"' (max v.length w.length + 1) (value.flatMap literalChar ++ ['"']) =
        some (value, []) := readLiteral_writesText (writesText_literal value) hfuel []
  have hv := hread v (by omega)
  rw [(List.cons.inj h).2, hread w (by omega)] at hv
  exact (Prod.mk.inj (Option.some.inj hv)).1.symm

/-- A part of a literal: a character as it stands, or a backslash, a letter, and as many digits as the letter
announces. -/
inductive IsLiteralPart : List Char → Prop
  | plain {c : Char} (hc : isPlainInLiteral c = true) : IsLiteralPart [c]
  | code {letter : Char} {width : Nat} {digits : List Char} (hwidth : escapeWidth? letter = some width)
      (hlength : digits.length = width) (hdigits : ∀ d ∈ digits, (hexValue? d).isSome = true) :
      IsLiteralPart ('\\' :: letter :: digits)

theorem isSome_hexValue?_of_mem {c : Char} {width n : Nat} (h : c ∈ hex width n) :
    (hexValue? c).isSome = true := by
  induction width generalizing n with
  | zero => simp [hex] at h
  | succ width ih =>
    rcases List.mem_append.mp h with h | h
    · exact ih h
    · rw [List.mem_singleton.mp h, hexValue?_digitChar _ (Nat.mod_lt n (by decide))]
      rfl

/-- Each character of a text makes one part of its literal. -/
theorem isLiteralPart_literalChar (c : Char) : IsLiteralPart (literalChar c) := by
  have hcode {letter : Char} {width : Nat} (hwidth : escapeWidth? letter = some width) :
      IsLiteralPart ('\\' :: letter :: hex width c.toNat) :=
    .code hwidth (Text.length_hex _ _) fun _ => isSome_hexValue?_of_mem
  unfold literalChar
  split
  · next hplain => exact .plain hplain
  · unfold Text.codeEscape
    dsimp only
    split
    · exact hcode rfl
    split
    · exact hcode rfl
    · exact hcode rfl

/-! ### Sound tags and tiled texts -/

theorem writesExpr_text {e : Expr} (he : e.IsSound) : WritesExpr e e.text := by
  cases e with
  | name n => exact .name he
  | nothing => exact .nothing
  | literal v => exact .literal (writesText_literal v.toList)

theorem writesBindings_text {bindings : List (String × Expr)} (hne : bindings ≠ [])
    (h : ∀ b ∈ bindings, isRenderable b.1 = true ∧ b.2.IsSound) :
    WritesBindings bindings (bindingsText bindings) := by
  fun_induction bindingsText bindings with
  | case1 => exact absurd rfl hne
  | case2 k e =>
    obtain ⟨hk, he⟩ := h (k, e) (by simp)
    exact .last hk (writesExpr_text he)
  | case3 k e rest hrest ih =>
    obtain ⟨hk, he⟩ := h (k, e) (by simp)
    exact .more hk (writesExpr_text he)
      (ih (fun hnil => hrest hnil) fun b hb => h b (List.mem_cons_of_mem _ hb))

/-- A sound tag is written as it is spelled. -/
theorem writes_text {k : Construct} (hk : k.IsSound) : Writes k k.text := by
  cases k with
  | brace => exact .brace
  | «show» n => exact .show hk
  | openLoop index item collection => exact .openLoop hk.1 hk.2.1 hk.2.2
  | closeLoop => exact .closeLoop
  | openWith bindings => exact .openWith (writesBindings_text hk.1 hk.2)
  | closeWith => exact .closeWith

/-- The pieces of a text that are as they are spelled: plain characters and sound tags. -/
def IsSpelled (pieces : List (Piece Construct)) : Prop :=
  ∀ k x, .mark k x ∈ pieces → k.IsSound ∧ x = k.text

theorem Tiled.exists_written {s : List Char} (h : Tiled s) :
    ∃ pieces, Written pieces s ∧ IsSpelled pieces := by
  induction h with
  | nil => exact ⟨[], .nil, fun _ _ hmem => absurd hmem List.not_mem_nil⟩
  | @char c s hc _ ih =>
    obtain ⟨pieces, hwritten, hspelled⟩ := ih
    refine ⟨.char c :: pieces, .char hc hwritten, fun k x hmem => ?_⟩
    exact hspelled k x (by simpa using hmem)
  | @tag k s hk _ ih =>
    obtain ⟨pieces, hwritten, hspelled⟩ := ih
    refine ⟨.mark k k.text :: pieces, .tag (writes_text hk) hwritten, fun k' x hmem => ?_⟩
    rcases List.mem_cons.mp hmem with heq | hmem
    · obtain ⟨rfl, rfl⟩ := Piece.mark.inj heq
      exact ⟨hk, rfl⟩
    · exact hspelled k' x hmem

/-! ### Line ends -/

theorem foldNewlines_cons_of_ne {c : Char} (hc : c ≠ '\r') (s : List Char) :
    foldNewlines (c :: s) = c :: foldNewlines s := by
  rw [foldNewlines, if_neg hc]
  exact fun _ he _ => hc he

theorem foldNewlines_append {x : List Char} (hx : '\r' ∉ x) (s : List Char) :
    foldNewlines (x ++ s) = x ++ foldNewlines s := by
  induction x with
  | nil => rfl
  | cons c x ih =>
    rw [List.mem_cons, not_or] at hx
    rw [List.cons_append, foldNewlines_cons_of_ne (Ne.symm hx.1), ih hx.2]
    rfl

/-- A character that opens no tag is kept, or makes way for a line feed, or goes with the one behind it. -/
theorem foldNewlines_cons {c : Char} (hc : c ≠ '{') (s : List Char) :
    foldNewlines (c :: s) = foldNewlines s ∨
      ∃ d, d ≠ '{' ∧ foldNewlines (c :: s) = d :: foldNewlines s := by
  by_cases hreturn : c = '\r'
  · subst hreturn
    cases s with
    | nil => exact .inr ⟨'\n', by decide, rfl⟩
    | cons d s =>
      by_cases hd : d = '\n'
      · subst hd
        exact .inl (foldNewlines_cons_of_ne (by decide) s).symm
      · refine .inr ⟨'\n', by decide, ?_⟩
        rw [foldNewlines, if_pos rfl]
        exact fun _ _ he => hd (List.cons.inj he).1
  · exact .inr ⟨c, hc, foldNewlines_cons_of_ne hreturn s⟩

theorem Tiled.foldNewlines {s : List Char} (h : Tiled s) : Tiled (foldNewlines s) := by
  induction h with
  | nil => exact .nil
  | char hc _ ih =>
    rcases foldNewlines_cons hc _ with heq | ⟨d, hd, heq⟩ <;> rw [heq]
    · exact ih
    · exact .char hd ih
  | tag hk _ ih =>
    rw [foldNewlines_append (return_notMem_text hk)]
    exact .tag hk ih

/-! ### Marks that are too new -/

/-- Whether a text holds no mark that is too new for names. -/
def IsReadable (s : List Char) : Prop := ∀ c ∈ s, Unicode.isLateMark c = false

-- there are only so many characters, and the instance that tries them all is not the one to run
instance (s : List Char) : Decidable (IsReadable s) :=
  List.decidableBAll (fun c => Unicode.isLateMark c = false) s

theorem isLateMark_of_lt {c : Char} (h : c.toNat < 128) : Unicode.isLateMark c = false := by
  have hrange : ∀ r ∈ Unicode.lateMarkRanges, 128 ≤ r.1 := by decide +kernel
  refine Bool.eq_false_iff.mpr fun hlate => ?_
  obtain ⟨r, hr, hin⟩ := List.any_eq_true.mp (Bool.and_eq_true_iff.mp hlate).2
  simp only [Bool.and_eq_true, decide_eq_true_eq] at hin
  have := hrange r hr
  omega

theorem toNat_lt_of_isPlainInLiteral {c : Char} (h : isPlainInLiteral c = true) : c.toNat < 128 := by
  delta isPlainInLiteral Char.isAlphanum Char.isAlpha Char.isUpper Char.isLower Char.isDigit at h
  simp only [Bool.or_eq_true, Bool.and_eq_true, decide_eq_true_eq, beq_iff_eq, ge_iff_le, UInt32.le_iff_toNat_le] at h
  change c.val.toNat < 128
  rcases h with ((((((⟨_, h⟩ | ⟨_, h⟩) | ⟨_, h⟩) | rfl) | rfl) | rfl) | rfl) | rfl
  · exact Nat.lt_of_le_of_lt h (by decide)
  · exact Nat.lt_of_le_of_lt h (by decide)
  · exact Nat.lt_of_le_of_lt h (by decide)
  all_goals decide

namespace IsReadable

variable {s t : List Char}

theorem append (hs : IsReadable s) (ht : IsReadable t) : IsReadable (s ++ t) := fun c hc =>
  (List.mem_append.mp hc).elim (hs c) (ht c)

theorem of_ascii (h : s.all (fun c => decide (c.toNat < 128)) = true) : IsReadable s := fun c hc =>
  isLateMark_of_lt (of_decide_eq_true (List.all_eq_true.mp h c hc))

theorem of_words (h : ∀ c ∈ s, Unicode.isWord c = true) : IsReadable s := fun c hc =>
  Unicode.isLateMark_of_isWord (h c hc)

theorem text_expr {e : Expr} (h : ∀ n ∈ e.names, IsReadable n.toList) : IsReadable e.text := by
  cases e with
  | name n => exact h n List.mem_cons_self
  | nothing => exact of_ascii (by decide)
  | literal v =>
    have hquote : IsReadable ['"'] := of_ascii (by decide)
    refine hquote.append (IsReadable.append (fun c hc => ?_) hquote)
    obtain ⟨d, -, hd⟩ := List.mem_flatMap.mp hc
    by_cases hslash : c = '\\'
    · rw [hslash]
      decide +kernel
    · exact isLateMark_of_lt (toNat_lt_of_isPlainInLiteral (isPlainInLiteral_of_mem hd hslash))

theorem text_bindings {bindings : List (String × Expr)}
    (h : ∀ n ∈ (Construct.openWith bindings).names, IsReadable n.toList) :
    IsReadable (bindingsText bindings) := by
  have hequals : IsReadable ['='] := of_ascii (by decide)
  have hcomma : IsReadable [',', ' '] := of_ascii (by decide)
  fun_induction bindingsText bindings with
  | case1 => exact of_ascii (by decide)
  | case2 k e =>
    exact (h k (by simp [Construct.names])).append
      (hequals.append (text_expr fun n hn => h n (by simp [Construct.names, hn])))
  | case3 k e rest _ ih =>
    have hrest := ih fun n hn => h n (by
      rw [Construct.names, List.flatMap_cons]
      exact List.mem_append_right _ hn)
    exact (h k (by simp [Construct.names])).append (hequals.append
      ((text_expr fun n hn => h n (by simp [Construct.names, hn])).append (hcomma.append hrest)))

/-- The marks of a tag are those of its names. -/
theorem text_construct {k : Construct} (h : ∀ n ∈ k.names, IsReadable n.toList) : IsReadable k.text := by
  have fixed {s : List Char} (hs : s.all (fun c => decide (c.toNat < 128)) = true) : IsReadable s :=
    of_ascii hs
  cases k with
  | brace => exact fixed (by decide)
  | «show» n =>
    exact ((fixed (by decide)).append (h n (by simp [Construct.names]))).append (fixed (by decide))
  | openLoop index item collection =>
    have hindex := h index (by simp [Construct.names])
    have hitem := h item (by simp [Construct.names])
    have hcollection := h collection (by simp [Construct.names])
    exact ((((((fixed (by decide)).append hindex).append (fixed (by decide))).append hitem).append
      (fixed (by decide))).append hcollection).append (fixed (by decide))
  | closeLoop => exact fixed (by decide)
  | openWith bindings =>
    exact ((fixed (by decide)).append (text_bindings h)).append (fixed (by decide))
  | closeWith => exact fixed (by decide)

end IsReadable

theorem strayIn_eq_none {s : List Char} (h : IsReadable s) (quote : Option Char) (place : Nat) :
    strayIn quote place s = none := by
  fun_induction strayIn quote place s with
  | case1 => rfl
  | case2 => rfl
  | case3 place q d s ih => exact ih fun c hc => h c (by simp [hc])
  | case4 place c s q hc ih => exact ih fun c hc => h c (by simp [hc])
  | case5 place c s hlate => exact absurd (h c List.mem_cons_self) (by simp [hlate])
  | case6 place c s hlate ih => exact ih fun c hc => h c (by simp [hc])

/-- A mark that is too new is found where it stands. -/
theorem strayIn_append {front : List Char} (h : IsReadable front) (hdouble : '"' ∉ front)
    (hsingle : '\'' ∉ front) (place : Nat) {c : Char} (hc : Unicode.isLateMark c = true) (s : List Char) :
    strayIn none place (front ++ c :: s) = some ⟨c, place + front.length⟩ := by
  induction front generalizing place with
  | nil => simp [strayIn, hc]
  | cons d front ih =>
    rw [List.mem_cons, not_or] at hdouble hsingle
    have hquote : (d = '"' || d = '\'') = false := by simp [Ne.symm hdouble.1, Ne.symm hsingle.1]
    rw [List.cons_append, strayIn, if_neg (by simp [h d List.mem_cons_self]), if_neg (by simp [hquote]),
      ih (fun e he => h e (List.mem_cons_of_mem _ he)) hdouble.2 hsingle.2, List.length_cons,
      Nat.add_assoc, Nat.add_comm 1]

/-- Tags without such marks are all read. -/
theorem readable_eq_self {pieces : List (Piece Construct)}
    (h : ∀ k x, .mark k x ∈ pieces → IsReadable x) (place : Nat) :
    readable place pieces = (pieces, none) := by
  induction pieces generalizing place with
  | nil => rfl
  | cons piece pieces ih =>
    have hrest (place : Nat) := ih (fun k x hmem => h k x (List.mem_cons_of_mem _ hmem)) place
    cases piece with
    | char c => simp [readable, hrest]
    | mark k x => simp [readable, hrest, strayIn_eq_none (h k x List.mem_cons_self)]

/-- What is read up to the end is all of the pieces. -/
theorem readable_fst {pieces : List (Piece Construct)} {place : Nat} (h : (readable place pieces).2 = none) :
    (readable place pieces).1 = pieces := by
  induction pieces generalizing place with
  | nil => rfl
  | cons piece pieces ih =>
    cases piece with
    | char c => exact congrArg (Piece.char c :: ·) (ih h)
    | mark k x =>
      rw [readable] at h ⊢
      split at h
      · cases h
      · exact congrArg (Piece.mark k x :: ·) (ih h)

/-- A tree is put together from all of its pieces. -/
theorem assemble_of_treeOf {pieces : List (Piece Construct)} {blocks : List Block}
    (h : treeOf pieces = .ok blocks) : assemble [] [] pieces = .ok blocks := by
  unfold treeOf at h
  split at h
  · split at h <;> cases h
  · next front hread =>
    have hall : front = pieces := by
      rw [← readable_fst (congrArg Prod.snd hread), hread]
    rw [hall] at h
    split at h
    · cases h
    · next hassemble => rw [hassemble, Except.ok.inj h]

/-- Pieces that are as they are spelled are put together if no name in them holds such a mark. -/
theorem treeOf_of_isSpelled {pieces : List (Piece Construct)} (hspelled : IsSpelled pieces)
    (hnames : ∀ k x, .mark k x ∈ pieces → ∀ n ∈ k.names, IsReadable n.toList) {blocks : List Block}
    (h : assemble [] [] pieces = .ok blocks) : treeOf pieces = .ok blocks := by
  have hreadable : ∀ k x, .mark k x ∈ pieces → IsReadable x := fun k x hmem => by
    rw [(hspelled k x hmem).2]
    exact IsReadable.text_construct (hnames k x hmem)
  unfold treeOf
  rw [readable_eq_self hreadable]
  dsimp only
  rw [h]

/-! ### A name bound to a literal -/

/-- The text that shows a name bound to a literal. -/
def boundText (k value : String) : List Char :=
  (Construct.openWith [(k, .literal value)]).text ++
    ((Construct.show k).text ++ Construct.closeWith.text)

/-- The pieces of that text. -/
def boundPieces (k value : String) : List (Piece Construct) :=
  [Construct.openWith [(k, .literal value)], .show k, .closeWith].map fun c => .mark c c.text

section

variable {k : String}

theorem isSound_of_mem_boundPieces (hk : isRenderable k = true) (value : String) {c : Construct}
    (hc : c ∈ [Construct.openWith [(k, .literal value)], .show k, .closeWith]) : c.IsSound := by
  simp only [List.mem_cons, List.not_mem_nil, or_false] at hc
  rcases hc with rfl | rfl | rfl
  · refine ⟨List.cons_ne_nil _ _, fun b hb => ?_⟩
    obtain rfl := List.mem_singleton.mp hb
    exact ⟨hk, trivial⟩
  · exact hk
  · trivial

theorem isSpelled_boundPieces (hk : isRenderable k = true) (value : String) :
    IsSpelled (boundPieces k value) := by
  intro c x hmem
  obtain ⟨c, hc, heq⟩ := List.mem_map.mp hmem
  obtain ⟨rfl, rfl⟩ := Piece.mark.inj heq
  exact ⟨isSound_of_mem_boundPieces hk value hc, rfl⟩

theorem written_boundPieces (hk : isRenderable k = true) (value : String) :
    Written (boundPieces k value) (foldNewlines (boundText k value)) := by
  have hsound {c : Construct} := isSound_of_mem_boundPieces hk value (c := c)
  have hreturn : '\r' ∉ boundText k value :=
    List.not_mem_append (return_notMem_text (hsound (by simp))) (List.not_mem_append
      (return_notMem_text (hsound (by simp))) (return_notMem_text (hsound (by simp))))
  rw [Text.Utf8.foldNewlines_eq_self hreturn]
  exact .tag (writes_text (hsound (by simp))) (.tag (writes_text (hsound (by simp)))
    (.of_tag (writes_text (hsound (by simp)))))

/-- What a tag binds is what its body finds. -/
theorem lookup_enter_bound (env : Env) (k : String) (b : Binding) (early : Bool) :
    (env.enter [(k, b)] early [.show k]).lookup k = b := by
  have hfresh : env.freshNames [(k, b)] [.show k] = [] := by
    simp [Env.freshNames, firstOccurrences, Block.ownNames]
  simp [Env.enter, hfresh, Env.lookup, Frame.slot]

/-- The run of that text shows the text of the literal, whatever else the data says of the name, if the name can be
read. -/
theorem run_boundText (backend : Backend) (hk : isRenderable k = true) (hread : IsReadable k.toList)
    (value : String) (data : Mapping) :
    backend.run (boundText k value) data =
      if hasOnlyNames data then .ok (Value.display (.str value)) else .error .badName := by
  have hdepth : depthOf [.bind [(k, .literal value)] [.show k]] = 1 := by simp [depthOf, Block.depth]
  have hloops : loopDepthOf [.bind [(k, .literal value)] [.show k]] = 0 := by
    simp [loopDepthOf, Block.loopDepth]
  have hshown : (Binding.value (.str value)).display = .ok (Value.display (.str value)) := rfl
  have htree : treeOf (boundPieces k value) = .ok [.bind [(k, .literal value)] [.show k]] := by
    refine treeOf_of_isSpelled (isSpelled_boundPieces hk value) (fun c x hmem n hn => ?_) rfl
    obtain ⟨c, hc, heq⟩ := List.mem_map.mp hmem
    obtain ⟨rfl, rfl⟩ := Piece.mark.inj heq
    simp only [List.mem_cons, List.not_mem_nil, or_false] at hc
    obtain rfl : n = k := by
      rcases hc with rfl | rfl | rfl
      · simpa [Construct.names, Expr.names] using hn
      · simpa [Construct.names] using hn
      · cases hn
    exact hread
  rw [backend.run_written (written_boundPieces hk value), runPieces, htree]
  dsimp only
  rw [runTree, hdepth, hloops, if_neg (by decide), if_neg (by decide)]
  cases hasOnlyNames data with
  | false => rfl
  | true => simp [runAll, Block.run, Env.eval, lookup_enter_bound, hshown]

/-- If the name cannot be read, the run ends at the first mark in it that is too new. -/
theorem run_boundText_of_isLateMark (backend : Backend) (hk : isRenderable k = true)
    {front back : List Char} {c : Char} (hname : k.toList = front ++ c :: back) (hfront : IsReadable front)
    (hc : Unicode.isLateMark c = true) (value : String) (data : Mapping) :
    backend.run (boundText k value) data =
      .error (.unreadable ⟨c, "\x7b% with ".toList.length + front.length⟩) := by
  have hquote {q : Char} (hstart : Unicode.isIdentifierStart q = false)
      (hcontinue : Unicode.isIdentifierContinue q = false) : q ∉ front := fun h =>
    notMem_name hstart hcontinue hk (hname ▸ List.mem_append_left _ h)
  have htext : (Construct.openWith [(k, .literal value)]).text =
      ("\x7b% with ".toList ++ front) ++
        c :: (back ++ '=' :: ((Expr.literal value).text ++ " %\x7d".toList)) := by
    simp [Construct.text_openWith, bindingsText, hname]
  have hopening : IsReadable ("\x7b% with ".toList ++ front) := (IsReadable.of_ascii (by decide)).append hfront
  have hstray := strayIn_append hopening (List.not_mem_append (by decide) (hquote (by decide) (by decide)))
    (List.not_mem_append (by decide) (hquote (by decide) (by decide))) 0 hc
    (back ++ '=' :: ((Expr.literal value).text ++ " %\x7d".toList))
  rw [Nat.zero_add, List.length_append, ← htext] at hstray
  rw [backend.run_written (written_boundPieces hk value), runPieces]
  simp [treeOf, boundPieces, readable, hstray, assemble]

end

end Stencil.Target
