import Stencil.Proofs.Pieces
import Stencil.Proofs.Words
import Stencil.Target.Block
import Stencil.Target.Grammar

/-! Tags are read back as they are written, whatever follows them, and the text between them as it is. -/
namespace Stencil.Target

open Template (isRenderable)
open Text (Piece Recogniser)

/-! ### Names -/

/-- A text of characters that a name in a tag can have, at least one. -/
structure IsReference (w : List Char) : Prop where
  ne_nil : w ≠ []
  part : ∀ c ∈ w, isNamePart c = true

theorem isReference_of_all {w : List Char} (hne : w ≠ []) (h : w.all isNamePart = true) :
    IsReference w :=
  ⟨hne, List.all_eq_true.mp h⟩

/-- The ranges that lie in none of a table, where both are in order. -/
def outside (table ranges : List (Nat × Nat)) : List (Nat × Nat) :=
  table.foldl (fun left q => left.dropWhile fun r => q.1 ≤ r.1 && r.2 ≤ q.2) ranges

theorem exists_of_notMem_outside {table ranges : List (Nat × Nat)} {r : Nat × Nat}
    (hr : r ∈ ranges) (hout : r ∉ outside table ranges) : ∃ q ∈ table, q.1 ≤ r.1 ∧ r.2 ≤ q.2 := by
  induction table generalizing ranges with
  | nil => exact absurd hr hout
  | cons q table ih =>
    by_cases hleft : r ∈ ranges.dropWhile fun r => q.1 ≤ r.1 && r.2 ≤ q.2
    · obtain ⟨q', hq', hle⟩ := ih hleft hout
      exact ⟨q', List.mem_cons_of_mem _ hq', hle⟩
    · have htaken : r ∈ ranges.takeWhile fun r => q.1 ≤ r.1 && r.2 ≤ q.2 := by
        rw [← List.takeWhile_append_dropWhile (p := fun r => q.1 ≤ r.1 && r.2 ≤ q.2) (l := ranges)]
          at hr
        exact (List.mem_append.mp hr).resolve_right hleft
      have hle := List.all_eq_true.mp List.all_takeWhile r htaken
      simp only [Bool.and_eq_true, decide_eq_true_eq] at hle
      exact ⟨q, List.mem_cons_self, hle⟩

/-- Every range of characters that identifiers begin with lies in one of those that they go on with. -/
theorem outside_identifierStartRanges :
    outside Unicode.identifierContinueRanges Unicode.identifierStartRanges = [] := by
  decide +kernel

theorem isIdentifierContinue_of_isIdentifierStart {c : Char}
    (h : Unicode.isIdentifierStart c = true) : Unicode.isIdentifierContinue c = true := by
  unfold Unicode.isIdentifierStart at h
  unfold Unicode.isIdentifierContinue
  split at h
  · next hsmall =>
    rw [if_pos hsmall]
    simp only [Char.isAlphanum, Bool.or_eq_true] at h ⊢
    exact h.imp_left .inl
  · next hlarge =>
    rw [if_neg hlarge]
    obtain ⟨r, hr, hin⟩ := List.any_eq_true.mp h
    obtain ⟨q, hq, hle⟩ := exists_of_notMem_outside hr
      (outside_identifierStartRanges ▸ List.not_mem_nil)
    simp only [Bool.and_eq_true, decide_eq_true_eq] at hin
    refine List.any_eq_true.mpr ⟨q, hq, ?_⟩
    simp only [Bool.and_eq_true, decide_eq_true_eq]
    exact ⟨Nat.le_trans hle.1 hin.1, Nat.le_trans hin.2 hle.2⟩

/-- A name that can be referred to is read as one. -/
theorem isReference_of_isRenderable {n : String} (hn : isRenderable n = true) :
    IsReference n.toList := by
  have h := ((Template.isRenderable_iff n).mp hn).1
  cases hl : n.toList with
  | nil => simp [hl] at h
  | cons c rest =>
    rw [hl, Unicode.isIdentifier_cons, Bool.and_eq_true, List.all_eq_true] at h
    refine ⟨List.cons_ne_nil _ _, fun d hd => ?_⟩
    have hcontinue : Unicode.isIdentifierContinue d = true := by
      rcases List.mem_cons.mp hd with rfl | hd
      · exact isIdentifierContinue_of_isIdentifierStart h.1
      · exact h.2 d hd
    simp [isNamePart, hcontinue]

theorem isNamePart_of_spaceCode :
    ∀ n ∈ Text.spaceCodes, isNamePart (Char.ofNat n) = false := by decide +kernel

/-- No name has a blank in it. -/
theorem isNamePart_of_isSpace {c : Char} (h : Text.isSpace c = true) : isNamePart c = false := by
  have := isNamePart_of_spaceCode c.toNat (Text.toNat_mem_spaceCodes h)
  rwa [Char.ofNat_toNat] at this

theorem isNamePart_space : isNamePart ' ' = false := isNamePart_of_isSpace (by decide)

namespace IsReference

variable {w : List Char}

/-- A name is read up to its end. -/
theorem takeName (hw : IsReference w) {c : Char} (hc : isNamePart c = false) (s : List Char) :
    Target.takeName (w ++ c :: s) = some (w, c :: s) := by
  have htake : (w ++ c :: s).takeWhile isNamePart = w := by
    rw [List.takeWhile_append_of_pos hw.part, List.takeWhile_cons, hc]
    simp
  have hdrop : (w ++ c :: s).dropWhile isNamePart = c :: s := by
    rw [List.dropWhile_append_of_pos hw.part, List.dropWhile_cons, hc]
    simp
  obtain ⟨d, v, rfl⟩ := List.exists_cons_of_ne_nil hw.ne_nil
  unfold Target.takeName
  rw [htake, hdrop]

/-- No blanks stand before a name. -/
theorem skipSpace (hw : IsReference w) (s : List Char) : Text.skipSpace (w ++ s) = w ++ s := by
  obtain ⟨c, v, rfl⟩ := List.exists_cons_of_ne_nil hw.ne_nil
  have hc : Text.isSpace c = false := by
    cases hspace : Text.isSpace c with
    | false => rfl
    | true => exact absurd (hw.part c List.mem_cons_self) (by simp [isNamePart_of_isSpace hspace])
  exact Text.skipSpace_cons_of_not_space _ hc

/-- A name is read behind a blank. -/
theorem takeName_skipSpace (hw : IsReference w) {c : Char} (hc : isNamePart c = false)
    (s : List Char) :
    Target.takeName (Text.skipSpace (' ' :: (w ++ c :: s))) = some (w, c :: s) := by
  rw [Text.skipSpace_space, hw.skipSpace, hw.takeName hc]

end IsReference

/-! ### Literals -/

/-- Digits are read up to their end. -/
theorem takeHex_append {width m n : Nat} {digits : List Char} (h : takeHex width m digits = some (n, []))
    (s : List Char) : takeHex width m (digits ++ s) = some (n, s) := by
  induction width generalizing m digits with
  | zero =>
    obtain ⟨rfl, rfl⟩ : m = n ∧ digits = [] := by simpa [takeHex] using h
    rfl
  | succ width ih =>
    cases digits with
    | nil => cases h
    | cons d digits =>
      obtain ⟨value, hvalue, h⟩ := Option.bind_eq_some_iff.mp h
      rw [List.cons_append, takeHex, hvalue, Option.bind_some, ih h]

/-- A character that is written in a literal is read as itself. -/
theorem readLiteral_writesChar {c : Char} {x : List Char} (hc : WritesChar c x) (fuel : Nat)
    (s : List Char) :
    readLiteral '"' (fuel + 1) (x ++ s) = (readLiteral '"' fuel s).map fun r => (c :: r.1, r.2) := by
  cases hc with
  | plain hplain =>
    have hquote : c ≠ '"' := by
      rintro rfl
      exact absurd hplain (by decide)
    have hslash : c ≠ '\\' := by
      rintro rfl
      exact absurd hplain (by decide)
    simp only [List.singleton_append, readLiteral, if_neg hquote, if_neg hslash]
  | code hwidth hdigits =>
    have hquote : ¬ '\\' = '"' := by decide
    simp only [List.cons_append, readLiteral, if_neg hquote, if_true, hwidth, takeHex_append hdigits,
      Char.ofNat_toNat]

theorem readLiteral_writesText {v x : List Char} (hv : WritesText v x) {fuel : Nat}
    (h : v.length < fuel) (s : List Char) :
    readLiteral '"' fuel (x ++ '"' :: s) = some (v, s) := by
  induction hv generalizing fuel with
  | nil =>
    obtain ⟨fuel, rfl⟩ := Nat.exists_eq_add_of_lt h
    simp [readLiteral]
  | @cons c v x y hc _ ih =>
    obtain ⟨fuel, rfl⟩ : ∃ n, fuel = n + 1 := ⟨fuel - 1, by simp at h; omega⟩
    rw [List.append_assoc, readLiteral_writesChar hc, ih (by simpa using h)]
    rfl

theorem WritesChar.length_pos {c : Char} {x : List Char} (hc : WritesChar c x) : 0 < x.length := by
  cases hc with
  | plain _ => exact Nat.one_pos
  | code _ _ => exact Nat.succ_pos _

theorem WritesText.length_le {v x : List Char} (hv : WritesText v x) : v.length ≤ x.length := by
  induction hv with
  | nil => exact Nat.le_refl 0
  | cons hc _ ih =>
    have := hc.length_pos
    rw [List.length_cons, List.length_append]
    omega

/-! ### Expressions and bindings -/

/-- An expression is read up to a character that no name has in it. -/
theorem readExpr_writesExpr {e : Expr} {x : List Char} (he : WritesExpr e x) {c : Char}
    (hc : isNamePart c = false) (s : List Char) : readExpr (x ++ c :: s) = some (e, c :: s) := by
  have hread {w : List Char} (hw : IsReference w) :
      readExpr (w ++ c :: s) =
        some (if w = "none".toList ∨ w = "None".toList then .nothing else .name (String.ofList w), c :: s) := by
    have hfirst : ∀ d ∈ ['"', '\''], w.head? ≠ some d := by
      obtain ⟨d, v, rfl⟩ := List.exists_cons_of_ne_nil hw.ne_nil
      intro q hq hd
      obtain rfl : d = q := Option.some.inj hd
      have hpart := hw.part d List.mem_cons_self
      simp only [List.mem_cons, List.not_mem_nil, or_false] at hq
      rcases hq with rfl | rfl <;> exact absurd hpart (by decide)
    have htake := hw.takeName hc s
    obtain ⟨d, v, rfl⟩ := List.exists_cons_of_ne_nil hw.ne_nil
    unfold readExpr
    split
    · next heq => exact absurd (congrArg List.head? heq) (hfirst '"' (by simp))
    · next heq => exact absurd (congrArg List.head? heq) (hfirst '\'' (by simp))
    · rw [htake, Option.map_some]
  cases he with
  | @name n hn =>
    have hword : ¬(n.toList = "none".toList ∨ n.toList = "None".toList) := by
      have hreserved := ((Template.isRenderable_iff n).mp hn).2
      rintro (h | h) <;> rw [String.toList_injective h] at hreserved <;>
        exact hreserved (by decide)
    rw [hread (isReference_of_isRenderable hn), if_neg hword, String.ofList_toList]
  | nothing => exact hread (isReference_of_all (by decide) (by decide))
  | @literal v x hx =>
    have hfuel : v.toList.length < (x ++ '"' :: c :: s).length + 1 := by
      have := hx.length_le
      rw [List.length_append]
      omega
    have htext : '"' :: (x ++ ['"']) ++ c :: s = '"' :: (x ++ '"' :: c :: s) := by simp
    rw [htext, readExpr, readLiteral_writesText hx hfuel, Option.map_some, String.ofList_toList]

theorem skipSpace_writesExpr {e : Expr} {x : List Char} (he : WritesExpr e x) (s : List Char) :
    Text.skipSpace (x ++ s) = x ++ s := by
  cases he with
  | name hn => exact (isReference_of_isRenderable hn).skipSpace s
  | nothing => rfl
  | literal _ => exact Text.skipSpace_cons_of_not_space _ (by decide)

/-- Bindings are read up to the end of their tag. -/
theorem readBindings_writesBindings {bindings : List (String × Expr)} {x : List Char}
    (hb : WritesBindings bindings x) {fuel : Nat} (h : bindings.length ≤ fuel) (s : List Char) :
    readBindings fuel (' ' :: (x ++ ' ' :: '%' :: s)) = some (bindings, '%' :: s) := by
  induction hb generalizing fuel with
  | @last k e x hk hx =>
    obtain ⟨fuel, rfl⟩ : ∃ n, fuel = n + 1 := ⟨fuel - 1, by simp at h; omega⟩
    have hname := isReference_of_isRenderable hk
    have htext : k.toList ++ '=' :: x ++ ' ' :: '%' :: s = k.toList ++ '=' :: (x ++ ' ' :: '%' :: s) := by
      simp
    rw [readBindings, htext]
    refine Option.bind_eq_some_iff.mpr ⟨_, hname.takeName_skipSpace (by decide) _, ?_⟩
    refine Option.bind_eq_some_iff.mpr ⟨_, rfl, ?_⟩
    refine Option.bind_eq_some_iff.mpr ⟨_,
      (skipSpace_writesExpr hx _).symm ▸ readExpr_writesExpr hx isNamePart_space _, ?_⟩
    dsimp only
    rw [String.ofList_toList]
    rfl
  | @more k e rest x y hk hx _ ih =>
    obtain ⟨fuel, rfl⟩ : ∃ n, fuel = n + 1 := ⟨fuel - 1, by simp at h; omega⟩
    have hname := isReference_of_isRenderable hk
    have htext : k.toList ++ '=' :: (x ++ ',' :: ' ' :: y) ++ ' ' :: '%' :: s =
        k.toList ++ '=' :: (x ++ ',' :: (' ' :: (y ++ ' ' :: '%' :: s))) := by simp
    rw [readBindings, htext]
    refine Option.bind_eq_some_iff.mpr ⟨_, hname.takeName_skipSpace (by decide) _, ?_⟩
    refine Option.bind_eq_some_iff.mpr ⟨_, rfl, ?_⟩
    refine Option.bind_eq_some_iff.mpr ⟨_,
      (skipSpace_writesExpr hx _).symm ▸ readExpr_writesExpr hx (by decide) _, ?_⟩
    refine Option.bind_eq_some_iff.mpr ⟨_, ih (by simpa using h), ?_⟩
    rw [String.ofList_toList]

theorem WritesBindings.length_lt {bindings : List (String × Expr)} {x : List Char}
    (hb : WritesBindings bindings x) : bindings.length < x.length := by
  induction hb with
  | last hk _ =>
    have := List.length_pos_iff.mpr (isReference_of_isRenderable hk).ne_nil
    simp
    omega
  | more _ _ _ ih =>
    simp
    omega

/-! ### Tags -/

theorem read_brace (s : List Char) :
    Construct.read (Construct.brace.text ++ s) = some (.brace, s) := by
  have hname : IsReference "__lb".toList := isReference_of_all (by decide) (by decide)
  change readShow (' ' :: ("__lb".toList ++ ' ' :: '}' :: '}' :: s)) = _
  unfold readShow
  exact Option.bind_eq_some_iff.mpr ⟨_, hname.takeName_skipSpace isNamePart_space _, rfl⟩

theorem read_show {n : String} (hn : isRenderable n = true) (s : List Char) :
    Construct.read ((Construct.show n).text ++ s) = some (.show n, s) := by
  have htext : (Construct.show n).text ++ s =
      '{' :: '{' :: ' ' :: (n.toList ++ '|' :: ("display".toList ++ ' ' :: '}' :: '}' :: s)) := by
    rw [Construct.text_show]
    simp
  rw [htext]
  change readShow (' ' :: (n.toList ++ '|' :: ("display".toList ++ ' ' :: '}' :: '}' :: s))) = _
  unfold readShow
  refine Option.bind_eq_some_iff.mpr
    ⟨_, (isReference_of_isRenderable hn).takeName_skipSpace (by decide) _, ?_⟩
  refine Option.bind_eq_some_iff.mpr ⟨_, Text.expect_append "display".toList _, ?_⟩
  refine Option.bind_eq_some_iff.mpr ⟨s, rfl, ?_⟩
  rw [String.ofList_toList]

theorem read_openLoop {index item collection : String} (hindex : isRenderable index = true)
    (hitem : isRenderable item = true) (hcollection : isRenderable collection = true) (s : List Char) :
    Construct.read ((Construct.openLoop index item collection).text ++ s) =
      some (.openLoop index item collection, s) := by
  have htext : (Construct.openLoop index item collection).text ++ s =
      '{' :: '%' :: ' ' :: ("for".toList ++ ' ' :: (index.toList ++ ',' :: ' ' ::
        (item.toList ++ ' ' :: 'i' :: 'n' :: ' ' :: (collection.toList ++ '|' ::
          ("entries".toList ++ ' ' :: '%' :: '}' :: s))))) := by
    rw [Construct.text_openLoop]
    simp
  have hfor : IsReference "for".toList := isReference_of_all (by decide) (by decide)
  have hindex := isReference_of_isRenderable hindex
  have hitem := isReference_of_isRenderable hitem
  have hcollection := isReference_of_isRenderable hcollection
  rw [htext]
  change readStatement (' ' :: ("for".toList ++ ' ' :: _)) = _
  unfold readStatement
  refine Option.bind_eq_some_iff.mpr ⟨_, hfor.takeName_skipSpace isNamePart_space _, ?_⟩
  dsimp only
  rw [if_pos rfl]
  refine Option.bind_eq_some_iff.mpr ⟨_, hindex.takeName_skipSpace (by decide) _, ?_⟩
  refine Option.bind_eq_some_iff.mpr ⟨_, rfl, ?_⟩
  refine Option.bind_eq_some_iff.mpr ⟨_, hitem.takeName_skipSpace isNamePart_space _, ?_⟩
  refine Option.bind_eq_some_iff.mpr ⟨_, rfl, ?_⟩
  refine Option.bind_eq_some_iff.mpr ⟨_, rfl, ?_⟩
  refine Option.bind_eq_some_iff.mpr ⟨_, hcollection.takeName_skipSpace (by decide) _, ?_⟩
  refine Option.bind_eq_some_iff.mpr ⟨_, rfl, ?_⟩
  refine Option.bind_eq_some_iff.mpr ⟨_, Text.expect_append "entries".toList _, ?_⟩
  refine Option.bind_eq_some_iff.mpr ⟨s, rfl, ?_⟩
  rw [String.ofList_toList, String.ofList_toList, String.ofList_toList]

theorem read_closeLoop (s : List Char) :
    Construct.read (Construct.closeLoop.text ++ s) = some (.closeLoop, s) := by
  have hname : IsReference "endfor".toList := isReference_of_all (by decide) (by decide)
  have hne : "endfor".toList ≠ "for".toList := by decide
  change readStatement (' ' :: ("endfor".toList ++ ' ' :: '%' :: '}' :: s)) = _
  unfold readStatement
  refine Option.bind_eq_some_iff.mpr ⟨_, hname.takeName_skipSpace isNamePart_space _, ?_⟩
  dsimp only
  rw [if_neg hne, if_pos rfl]
  rfl

theorem read_closeWith (s : List Char) :
    Construct.read (Construct.closeWith.text ++ s) = some (.closeWith, s) := by
  have hname : IsReference "endwith".toList := isReference_of_all (by decide) (by decide)
  have hfor : "endwith".toList ≠ "for".toList := by decide
  have hendfor : "endwith".toList ≠ "endfor".toList := by decide
  have hwith : "endwith".toList ≠ "with".toList := by decide
  change readStatement (' ' :: ("endwith".toList ++ ' ' :: '%' :: '}' :: s)) = _
  unfold readStatement
  refine Option.bind_eq_some_iff.mpr ⟨_, hname.takeName_skipSpace isNamePart_space _, ?_⟩
  dsimp only
  rw [if_neg hfor, if_neg hendfor, if_neg hwith, if_pos rfl]
  rfl

theorem read_openWith {bindings : List (String × Expr)} {x : List Char} (hx : WritesBindings bindings x)
    (s : List Char) :
    Construct.read ("\x7b% with ".toList ++ x ++ " %\x7d".toList ++ s) = some (.openWith bindings, s) := by
  have hname : IsReference "with".toList := isReference_of_all (by decide) (by decide)
  have hfor : "with".toList ≠ "for".toList := by decide
  have hendfor : "with".toList ≠ "endfor".toList := by decide
  have htext : "\x7b% with ".toList ++ x ++ " %\x7d".toList ++ s =
      '{' :: '%' :: ' ' :: ("with".toList ++ ' ' :: (x ++ ' ' :: '%' :: '}' :: s)) := by simp
  have hfuel : bindings.length ≤ (' ' :: (x ++ ' ' :: '%' :: '}' :: s)).length := by
    have := hx.length_lt
    simp
    omega
  rw [htext]
  change readStatement (' ' :: ("with".toList ++ ' ' :: _)) = _
  unfold readStatement
  refine Option.bind_eq_some_iff.mpr ⟨_, hname.takeName_skipSpace isNamePart_space _, ?_⟩
  dsimp only
  rw [if_neg hfor, if_neg hendfor, if_pos rfl]
  exact Option.bind_eq_some_iff.mpr ⟨_, readBindings_writesBindings hx hfuel _, rfl⟩

/-- A tag is read as it is written. -/
theorem read_of_writes {k : Construct} {x : List Char} (hk : Writes k x) (s : List Char) :
    Construct.read (x ++ s) = some (k, s) := by
  cases hk with
  | brace => exact read_brace s
  | «show» hn => exact read_show hn s
  | openLoop hindex hitem hcollection => exact read_openLoop hindex hitem hcollection s
  | closeLoop => exact read_closeLoop s
  | openWith hx => exact read_openWith hx s
  | closeWith => exact read_closeWith s

/-! ### Pieces -/

theorem readTag_eq_none {c : Char} (h : c ≠ '{') (s : List Char) :
    Construct.recogniser.read (c :: s) = none := by
  change Construct.read (c :: s) = none
  unfold Construct.read
  split
  · next heq => exact absurd (List.cons.inj heq).1 h
  · next heq => exact absurd (List.cons.inj heq).1 h
  · rfl

/-- The pieces of a text are those that it is written from. -/
theorem pieces_of_written {pieces : List (Piece Construct)} {s : List Char} (h : Written pieces s) :
    Construct.recogniser.pieces s = pieces := by
  induction h with
  | nil => exact Recogniser.pieces_nil _
  | char hc _ ih => rw [Recogniser.pieces_of_read_none (readTag_eq_none hc _), ih]
  | tag hk _ ih => rw [Recogniser.pieces_append_of_read (read_of_writes hk _), ih]

end Stencil.Target
