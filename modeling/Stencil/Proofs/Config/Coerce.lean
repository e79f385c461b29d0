import Stencil.Config.Coerce
import Stencil.Proofs.Json.ReadBack
import Stencil.Proofs.Words

/-! Texts of variables that are the JSON texts of values. Each is taken for the value it writes, with any blanks
around it, but for two things: a value may stand too deep for the reader of JSON, and a whole number is read from
the text as it is given, where the separators of ASCII are no blanks. -/
namespace Stencil

variable {s before after : List Char}

/-! ### Blanks around a text -/

namespace Text

/-- Blanks around a text make no difference to what is left when its blank ends are cut off. -/
theorem strip_surround (hbefore : before.all isSpace = true) (hafter : after.all isSpace = true) (s : List Char) :
    strip (before ++ s ++ after) = strip s := by
  have hnone : trimEnd after = [] := by simpa [trimEnd] using trimEnd_append_space [] after hafter
  rw [strip, strip, List.append_assoc, skipSpace_append hbefore, skipSpace, skipSpace, List.dropWhile_append]
  split
  · next hblank =>
    rw [List.isEmpty_iff.mp hblank, List.dropWhile_eq_nil_iff.mpr (List.all_eq_true.mp hafter)]
  · exact trimEnd_append_of_eq_nil _ hnone

/-- A text whose ends are not blank keeps them. -/
theorem strip_eq_self {c d : Char} {t : List Char} (hfirst : s = c :: t) (hc : isSpace c = false)
    (hlast : s.getLast? = some d) (hd : isSpace d = false) : strip s = s := by
  subst hfirst
  rw [strip, skipSpace_cons_of_not_space t hc, trimEnd_of_getLast? hlast hd]

/-- The signs, and the underscore that may stand between digits. -/
def numberMarks : List Char := ['-', '+', '_']

theorem spaceCode_not_number :
    ∀ n ∈ spaceCodes, Unicode.digitValue? (Char.ofNat n) = none ∧ (Char.ofNat n).isDigit = false ∧
      Char.ofNat n ∉ numberMarks := by decide +kernel

/-- No blank is a part of a number. -/
theorem not_number_of_isSpace {c : Char} (h : isSpace c = true) :
    Unicode.digitValue? c = none ∧ c.isDigit = false ∧ c ∉ numberMarks := by
  have := spaceCode_not_number c.toNat (toNat_mem_spaceCodes h)
  rwa [Char.ofNat_toNat] at this

end Text

/-! ### Whole numbers -/

namespace Number

/-- The margins around a text that has none inside are cut off. -/
theorem trimMargin_surround (hbefore : before.all isMargin = true) (hafter : after.all isMargin = true)
    (hs : ∀ c ∈ s, isMargin c = false) (hne : s ≠ []) : trimMargin (before ++ s ++ after) = s := by
  have hkeep {l : List Char} (hl : ∀ c ∈ l, isMargin c = false) (hne : l ≠ []) (rest : List Char) :
      (l ++ rest).dropWhile isMargin = l ++ rest := by
    obtain ⟨c, l, rfl⟩ := List.exists_cons_of_ne_nil hne
    exact List.dropWhile_cons_of_neg (by rw [hl c List.mem_cons_self]; exact Bool.false_ne_true)
  have hreverse : ∀ c ∈ s.reverse, isMargin c = false := fun c hc => hs c (List.mem_reverse.mp hc)
  rw [trimMargin, List.append_assoc, List.dropWhile_append_of_pos (List.all_eq_true.mp hbefore), hkeep hs hne,
    List.reverse_append, List.dropWhile_append_of_pos fun c hc =>
      List.all_eq_true.mp hafter c (List.mem_reverse.mp hc),
    ← List.append_nil s.reverse, hkeep hreverse (List.reverse_ne_nil_iff.mpr hne), List.append_nil,
    List.reverse_reverse]

/-- What is no margin is not cut off. -/
theorem mem_trimMargin {c : Char} (hc : isMargin c = false) (h : c ∈ s) : c ∈ trimMargin s := by
  have hdrop {l : List Char} (hl : c ∈ l) : c ∈ l.dropWhile isMargin := by
    rw [← List.takeWhile_append_dropWhile (p := isMargin) (l := l), List.mem_append] at hl
    refine hl.resolve_left fun hl => ?_
    rw [List.all_eq_true.mp List.all_takeWhile c hl] at hc
    cases hc
  exact List.mem_reverse.mpr (hdrop (List.mem_reverse.mpr (hdrop h)))

/-- Only underscores are taken out from between digits. -/
theorem mem_joinDigits {c : Char} (hc : c ≠ '_') {after : Bool} {t : List Char}
    (h : joinDigits after s = some t) (hmem : c ∈ s) : c ∈ t := by
  fun_induction joinDigits after s generalizing t with
  | case1 => cases hmem
  | case2 after d s hdigit ih =>
    obtain ⟨u, hu, rfl⟩ := Option.map_eq_some_iff.mp h
    obtain rfl | hmem := List.mem_cons.mp ((List.mem_cons.mp hmem).resolve_left hc)
    · exact List.mem_cons_self
    · exact List.mem_cons_of_mem _ (ih hu hmem)
  | case3 => cases h
  | case4 => cases h
  | case5 after d s hne hunderscore ih =>
    obtain ⟨u, hu, rfl⟩ := Option.map_eq_some_iff.mp h
    obtain rfl | hmem := List.mem_cons.mp hmem
    · exact List.mem_cons_self
    · exact List.mem_cons_of_mem _ (ih hu hmem)

theorem joinDigits_eq_self {after : Bool} (h : '_' ∉ s) : joinDigits after s = some s := by
  fun_induction joinDigits after s with
  | case1 => rfl
  | case2 => exact absurd List.mem_cons_self h
  | case3 => exact absurd List.mem_cons_self h
  | case4 => exact absurd List.mem_cons_self h
  | case5 after d s hne hunderscore ih => rw [ih (List.not_mem_of_not_mem_cons h), Option.map_some]

theorem mem_splitSign {c : Char} (hminus : c ≠ '-') (hplus : c ≠ '+') (h : c ∈ s) : c ∈ (splitSign s).2 := by
  unfold splitSign
  split
  · exact (List.mem_cons.mp h).resolve_left hminus
  · exact (List.mem_cons.mp h).resolve_left hplus
  · exact h

/-- The blanks around a whole number are margins. -/
theorem isMargin_of_wholeOfText? {r : Bool × List Char} (h : wholeOfText? s = some r) {c : Char} (hmem : c ∈ s)
    (hc : Text.isSpace c = true) : isMargin c = true := by
  by_contra hmargin
  rw [Bool.not_eq_true] at hmargin
  obtain ⟨hvalue, hdigit, hmark⟩ := Text.not_number_of_isSpace hc
  simp only [Text.numberMarks, List.mem_cons, List.not_mem_nil, or_false, not_or] at hmark
  have hplain : plainDigit c = c := by rw [plainDigit, hvalue]
  obtain ⟨t, ht, h⟩ := Option.bind_eq_some_iff.mp h
  have hmem : c ∈ (trimMargin s).map plainDigit :=
    List.mem_map.mpr ⟨c, mem_trimMargin hmargin hmem, hplain⟩
  have hmem : c ∈ (splitSign t).2 := mem_splitSign hmark.1 hmark.2.1 (mem_joinDigits hmark.2.2 ht hmem)
  dsimp only at h
  split at h
  · next hall =>
    rw [Bool.and_eq_true] at hall
    rw [List.all_eq_true.mp hall.2 c hmem] at hdigit
    cases hdigit
  · cases h

/-! ### The texts of whole numbers -/

/-- The characters of the texts of whole numbers. -/
def numeralChars : List Char := ['-', '0', '1', '2', '3', '4', '5', '6', '7', '8', '9']

theorem mem_numeralChars_of_isDigit {c : Char} (h : c.isDigit = true) : c ∈ numeralChars := by
  have hbounds : 48 ≤ c.toNat ∧ c.toNat ≤ 57 := by
    simpa [Char.isDigit, UInt32.le_iff_toNat_le] using h
  have hall : ∀ n, 48 ≤ n → n ≤ 57 → Char.ofNat n ∈ numeralChars := by
    intro n hlow hhigh
    interval_cases n <;> decide
  rw [← Char.ofNat_toNat c]
  exact hall c.toNat hbounds.1 hbounds.2

theorem mem_numeralChars {n : ℤ} {c : Char} (h : c ∈ intText n) : c ∈ numeralChars := by
  cases n with
  | ofNat k => exact mem_numeralChars_of_isDigit (Json.isDigit_of_mem_digits h)
  | negSucc k =>
    obtain rfl | h := List.mem_cons.mp h
    · decide
    · exact mem_numeralChars_of_isDigit (Json.isDigit_of_mem_digits h)

theorem all_numeralChars : numeralChars.all (fun c => plainDigit c == c && !isMargin c && !Text.isSpace c &&
    (c == '-' || Unicode.isDecimal c)) = true := by decide

/-- They are their own digits, none of them is blank, and all but the sign are digits. -/
theorem numeralChar_spec {c : Char} (h : c ∈ numeralChars) :
    plainDigit c = c ∧ isMargin c = false ∧ Text.isSpace c = false ∧ (c = '-' ∨ Unicode.isDecimal c = true) := by
  have := List.all_eq_true.mp all_numeralChars c h
  simpa [and_assoc] using this

theorem isDecimal_of_isDigit {c : Char} (h : c.isDigit = true) : Unicode.isDecimal c = true := by
  refine (numeralChar_spec (mem_numeralChars_of_isDigit h)).2.2.2.resolve_left ?_
  rintro rfl
  cases h

theorem intText_ne_nil (n : ℤ) : intText n ≠ [] := by
  cases n with
  | ofNat k => exact Nat.toDigits_ne_nil
  | negSucc k => exact List.cons_ne_nil _ _

theorem splitSign_intText (n : ℤ) : splitSign (intText n) = (decide (n < 0), digits n.natAbs) := by
  cases n with
  | ofNat k =>
    obtain ⟨c, ds, hds, hc⟩ := Json.exists_digits_cons k
    change splitSign (digits k) = (false, digits k)
    rw [hds]
    unfold splitSign
    split
    · next heq => exact absurd (List.cons.inj heq).1.symm (Json.ne_of_isDigit hc rfl)
    · next heq => exact absurd (List.cons.inj heq).1.symm (Json.ne_of_isDigit hc rfl)
    · rfl
  | negSucc k =>
    rw [decide_eq_true (Int.negSucc_lt_zero k)]
    rfl

/-- A whole number is read back from its text, with margins around it. -/
theorem wholeOfText?_intText (hbefore : before.all isMargin = true) (hafter : after.all isMargin = true) (n : ℤ) :
    wholeOfText? (before ++ intText n ++ after) = some (decide (n < 0), digits n.natAbs) := by
  have htrim := trimMargin_surround hbefore hafter (fun c hc => (numeralChar_spec (mem_numeralChars hc)).2.1)
    (intText_ne_nil n)
  have hplain : (intText n).map plainDigit = intText n :=
    (List.map_congr_left fun c hc => (numeralChar_spec (mem_numeralChars hc)).1).trans (List.map_id _)
  have hjoin : joinDigits false (intText n) = some (intText n) :=
    joinDigits_eq_self fun hc => absurd (mem_numeralChars hc) (by decide)
  have hdigits : (!(digits n.natAbs).isEmpty && (digits n.natAbs).all Char.isDigit) = true := by
    rw [Bool.and_eq_true, List.all_eq_true]
    refine ⟨?_, fun c hc => Json.isDigit_of_mem_digits hc⟩
    rw [Bool.not_eq_true', List.isEmpty_eq_false_iff]
    exact Nat.toDigits_ne_nil
  simp only [wholeOfText?, htrim, hplain, hjoin, splitSign_intText, hdigits, Option.bind_eq_bind,
    Option.bind_some, if_true]

theorem signed_natAbs (n : ℤ) : signed (decide (n < 0)) n.natAbs = n := by
  cases n with
  | ofNat k => rfl
  | negSucc k =>
    rw [decide_eq_true (Int.negSucc_lt_zero k)]
    rfl

end Number

/-- A whole number that is not too long is the value of its text, with margins around it. -/
theorem Value.intOfText_intText (hbefore : before.all Number.isMargin = true)
    (hafter : after.all Number.isMargin = true) {n : ℤ} (hn : (Scalar.int n).isTooLong = false) :
    Value.intOfText (before ++ Number.intText n ++ after) = .ok n := by
  have hvalue : Number.decimalValue (Number.digits n.natAbs) = n.natAbs := Json.natOf_digits n.natAbs
  simp only [Value.intOfText, Value.readInt, Number.wholeOfText?_intText hbefore hafter,
    if_neg (Nat.not_lt.mpr (Json.length_digits_le hn)), hvalue, Number.signed_natAbs]

namespace Config

open Text (isSpace strip)

variable {v : Value} {text : List Char} {n : ℤ}

/-! ### Words -/

/-- Whether a word for nothing or for a truth value may begin with a character. -/
def startsWord (c : Char) : Bool := 128 ≤ c.toNat || ['n', '~', 't', 'f'].contains c.toLower

theorem exists_lower_cons {c : Char} (hc : startsWord c = false) (s : List Char) :
    ∃ t, Unicode.lower (c :: s) = c.toLower :: t := by
  rw [startsWord, Bool.or_eq_false_iff, decide_eq_false_iff_not, Nat.not_le] at hc
  have hsigma : ¬(c.toNat == 0x3a3) = true := by rw [beq_iff_eq]; omega
  refine ⟨Unicode.lowerFrom [c] s, ?_⟩
  rw [Unicode.lower, Unicode.lowerFrom, Unicode.lowerAt, if_neg hsigma, Unicode.lowerChar, if_pos hc.1]
  rfl

/-- A text that begins otherwise is no word. -/
theorem not_isWord {c : Char} (hc : startsWord c = false) {t : List Char} (hself : strip (c :: t) = c :: t) :
    nullWords.contains (Unicode.lower (c :: t)) = false ∧ readBool (c :: t) = none := by
  obtain ⟨u, hu⟩ := exists_lower_cons hc t
  have hc : c.toLower ≠ 'n' ∧ c.toLower ≠ '~' ∧ c.toLower ≠ 't' ∧ c.toLower ≠ 'f' := by
    simpa [startsWord] using (Bool.or_eq_false_iff.mp hc).2
  constructor
  · simp [nullWords, hu, hc]
  · simp [readBool, hself, hu, hc]

theorem coerce_null (h : strip text = "null".toList) : coerce text = .ok .null := by
  have hword : nullWords.contains (Unicode.lower "null".toList) = true := by decide
  unfold coerce
  simp only [h, hword, if_true]

theorem coerce_bool {b : Bool} (h : strip text = (if b then "true" else "false").toList) :
    coerce text = .ok (.bool b) := by
  have hword (b : Bool) : nullWords.contains (Unicode.lower (if b then "true" else "false").toList) = false ∧
      readBool (if b then "true" else "false").toList = some b := by
    cases b <;> decide
  unfold coerce
  simp only [h, hword b]
  rfl

/-! ### Whole numbers -/

theorem numeralChars_startsWord : Number.numeralChars.all (fun c => !startsWord c) = true := by decide

theorem strip_intText (n : ℤ) : strip (Number.intText n) = Number.intText n := by
  have hblank {c : Char} (hc : c ∈ Number.intText n) : isSpace c = false :=
    (Number.numeralChar_spec (Number.mem_numeralChars hc)).2.2.1
  obtain ⟨c, t, hct⟩ := List.exists_cons_of_ne_nil (Number.intText_ne_nil n)
  have hlast := List.getLast?_eq_some_getLast (Number.intText_ne_nil n)
  exact Text.strip_eq_self hct (hblank (hct ▸ List.mem_cons_self)) hlast (hblank (List.getLast_mem _))

theorem isWhole_intText (n : ℤ) : isWhole (Number.intText n) = true := by
  have hne : (Number.digits n.natAbs).isEmpty = false := List.isEmpty_eq_false_iff.mpr Nat.toDigits_ne_nil
  have hdecimal : (Number.digits n.natAbs).all Unicode.isDecimal = true :=
    List.all_eq_true.mpr fun c hc => Number.isDecimal_of_isDigit (Json.isDigit_of_mem_digits hc)
  simp only [isWhole, Number.splitSign_intText, hne, hdecimal, Bool.not_false, Bool.and_self]

/-- The text of a whole number is read as a whole number, with its blanks. -/
theorem coerce_of_strip_intText (h : strip text = Number.intText n) :
    coerce text = (Value.intOfText text).map Value.int := by
  obtain ⟨c, t, hct⟩ := List.exists_cons_of_ne_nil (Number.intText_ne_nil n)
  have hmem : c ∈ Number.numeralChars := Number.mem_numeralChars (hct ▸ List.mem_cons_self)
  have hstart : startsWord c = false := by
    simpa using List.all_eq_true.mp numeralChars_startsWord c hmem
  have hself := strip_intText n
  rw [hct] at hself
  obtain ⟨hnull, hbool⟩ := not_isWord hstart hself
  have hwhole := isWhole_intText n
  rw [hct] at h hwhole
  unfold coerce
  simp only [h, hnull, hbool, hwhole, if_true]
  rfl

theorem coerce_intText (hbefore : before.all isSpace = true) (hafter : after.all isSpace = true)
    (hn : (Scalar.int n).isTooLong = false) :
    coerce (before ++ Number.intText n ++ after) =
      if (before ++ after).all Number.isMargin then .ok (.int n)
      else .error (.value (.notInteger (String.ofList (Text.quoted (before ++ Number.intText n ++ after))))) := by
  rw [coerce_of_strip_intText ((Text.strip_surround hbefore hafter _).trans (strip_intText n))]
  split
  · next hmargin =>
    rw [List.all_append, Bool.and_eq_true] at hmargin
    rw [Value.intOfText_intText hmargin.1 hmargin.2 hn]
    rfl
  · next hmargin =>
    have hnone : Number.wholeOfText? (before ++ Number.intText n ++ after) = none := by
      by_contra hsome
      obtain ⟨r, hr⟩ := Option.ne_none_iff_exists'.mp hsome
      refine hmargin (List.all_eq_true.mpr fun c hc => ?_)
      rcases List.mem_append.mp hc with hc | hc
      · exact Number.isMargin_of_wholeOfText? hr (by simp [hc]) (List.all_eq_true.mp hbefore c hc)
      · exact Number.isMargin_of_wholeOfText? hr (by simp [hc]) (List.all_eq_true.mp hafter c hc)
    simp only [Value.intOfText, Value.readInt, hnone, Except.map]

/-! ### Lists and mappings -/

/-- Text in brackets or braces is read as JSON. -/
theorem coerce_of_strip_enclosed {c d : Char} (hends : (c = '[' ∧ d = ']') ∨ (c = '\x7b' ∧ d = '\x7d'))
    {t : List Char} (hlast : (c :: t).getLast? = some d) (h : strip text = c :: t) :
    coerce text = match Json.parse (c :: t) with
      | .ok v => .ok v
      | .error .tooDeep => .error .nesting
      | .error _ => .ok (.str (String.ofList (c :: t))) := by
  have hstart : startsWord c = false ∧ isSpace c = false ∧ isSpace d = false ∧ Unicode.isDecimal c = false ∧
      c ≠ '.' := by
    rcases hends with ⟨rfl, rfl⟩ | ⟨rfl, rfl⟩ <;> decide
  obtain ⟨hstart, hc, hd, hdecimal, hpoint⟩ := hstart
  obtain ⟨hnull, hbool⟩ := not_isWord hstart (Text.strip_eq_self rfl hc hlast hd)
  have hsign : Number.splitSign (c :: t) = (false, c :: t) := by
    rcases hends with ⟨rfl, -⟩ | ⟨rfl, -⟩ <;> rfl
  have hwhole : isWhole (c :: t) = false := by simp [isWhole, hsign, hdecimal]
  have hpointed : isPointed (c :: t) = false := by simp [isPointed, hsign, hdecimal, hpoint]
  have henclosed : isEnclosed (c :: t) = true := by
    rcases hends with ⟨rfl, rfl⟩ | ⟨rfl, rfl⟩ <;> simp [isEnclosed, hlast]
  unfold coerce
  simp only [h, hnull, hbool, hwhole, hpointed, readEnclosed, henclosed, if_true]
  cases Json.parse (c :: t) with
  | ok v => rfl
  | error e => cases e <;> rfl

theorem exists_bracket (style : Json.Style) (opening closing : Char) (depth : ℕ) (items : List (List Char)) :
    ∃ t, style.bracket opening closing depth items = opening :: t ∧ (opening :: t).getLast? = some closing := by
  cases items with
  | nil => exact ⟨[closing], rfl, rfl⟩
  | cons item items =>
    refine ⟨style.newline (depth + 1) ++ (style.comma (depth + 1)).intercalate (item :: items) ++
      style.newline depth ++ [closing], rfl, ?_⟩
    rw [← List.cons_append, List.getLast?_concat]

theorem coerce_bracket {opening closing : Char}
    (hends : (opening = '[' ∧ closing = ']') ∨ (opening = '\x7b' ∧ closing = '\x7d')) (style : Json.Style)
    {depth : ℕ} {items : List (List Char)} (hv : Json.IsExact v)
    (hrender : Json.render style 0 v = style.bracket opening closing depth items)
    (hbefore : before.all isSpace = true) (hafter : after.all isSpace = true) :
    coerce (before ++ Json.render style 0 v ++ after) =
      if Json.nesting v ≤ Json.depthLimit then .ok v else .error .nesting := by
  obtain ⟨t, ht, hlast⟩ := exists_bracket style opening closing depth items
  rw [← hrender] at ht
  have hparse := Json.parse_render hv style
  have hblank : isSpace opening = false ∧ isSpace closing = false := by
    rcases hends with ⟨rfl, rfl⟩ | ⟨rfl, rfl⟩ <;> decide
  have hstrip : strip (before ++ Json.render style 0 v ++ after) = opening :: t := by
    rw [Text.strip_surround hbefore hafter, ht, Text.strip_eq_self rfl hblank.1 hlast hblank.2]
  rw [coerce_of_strip_enclosed hends hlast hstrip, ← ht, hparse]
  by_cases hdeep : Json.nesting v ≤ Json.depthLimit
  · rw [if_pos hdeep, if_pos hdeep]
  · rw [if_neg hdeep, if_neg hdeep]

/-! ### The value of a text -/

/-- The text of any other value than a string or a whole number comes to that value, unless it stands too deep. -/
theorem coerce_render_of_ne_int (hv : Json.IsExact v) (hnot : ∀ s, v ≠ .str s) (hint : ∀ n, v ≠ .int n)
    (style : Json.Style) (hbefore : before.all isSpace = true) (hafter : after.all isSpace = true) :
    coerce (before ++ Json.render style 0 v ++ after) =
      if Json.nesting v ≤ Json.depthLimit then .ok v else .error .nesting := by
  have hsurround := Text.strip_surround hbefore hafter (Json.render style 0 v)
  cases hv with
  | @scalar s plain short =>
    cases s with
    | null =>
      have hself : strip "null".toList = "null".toList := by decide
      exact coerce_null (hsurround.trans hself)
    | bool b =>
      have hself (b : Bool) : strip (if b then "true" else "false").toList =
          (if b then "true" else "false").toList := by cases b <;> decide
      exact coerce_bool (hsurround.trans (hself b))
    | int n => exact absurd rfl (hint n)
    | str s => exact absurd rfl (hnot s)
    | _ => cases plain
  | list parts => exact coerce_bracket (.inl ⟨rfl, rfl⟩) style (.list parts) rfl hbefore hafter
  | dict named once parts =>
    exact coerce_bracket (.inr ⟨rfl, rfl⟩) style (.dict named once parts) rfl hbefore hafter

/-- A value that is no string is the value of its JSON text, in every style and with any blanks around it, if and
only if its lists and mappings do not stand too deep in one another and, where it is a whole number, the blanks
are blanks for the reader of whole numbers. Otherwise the text has no value at all. -/
theorem coerce_render (hv : Json.IsExact v) (hnot : ∀ s, v ≠ .str s) (style : Json.Style)
    (hbefore : before.all isSpace = true) (hafter : after.all isSpace = true) :
    (coerce (before ++ Json.render style 0 v ++ after) = .ok v ↔
      Json.nesting v ≤ Json.depthLimit ∧ ∀ n, v = .int n → (before ++ after).all Number.isMargin = true) ∧
    (Json.depthLimit < Json.nesting v → coerce (before ++ Json.render style 0 v ++ after) = .error .nesting) ∧
    (∀ n, v = .int n → (before ++ after).all Number.isMargin = false →
      coerce (before ++ Json.render style 0 v ++ after) =
        .error (.value (.notInteger (String.ofList (Text.quoted (before ++ Number.intText n ++ after)))))) := by
  by_cases hint : ∃ n, v = .int n
  · obtain ⟨n, rfl⟩ := hint
    have short : (Scalar.int n).isTooLong = false := by
      cases hv with
      | scalar plain short => exact short
    have hflat : Json.nesting (.int n) = 0 := rfl
    have hcoerce : coerce (before ++ Json.render style 0 (.int n) ++ after) = _ :=
      coerce_intText hbefore hafter short
    rw [hcoerce, hflat]
    cases hmargin : (before ++ after).all Number.isMargin with
    | true =>
      exact ⟨⟨fun _ => ⟨Nat.zero_le _, fun _ _ => rfl⟩, fun _ => rfl⟩, nofun, nofun⟩
    | false =>
      refine ⟨⟨nofun, fun h => ?_⟩, nofun, ?_⟩
      · cases h.2 n rfl
      · rintro m ⟨⟩ -
        rfl
  · rw [not_exists] at hint
    rw [coerce_render_of_ne_int hv hnot hint style hbefore hafter]
    by_cases hdeep : Json.nesting v ≤ Json.depthLimit
    · rw [if_pos hdeep]
      exact ⟨⟨fun _ => ⟨hdeep, fun n hn => absurd hn (hint n)⟩, fun _ => rfl⟩,
        fun h => absurd hdeep (Nat.not_le.mpr h), fun n hn => absurd hn (hint n)⟩
    · rw [if_neg hdeep]
      exact ⟨⟨nofun, fun h => absurd h.1 hdeep⟩, fun _ => rfl, fun n hn => absurd hn (hint n)⟩

theorem coerce_render_ports :
    coerce "\t\x7b\"ports\": [80, null]\x7d\n".toList =
      .ok (.dict [(.str "ports", .list [.int 80, .null])]) ∧
    coerce "\t-5\n".toList = .ok (.int (-5)) := by
  have h80 : (Scalar.int 80).isTooLong = false := by decide +kernel
  have h5 : (Scalar.int (-5)).isTooLong = false := by decide +kernel
  have hports : Json.IsExact (.list [.int 80, .null]) := .list fun v hv => by
    rcases List.mem_cons.mp hv with rfl | hv
    · exact .scalar rfl h80
    · rw [List.mem_singleton.mp hv]
      exact .scalar rfl rfl
  have hdict : Json.IsExact (.dict [(.str "ports", .list [.int 80, .null])]) :=
    .dict (by decide) (by decide) fun p hp => by rw [List.mem_singleton.mp hp]; exact hports
  constructor
  · change coerce (['\t'] ++ Json.render ⟨true, none⟩ 0 (.dict [(.str "ports", .list [.int 80, .null])]) ++
      ['\n']) = _
    exact (coerce_render hdict nofun ⟨true, none⟩ rfl rfl).1.mpr ⟨by decide, nofun⟩
  · change coerce (['\t'] ++ Json.render ⟨true, none⟩ 0 (.int (-5)) ++ ['\n']) = _
    exact (coerce_render (.scalar rfl h5) nofun ⟨true, none⟩ rfl rfl).1.mpr ⟨Nat.zero_le _, fun _ _ => rfl⟩

/-- A separator of ASCII in front of a whole number is in its way. -/
theorem not_coerce_render_separator :
    ¬∀ (v : Value) (before after : List Char), Json.IsExact v → (∀ s, v ≠ .str s) → before.all isSpace = true →
      after.all isSpace = true → coerce (before ++ Json.render ⟨true, none⟩ 0 v ++ after) = .ok v := by
  intro h
  have h5 : (Scalar.int 5).isTooLong = false := by decide +kernel
  have hfive := h (.int 5) ['\x1c'] [] (.scalar rfl h5) nofun rfl rfl
  have hfails : coerce (['\x1c'] ++ Number.intText 5 ++ []) = _ := coerce_intText rfl rfl h5
  rw [if_neg (by decide)] at hfails
  cases hfails.symm.trans hfive

end Config

end Stencil
