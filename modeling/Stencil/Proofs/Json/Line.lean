import Stencil.Json.Printer
import Stencil.Json.Reader
import Stencil.Proofs.Text.PrefixCode

/-! What a value is can be told from its JSON text on one line, if the value is made of nothing but what
JSON has a form for. Every part is told from the text that starts with it, whatever follows. -/
namespace Stencil.Json

open Number (digits intText)

/-- Whether a scalar is nothing, a truth value, a whole number or a string. -/
def isPlainScalar : Scalar → Bool
  | .null | .bool _ | .int _ | .str _ => true
  | _ => false

/-- Whether a key is a string. -/
def isName : Scalar → Bool
  | .str _ => true
  | _ => false

mutual

/-- Whether a value is made of such scalars, of lists, and of mappings whose keys are strings. -/
def isPlain : Value → Bool
  | .scalar s => isPlainScalar s
  | .list items => arePlain items
  | .dict pairs => arePlainPairs pairs
  | _ => false

def arePlain : List Value → Bool
  | [] => true
  | v :: items => isPlain v && arePlain items

def arePlainPairs : List (Scalar × Value) → Bool
  | [] => true
  | (k, v) :: pairs => isName k && (isPlain v && arePlainPairs pairs)

end

/-! ### Whole numbers -/

/-- The text does not go on with a digit. -/
def NumberEnds (s : List Char) : Prop := ∀ c rest, s = c :: rest → c.isDigit = false

theorem numberEnds_nil : NumberEnds [] := by
  intro c rest h
  cases h

theorem numberEnds_cons {c : Char} (hc : c.isDigit = false) (s : List Char) : NumberEnds (c :: s) := by
  intro d rest h
  cases h
  exact hc

theorem isDigit_of_mem_digits {n : Nat} {c : Char} (h : c ∈ digits n) : c.isDigit = true :=
  Nat.isDigit_of_mem_toDigits (by decide) (by decide) h

theorem digits_injective : Function.Injective digits := by
  intro m n h
  have hm : Nat.ofDigitChars 10 (digits m) 0 = m := Nat.ofDigitChars_ten_toDigits
  rw [← hm, h]
  exact Nat.ofDigitChars_ten_toDigits

/-- Digits are read up to their end. -/
theorem takeWhile_digits {x : List Char} (hx : NumberEnds x) (n : Nat) :
    (digits n ++ x).takeWhile Char.isDigit = digits n := by
  rw [List.takeWhile_append_of_pos fun _ => isDigit_of_mem_digits]
  cases x with
  | nil => rw [List.takeWhile_nil, List.append_nil]
  | cons c x =>
    rw [List.takeWhile_cons, hx c x rfl]
    exact List.append_nil _

theorem digits_cancel {m n : Nat} {x y : List Char} (hx : NumberEnds x) (hy : NumberEnds y)
    (h : digits m ++ x = digits n ++ y) : m = n ∧ x = y := by
  have hdigits : digits m = digits n := by rw [← takeWhile_digits hx m, h, takeWhile_digits hy n]
  rw [hdigits] at h
  exact ⟨digits_injective hdigits, List.append_cancel_left h⟩

theorem exists_digits_cons (n : Nat) : ∃ c ds, digits n = c :: ds ∧ c.isDigit = true := by
  cases h : digits n with
  | nil => exact absurd h Nat.toDigits_ne_nil
  | cons c ds => exact ⟨c, ds, rfl, isDigit_of_mem_digits (h ▸ List.mem_cons_self)⟩

/-- No digits begin with a sign. -/
theorem digits_append_ne_minus (n : Nat) (x y : List Char) : digits n ++ x ≠ '-' :: y := by
  obtain ⟨c, ds, hds, hc⟩ := exists_digits_cons n
  intro h
  rw [hds] at h
  obtain ⟨rfl, -⟩ := List.cons.inj h
  cases hc

theorem intText_cancel {m n : Int} {x y : List Char} (hx : NumberEnds x) (hy : NumberEnds y)
    (h : intText m ++ x = intText n ++ y) : m = n ∧ x = y := by
  cases m with
  | ofNat m =>
    cases n with
    | ofNat n =>
      obtain ⟨rfl, hxy⟩ := digits_cancel hx hy h
      exact ⟨rfl, hxy⟩
    | negSucc n => exact absurd h (digits_append_ne_minus m x _)
  | negSucc m =>
    cases n with
    | ofNat n => exact absurd h.symm (digits_append_ne_minus n y _)
    | negSucc n =>
      obtain ⟨hmn, hxy⟩ := digits_cancel hx hy (List.cons.inj h).2
      obtain rfl := Nat.succ.inj hmn
      exact ⟨rfl, hxy⟩

/-! ### Strings -/

theorem hexValue?_digitChar : ∀ d < 16, hexValue? (Nat.digitChar d) = some d := by decide

/-- A unit of four hexadecimal digits is read back. -/
theorem readUnit_hex {n : Nat} (h : n < 0x10000) (s : List Char) :
    readUnit (Text.hex 4 n ++ s) = some (n, s) := by
  have hhex : Text.hex 4 n ++ s = Nat.digitChar (n / 16 / 16 / 16 % 16) ::
      Nat.digitChar (n / 16 / 16 % 16) :: Nat.digitChar (n / 16 % 16) :: Nat.digitChar (n % 16) :: s :=
    rfl
  have hn : ((n / 16 / 16 / 16 % 16 * 16 + n / 16 / 16 % 16) * 16 + n / 16 % 16) * 16 + n % 16 = n := by
    omega
  rw [hhex]
  simp only [readUnit, hexValue?_digitChar _ (Nat.mod_lt _ (by decide : 0 < 16)), Option.bind_eq_bind,
    Option.bind_some, hn]

/-- The character that stands at the start of the inside of a string. -/
def readEscape : List Char → Option (Char × List Char)
  | [] => none
  | c :: s =>
    if c = '"' then none
    else if c = '\\' then
      match s with
      | [] => none
      | e :: s =>
        if e = 'u' then (readUnit s).map fun r => (Char.ofNat r.1, r.2)
        else (shortEscape? e).map fun c => (c, s)
    else some (c, s)

theorem readEscape_escapeChar (c : Char) (x : List Char) :
    readEscape (escapeChar false c ++ x) = some (c, x) := by
  have hback : Char.ofNat c.toNat = c := Char.ofNat_toNat c
  unfold escapeChar
  by_cases h₁ : c = '"'
  · subst h₁; rfl
  by_cases h₂ : c = '\\'
  · subst h₂; rfl
  by_cases h₃ : c = '\n'
  · subst h₃; rfl
  by_cases h₄ : c = '\r'
  · subst h₄; rfl
  by_cases h₅ : c = '\t'
  · subst h₅; rfl
  rw [if_neg h₁, if_neg h₂, if_neg h₃, if_neg h₄, if_neg h₅]
  by_cases h₆ : c.toNat = 8
  · rw [if_pos h₆, ← hback, h₆]; rfl
  by_cases h₇ : c.toNat = 12
  · rw [if_neg h₆, if_pos h₇, ← hback, h₇]; rfl
  rw [if_neg h₆, if_neg h₇, Bool.false_and, Bool.or_false]
  by_cases h₈ : c.toNat < 32
  · have hunit := readUnit_hex (n := c.toNat) (by omega) x
    rw [if_pos (decide_eq_true h₈), escapeCode, if_pos (by omega)]
    change (readUnit (Text.hex 4 c.toNat ++ x)).map _ = _
    rw [hunit, Option.map_some, hback]
  · rw [if_neg (by simpa using h₈)]
    simp only [List.cons_append, List.nil_append, readEscape, if_neg h₁, if_neg h₂]

theorem prefixCode_escapeChar : Text.PrefixCode (escapeChar false) :=
  Text.PrefixCode.of_reader readEscape rfl readEscape_escapeChar

/-- The closing quote begins no character. -/
theorem quote_ne_escapeChar (s : List Char) (c : Char) (x : List Char) :
    '"' :: s ≠ escapeChar false c ++ x := by
  intro h
  have hread := readEscape_escapeChar c x
  rw [← h] at hread
  cases hread

theorem stringText_cancel {s t x y : List Char}
    (h : stringText false s ++ x = stringText false t ++ y) : s = t ∧ x = y := by
  simp only [stringText, List.cons_append, List.append_assoc, List.nil_append] at h
  obtain ⟨rfl, hxy⟩ := prefixCode_escapeChar.flatMap_cancel (quote_ne_escapeChar x)
    (quote_ne_escapeChar y) (List.cons.inj h).2
  exact ⟨rfl, (List.cons.inj hxy).2⟩

/-! ### Scalars -/

/-- The kinds of scalars that JSON tells apart. -/
inductive ScalarKind where
  | null
  | bool
  | int
  | str
  deriving DecidableEq

/-- The kind of a scalar that has one. -/
def scalarKind? : Scalar → Option ScalarKind
  | .null => some .null
  | .bool _ => some .bool
  | .int _ => some .int
  | .str _ => some .str
  | _ => none

/-- The kind of scalar whose text begins with a character. -/
def kindOfStart? (c : Char) : Option ScalarKind :=
  if c = 'n' then some .null
  else if c = 't' ∨ c = 'f' then some .bool
  else if c = '-' ∨ c.isDigit then some .int
  else if c = '"' then some .str
  else none

theorem kindOfStart?_of_isDigit {c : Char} (hc : c.isDigit = true) : kindOfStart? c = some .int := by
  have hne {d : Char} (hd : d.isDigit = false) : c ≠ d := by
    rintro rfl
    rw [hc] at hd
    cases hd
  simp [kindOfStart?, hc, hne (d := 'n') rfl, hne (d := 't') rfl, hne (d := 'f') rfl]

theorem exists_scalarText_cons {s : Scalar} (hs : isPlainScalar s = true) :
    ∃ c rest, scalarText false s = c :: rest ∧ kindOfStart? c = scalarKind? s := by
  cases s with
  | null => exact ⟨'n', _, rfl, rfl⟩
  | bool b => cases b <;> exact ⟨_, _, rfl, rfl⟩
  | int n =>
    cases n with
    | ofNat n =>
      obtain ⟨c, ds, hds, hc⟩ := exists_digits_cons n
      exact ⟨c, ds, hds, kindOfStart?_of_isDigit hc⟩
    | negSucc n => exact ⟨'-', _, rfl, rfl⟩
  | str s => exact ⟨'"', _, rfl, rfl⟩
  | float _ => cases hs
  | bytes _ => cases hs
  | date _ => cases hs
  | moment _ => cases hs

/-- No scalar begins with a character that begins none. -/
theorem scalarText_append_ne {s : Scalar} (hs : isPlainScalar s = true) {c : Char}
    (hc : kindOfStart? c = none) (x y : List Char) : scalarText false s ++ x ≠ c :: y := by
  obtain ⟨d, rest, htext, hkind⟩ := exists_scalarText_cons hs
  intro h
  rw [htext] at h
  obtain ⟨rfl, -⟩ := List.cons.inj h
  rw [hc] at hkind
  cases s <;> first | (cases hs; done) | cases hkind

theorem scalarText_cancel {s t : Scalar} {x y : List Char} (hs : isPlainScalar s = true)
    (ht : isPlainScalar t = true) (hx : NumberEnds x) (hy : NumberEnds y)
    (h : scalarText false s ++ x = scalarText false t ++ y) : s = t ∧ x = y := by
  have hkind : scalarKind? s = scalarKind? t := by
    obtain ⟨c, rest, hc, hkc⟩ := exists_scalarText_cons hs
    obtain ⟨d, rest', hd, hkd⟩ := exists_scalarText_cons ht
    rw [hc, hd] at h
    rw [← hkc, ← hkd, (List.cons.inj h).1]
  cases s <;> cases t <;> first | (cases hs; done) | (cases ht; done) | (cases hkind; done) | skip
  case null.null => exact ⟨rfl, List.append_cancel_left h⟩
  case bool.bool b b' =>
    cases b <;> cases b' <;>
      first | exact ⟨rfl, List.append_cancel_left h⟩ | cases (List.cons.inj h).1
  case int.int m n =>
    obtain ⟨rfl, hxy⟩ := intText_cancel hx hy h
    exact ⟨rfl, hxy⟩
  case str.str s t =>
    obtain ⟨hst, hxy⟩ := stringText_cancel h
    exact ⟨congrArg Scalar.str (String.toList_inj.mp hst), hxy⟩

/-! ### Values -/

/-- Strings are filed under different names. -/
theorem keyName_cancel {k l : Scalar} (hk : isName k = true) (hl : isName l = true)
    (h : keyName k = keyName l) : k = l := by
  cases k <;> cases l <;> first | (cases hk; done) | (cases hl; done) | skip
  exact congrArg Scalar.str (String.toList_inj.mp h)

/-- The separator of items. -/
def itemBreak : List Char := [',', ' ']

theorem intercalate_cons (sep a : List Char) (l : List (List Char)) :
    sep.intercalate (a :: l) = a ++ l.flatMap (sep ++ ·) := by
  induction l generalizing a with
  | nil => simp [List.intercalate]
  | cons b l ih =>
    have hcons : sep.intercalate (a :: b :: l) = a ++ (sep ++ sep.intercalate (b :: l)) := rfl
    rw [hcons, ih b, List.flatMap_cons, List.append_assoc]

/-- On one line nothing but the separators stands between the brackets besides the items. -/
theorem bracket_line (opening closing : Char) (depth : Nat) (items : List (List Char)) :
    Style.line.bracket opening closing depth items =
      opening :: (itemBreak.intercalate items ++ [closing]) := by
  cases items with
  | nil => rfl
  | cons a items =>
    change opening :: ([] ++ itemBreak.intercalate (a :: items) ++ [] ++ [closing]) = _
    rw [List.nil_append, List.append_nil]

theorem render_list (depth : Nat) (items : List Value) :
    render .line depth (.list items) =
      '[' :: (itemBreak.intercalate (renderItems .line (depth + 1) items) ++ [']']) := by
  rw [render, bracket_line]

theorem render_dict (depth : Nat) (pairs : List (Scalar × Value)) :
    render .line depth (.dict pairs) =
      '{' :: (itemBreak.intercalate (renderPairs .line (depth + 1) pairs) ++ ['}']) := by
  rw [render, bracket_line]

/-- Items up to a closing bracket with which none of them begins, with the first one set off like the
others. -/
theorem later_of_intercalate {l l' : List (List Char)} {closing : Char} {x y : List Char}
    (hl : ∀ a ∈ l, ∀ z w, a ++ z ≠ closing :: w) (hl' : ∀ a ∈ l', ∀ z w, a ++ z ≠ closing :: w)
    (h : itemBreak.intercalate l ++ closing :: x = itemBreak.intercalate l' ++ closing :: y) :
    l.flatMap (itemBreak ++ ·) ++ closing :: x = l'.flatMap (itemBreak ++ ·) ++ closing :: y := by
  cases l with
  | nil =>
    cases l' with
    | nil => exact h
    | cons b l' =>
      rw [intercalate_cons, List.append_assoc] at h
      exact absurd h.symm (hl' b List.mem_cons_self _ _)
  | cons a l =>
    cases l' with
    | nil =>
      rw [intercalate_cons, List.append_assoc] at h
      exact absurd h (hl a List.mem_cons_self _ _)
    | cons b l' =>
      rw [intercalate_cons, intercalate_cons] at h
      simp only [List.flatMap_cons, List.append_assoc] at h ⊢
      rw [h]

theorem render_append_ne_bracket {v : Value} (hv : isPlain v = true) (depth : Nat) (x y : List Char) :
    render .line depth v ++ x ≠ ']' :: y := by
  intro h
  cases v with
  | scalar s => exact scalarText_append_ne hv rfl x y h
  | list items => rw [render_list] at h; cases (List.cons.inj h).1
  | dict pairs => rw [render_dict] at h; cases (List.cons.inj h).1
  | tuple items => cases hv
  | set items => cases hv
  | knot g n => cases hv

theorem renderItems_append_ne_bracket {items : List Value} (h : arePlain items = true) (depth : Nat) :
    ∀ a ∈ renderItems .line depth items, ∀ x y, a ++ x ≠ ']' :: y := by
  induction items with
  | nil => exact fun a ha => nomatch ha
  | cons v items ih =>
    rw [arePlain, Bool.and_eq_true] at h
    rintro a (_ | ⟨_, ha⟩)
    · exact render_append_ne_bracket h.1 depth
    · exact ih h.2 a ha

theorem renderPairs_append_ne_brace (pairs : List (Scalar × Value)) (depth : Nat) :
    ∀ a ∈ renderPairs .line depth pairs, ∀ x y, a ++ x ≠ '}' :: y := by
  induction pairs with
  | nil => exact fun a ha => nomatch ha
  | cons p pairs ih =>
    rintro a (_ | ⟨_, ha⟩) x y h
    · cases (List.cons.inj h).1
    · exact ih a ha x y h

/-- No number goes on into the items behind it. -/
theorem numberEnds_later {closing : Char} (hclosing : closing.isDigit = false) (x : List Char) :
    (l : List (List Char)) → NumberEnds (l.flatMap (itemBreak ++ ·) ++ closing :: x)
  | [] => numberEnds_cons hclosing x
  | _ :: _ => numberEnds_cons rfl _

mutual

/-- A value is told from a text that starts with its own. -/
theorem render_cancel (depth : Nat) {x y : List Char} (hx : NumberEnds x) (hy : NumberEnds y) :
    (v w : Value) → isPlain v = true → isPlain w = true →
    render .line depth v ++ x = render .line depth w ++ y → v = w ∧ x = y
  | .scalar s, .scalar t, hs, ht, h => by
    obtain ⟨rfl, hxy⟩ := scalarText_cancel hs ht hx hy h
    exact ⟨rfl, hxy⟩
  | .scalar s, .list items, hs, _, h => by
    rw [render_list] at h
    exact absurd h (scalarText_append_ne hs rfl x _)
  | .scalar s, .dict pairs, hs, _, h => by
    rw [render_dict] at h
    exact absurd h (scalarText_append_ne hs rfl x _)
  | .list items, .scalar s, _, hs, h => by
    rw [render_list] at h
    exact absurd h.symm (scalarText_append_ne hs rfl y _)
  | .dict pairs, .scalar s, _, hs, h => by
    rw [render_dict] at h
    exact absurd h.symm (scalarText_append_ne hs rfl y _)
  | .list items, .dict pairs, _, _, h => by
    rw [render_list, render_dict] at h
    cases (List.cons.inj h).1
  | .dict pairs, .list items, _, _, h => by
    rw [render_list, render_dict] at h
    cases (List.cons.inj h).1
  | .list items, .list items', hv, hw, h => by
    rw [render_list, render_list] at h
    simp only [List.cons_append, List.append_assoc, List.nil_append] at h
    have hlater := later_of_intercalate (renderItems_append_ne_bracket hv _)
      (renderItems_append_ne_bracket hw _) (List.cons.inj h).2
    obtain ⟨rfl, hxy⟩ := laterItems_cancel (depth + 1) items items' hv hw hlater
    exact ⟨rfl, hxy⟩
  | .dict pairs, .dict pairs', hv, hw, h => by
    rw [render_dict, render_dict] at h
    simp only [List.cons_append, List.append_assoc, List.nil_append] at h
    have hlater := later_of_intercalate (renderPairs_append_ne_brace pairs _)
      (renderPairs_append_ne_brace pairs' _) (List.cons.inj h).2
    obtain ⟨rfl, hxy⟩ := laterPairs_cancel (depth + 1) pairs pairs' hv hw hlater
    exact ⟨rfl, hxy⟩

/-- Items, each behind a separator, are told from a text that starts with them and a closing bracket. -/
theorem laterItems_cancel (depth : Nat) {x y : List Char} :
    (items items' : List Value) → arePlain items = true → arePlain items' = true →
    (renderItems .line depth items).flatMap (itemBreak ++ ·) ++ ']' :: x =
      (renderItems .line depth items').flatMap (itemBreak ++ ·) ++ ']' :: y →
    items = items' ∧ x = y
  | [], [], _, _, h => ⟨rfl, (List.cons.inj h).2⟩
  | [], _ :: _, _, _, h => by cases (List.cons.inj h).1
  | _ :: _, [], _, _, h => by cases (List.cons.inj h).1
  | v :: items, w :: items', hv, hw, h => by
    rw [arePlain, Bool.and_eq_true] at hv hw
    simp only [renderItems, List.flatMap_cons, List.append_assoc] at h
    obtain ⟨rfl, hrest⟩ := render_cancel depth (numberEnds_later rfl x _) (numberEnds_later rfl y _)
      v w hv.1 hw.1 (List.append_cancel_left h)
    obtain ⟨rfl, hxy⟩ := laterItems_cancel depth items items' hv.2 hw.2 hrest
    exact ⟨rfl, hxy⟩

theorem laterPairs_cancel (depth : Nat) {x y : List Char} :
    (pairs pairs' : List (Scalar × Value)) → arePlainPairs pairs = true → arePlainPairs pairs' = true →
    (renderPairs .line depth pairs).flatMap (itemBreak ++ ·) ++ '}' :: x =
      (renderPairs .line depth pairs').flatMap (itemBreak ++ ·) ++ '}' :: y →
    pairs = pairs' ∧ x = y
  | [], [], _, _, h => ⟨rfl, (List.cons.inj h).2⟩
  | [], _ :: _, _, _, h => by cases (List.cons.inj h).1
  | _ :: _, [], _, _, h => by cases (List.cons.inj h).1
  | (k, v) :: pairs, (k', w) :: pairs', hv, hw, h => by
    rw [arePlainPairs, Bool.and_eq_true, Bool.and_eq_true] at hv hw
    simp only [renderPairs, List.flatMap_cons, List.append_assoc, List.cons_append] at h
    obtain ⟨hkey, hvalue⟩ := stringText_cancel (List.append_cancel_left h)
    obtain ⟨rfl, hrest⟩ := render_cancel depth (numberEnds_later rfl x _) (numberEnds_later rfl y _)
      v w hv.2.1 hw.2.1 (List.cons.inj (List.cons.inj hvalue).2).2
    obtain ⟨rfl, hxy⟩ := laterPairs_cancel depth pairs pairs' hv.2.2 hw.2.2 hrest
    obtain rfl := keyName_cancel hv.1 hw.1 hkey
    exact ⟨rfl, hxy⟩

end

/-- Different values have different texts. -/
theorem line_cancel {v w : Value} (hv : isPlain v = true) (hw : isPlain w = true)
    (h : line v = line w) : v = w := by
  refine (render_cancel 0 numberEnds_nil numberEnds_nil v w hv hw ?_).1
  rw [List.append_nil, List.append_nil]
  exact h

/-! ### Characters -/

/-- Whether a text holds no control characters. -/
def isVisible (s : List Char) : Bool := s.all fun c => 32 ≤ c.toNat

@[simp] theorem isVisible_nil : isVisible [] = true := rfl

@[simp] theorem isVisible_cons (c : Char) (s : List Char) :
    isVisible (c :: s) = (decide (32 ≤ c.toNat) && isVisible s) := rfl

@[simp] theorem isVisible_append (s t : List Char) :
    isVisible (s ++ t) = (isVisible s && isVisible t) := by
  simp [isVisible]

theorem isVisible_flatMap {α : Type} {l : List α} {f : α → List Char}
    (h : ∀ a ∈ l, isVisible (f a) = true) : isVisible (l.flatMap f) = true := by
  rw [isVisible, List.all_flatMap]
  exact List.all_eq_true.mpr h

theorem isVisible_digits (n : Nat) : isVisible (digits n) = true := by
  refine List.all_eq_true.mpr fun c hc => ?_
  have h := isDigit_of_mem_digits hc
  simp only [Char.isDigit, Bool.and_eq_true, decide_eq_true_eq] at h
  have hlow : (48 : UInt32).toNat ≤ c.val.toNat := h.1
  exact decide_eq_true (Nat.le_trans (by decide) hlow)

theorem isVisible_hex (width n : Nat) : isVisible (Text.hex width n) = true := by
  have hdigit : ∀ d < 16, 32 ≤ (Nat.digitChar d).toNat := by decide
  induction width generalizing n with
  | zero => rfl
  | succ width ih =>
    have hlast := hdigit (n % 16) (Nat.mod_lt n (by decide))
    simp [Text.hex, ih, hlast]

/-- Control characters are escaped. -/
theorem isVisible_escapeChar (c : Char) : isVisible (escapeChar false c) = true := by
  have hcode (h : c.toNat < 32) : isVisible (escapeCode c.toNat) = true := by
    rw [escapeCode, if_pos (by omega), unitEscape]
    simp [isVisible_hex]
  unfold escapeChar
  repeat' split
  all_goals first | rfl | skip
  case isTrue h => exact hcode (by simpa using h)
  case isFalse h => simpa using h

theorem isVisible_stringText (s : List Char) : isVisible (stringText false s) = true := by
  simp [stringText, isVisible_flatMap fun c _ => isVisible_escapeChar c]

theorem isVisible_scalarText {s : Scalar} (hs : isPlainScalar s = true) :
    isVisible (scalarText false s) = true := by
  cases s with
  | null => rfl
  | bool b => cases b <;> rfl
  | int n =>
    cases n with
    | ofNat n => exact isVisible_digits n
    | negSucc n => simp [scalarText, intText, isVisible_digits]
  | str s => exact isVisible_stringText s.toList
  | float _ => cases hs
  | bytes _ => cases hs
  | date _ => cases hs
  | moment _ => cases hs

theorem isVisible_intercalate {l : List (List Char)} (h : ∀ a ∈ l, isVisible a = true) :
    isVisible (itemBreak.intercalate l) = true := by
  cases l with
  | nil => rfl
  | cons a l =>
    have hlater : isVisible (l.flatMap (itemBreak ++ ·)) = true := by
      refine isVisible_flatMap fun b hb => ?_
      rw [isVisible_append, h b (List.mem_cons_of_mem a hb)]
      rfl
    rw [intercalate_cons, isVisible_append, h a List.mem_cons_self, hlater]
    rfl

mutual

theorem isVisible_render (depth : Nat) :
    (v : Value) → isPlain v = true → isVisible (render .line depth v) = true
  | .scalar _, hs => isVisible_scalarText hs
  | .list items, h => by
    have hitems := isVisible_intercalate (isVisible_renderItems (depth + 1) items h)
    simp [render_list, hitems]
  | .dict pairs, h => by
    have hpairs := isVisible_intercalate (isVisible_renderPairs (depth + 1) pairs h)
    simp [render_dict, hpairs]

theorem isVisible_renderItems (depth : Nat) :
    (items : List Value) → arePlain items = true →
    ∀ a ∈ renderItems .line depth items, isVisible a = true
  | [], _ => fun _ ha => nomatch ha
  | v :: items, h => by
    rw [arePlain, Bool.and_eq_true] at h
    rintro a (_ | ⟨_, ha⟩)
    · exact isVisible_render depth v h.1
    · exact isVisible_renderItems depth items h.2 a ha

theorem isVisible_renderPairs (depth : Nat) :
    (pairs : List (Scalar × Value)) → arePlainPairs pairs = true →
    ∀ a ∈ renderPairs .line depth pairs, isVisible a = true
  | [], _ => fun _ ha => nomatch ha
  | (k, v) :: pairs, h => by
    rw [arePlainPairs, Bool.and_eq_true, Bool.and_eq_true] at h
    rintro a (_ | ⟨_, ha⟩)
    · have hkey : isVisible (stringText Style.line.ascii (keyName k)) = true :=
        isVisible_stringText (keyName k)
      simp [hkey, isVisible_render depth v h.2.1]
    · exact isVisible_renderPairs depth pairs h.2.2 a ha

end

theorem isVisible_line {v : Value} (h : isPlain v = true) : isVisible (line v) = true :=
  isVisible_render 0 v h

/-! ### Faults -/

theorem keyFault?_of_isName {k : Scalar} (h : isName k = true) : keyFault? k = none := by
  cases k <;> first | (cases h; done) | rfl

/-- The faults that a value of such a form can have: a number in it is too long, or it is too deep. -/
inductive IsPlainFault : WriteFault → Prop
  | long : IsPlainFault .longNumber
  | deep : IsPlainFault .tooDeep

mutual

/-- Numbers that are too long and too many levels are the only faults. -/
theorem isPlainFault_of_faultIn? {f : WriteFault} (left : Nat) :
    (v : Value) → isPlain v = true → faultIn? left v = some f → IsPlainFault f
  | .scalar s, _, h => by
    rw [faultIn?, scalarFault?] at h
    split at h
    · obtain rfl := Option.some.inj h
      exact .long
    · cases h
  | .list items, hv, h => by
    rw [faultIn?, nestFault?] at h
    split at h
    · obtain rfl := Option.some.inj h
      exact .deep
    · exact isPlainFault_of_itemsFault? (left - 1) items hv h
  | .dict pairs, hv, h => by
    rw [faultIn?, nestFault?] at h
    split at h
    · obtain rfl := Option.some.inj h
      exact .deep
    · exact isPlainFault_of_pairsFault? (left - 1) pairs hv h

theorem isPlainFault_of_itemsFault? {f : WriteFault} (left : Nat) :
    (items : List Value) → arePlain items = true → itemsFault? left items = some f → IsPlainFault f
  | [], _, h => nomatch h
  | v :: items, hv, h => by
    rw [arePlain, Bool.and_eq_true] at hv
    rcases Option.or_eq_some_iff.mp h with h | ⟨-, h⟩
    · exact isPlainFault_of_faultIn? left v hv.1 h
    · exact isPlainFault_of_itemsFault? left items hv.2 h

theorem isPlainFault_of_pairsFault? {f : WriteFault} (left : Nat) :
    (pairs : List (Scalar × Value)) → arePlainPairs pairs = true → pairsFault? left pairs = some f →
    IsPlainFault f
  | [], _, h => nomatch h
  | (k, v) :: pairs, hv, h => by
    rw [arePlainPairs, Bool.and_eq_true, Bool.and_eq_true] at hv
    rw [pairsFault?, keyFault?_of_isName hv.1, Option.none_or] at h
    rcases Option.or_eq_some_iff.mp h with h | ⟨-, h⟩
    · exact isPlainFault_of_faultIn? left v hv.2.1 h
    · exact isPlainFault_of_pairsFault? left pairs hv.2.2 h

end

end Stencil.Json
