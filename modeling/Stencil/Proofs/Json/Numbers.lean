import Stencil.Proofs.Json.Line
import Stencil.Proofs.Number.Shortest

/-! Floating-point numbers are read back from their JSON text: every layout of the digits of a number writes
a decimal of the same value, and that decimal reads as the number. -/
namespace Stencil.Json

open Number (digits zeros twoDigits placePoint placeExponent floatText floatOfDecimal FloatStyle Binary
  shortest)

/-- The text cannot be taken for more of a number. -/
def AfterNumber (s : List Char) : Prop :=
  ∀ c rest, s = c :: rest → c.isDigit = false ∧ c ≠ '.' ∧ c ≠ 'e' ∧ c ≠ 'E'

theorem afterNumber_cons {c : Char} (hc : c.isDigit = false ∧ c ≠ '.' ∧ c ≠ 'e' ∧ c ≠ 'E')
    (s : List Char) : AfterNumber (c :: s) := by
  rintro d rest ⟨⟩
  exact hc

theorem AfterNumber.numberEnds {s : List Char} (h : AfterNumber s) : NumberEnds s :=
  fun c rest hs => (h c rest hs).1

/-! ### Digits and what they count -/

theorem natOf_eq (ds : List Char) : natOf ds = Nat.ofDigitChars 10 ds 0 := by
  unfold natOf Nat.ofDigitChars
  congr 1
  funext n c
  rw [mul_comm]
  rfl

theorem natOf_append (ds es : List Char) : natOf (ds ++ es) = 10 ^ es.length * natOf ds + natOf es := by
  simp only [natOf_eq, Nat.ofDigitChars_append]
  exact Nat.ofDigitChars_eq_ofDigitChars_zero

@[simp] theorem natOf_zeros (n : ℕ) : natOf (zeros n) = 0 := by
  simp [natOf_eq, zeros]

@[simp] theorem natOf_digits (k : ℕ) : natOf (digits k) = k := by
  rw [natOf_eq]
  exact Nat.ofDigitChars_ten_toDigits

@[simp] theorem natOf_twoDigits (k : ℕ) : natOf (twoDigits k) = k := by
  unfold twoDigits
  split
  · rw [show '0' :: digits k = zeros 1 ++ digits k from rfl, natOf_append, natOf_zeros, natOf_digits,
      mul_zero, zero_add]
  · exact natOf_digits k

/-- Whether a text is made of digits, of which there are some. -/
structure IsDigits (ds : List Char) : Prop where
  ne_nil : ds ≠ []
  digit : ∀ c ∈ ds, c.isDigit = true

theorem isDigits_digits (k : ℕ) : IsDigits (digits k) :=
  ⟨Nat.toDigits_ne_nil, fun _ => isDigit_of_mem_digits⟩

theorem isDigit_of_mem_zeros {n : ℕ} {c : Char} (h : c ∈ zeros n) : c.isDigit = true := by
  rw [List.eq_of_mem_replicate h]
  rfl

theorem isDigits_twoDigits (k : ℕ) : IsDigits (twoDigits k) := by
  unfold twoDigits
  split
  · refine ⟨List.cons_ne_nil _ _, fun c hc => ?_⟩
    rcases List.mem_cons.mp hc with rfl | hc
    · rfl
    · exact isDigit_of_mem_digits hc
  · exact isDigits_digits k

theorem digitChar_ne_zero : ∀ d < 10, 0 < d → Nat.digitChar d ≠ '0' := by decide

/-- The first digit of a number is not zero. -/
theorem head_digits_ne {k : ℕ} (hk : 0 < k) {c : Char} {ds : List Char} (h : digits k = c :: ds) :
    c ≠ '0' := by
  induction k using Nat.strongRecOn generalizing ds with
  | ind k ih =>
    rw [digits, Nat.toDigits_eq_if (by norm_num)] at h
    split at h
    case isTrue hlt =>
      obtain ⟨rfl, -⟩ := List.cons.inj h
      exact digitChar_ne_zero k hlt hk
    case isFalse hge =>
      obtain ⟨d, es, hes, -⟩ := exists_digits_cons (k / 10)
      have hsplit : Nat.toDigits 10 (k / 10) = d :: es := hes
      rw [hsplit, List.cons_append] at h
      obtain ⟨rfl, -⟩ := List.cons.inj h
      exact ih (k / 10) (by omega) (by omega) hes

/-! ### The parts of a number -/

theorem spanDigits_append {ds x : List Char} (hds : ∀ c ∈ ds, c.isDigit = true) (hx : NumberEnds x) :
    spanDigits (ds ++ x) = (ds, x) := by
  rw [spanDigits, List.span_eq_takeWhile_dropWhile, List.takeWhile_append_of_pos hds,
    List.dropWhile_append_of_pos hds]
  cases x with
  | nil => simp
  | cons c x => simp [hx c x rfl]

theorem readFraction_point {f x : List Char} (hf : IsDigits f) (hx : NumberEnds x) :
    readFraction ('.' :: (f ++ x)) = (f, x) := by
  simp only [readFraction, spanDigits_append hf.digit hx]
  split
  case h_1 heq => exact absurd (Prod.mk.inj heq).1 hf.ne_nil
  case h_2 => rfl

theorem readFraction_none {x : List Char} (hx : ∀ rest, x ≠ '.' :: rest) : readFraction x = ([], x) := by
  unfold readFraction
  split
  case h_1 rest => exact absurd rfl (hx rest)
  case h_2 => rfl

/-- The text of an exponent. -/
def exponentText (n : ℤ) : List Char := 'e' :: (if n < 0 then '-' else '+') :: twoDigits n.natAbs

theorem readExponent_text (n : ℤ) {x : List Char} (hx : NumberEnds x) :
    readExponent (exponentText n ++ x) = (some n, x) := by
  have hspan := spanDigits_append (isDigits_twoDigits n.natAbs).digit hx
  have hne := (isDigits_twoDigits n.natAbs).ne_nil
  unfold exponentText
  split
  case isTrue hn =>
    simp only [List.cons_append, readExponent, true_or, if_true, hspan]
    rw [natOf_twoDigits, Int.ofNat_eq_natCast, Int.ofNat_natAbs_of_nonpos hn.le, neg_one_mul, neg_neg]
  case isFalse hn =>
    simp only [List.cons_append, readExponent, true_or, if_true, hspan]
    rw [natOf_twoDigits, Int.ofNat_eq_natCast, Int.natAbs_of_nonneg (Int.not_lt.mp hn), one_mul]

theorem readExponent_none {x : List Char} (hx : AfterNumber x) : readExponent x = (none, x) := by
  cases x with
  | nil => rfl
  | cons c x =>
    obtain ⟨-, -, he, hE⟩ := hx c x rfl
    simp [readExponent, he, hE]

/-- A number with a fraction or an exponent is read as a decimal. -/
theorem readNumber_append {negative : Bool} {w t f u x : List Char} {exponent : Option ℤ}
    (hw : IsDigits w) (hlead : w = ['0'] ∨ ∀ rest, w ≠ '0' :: rest) (ht : NumberEnds t)
    (hf : readFraction t = (f, u)) (hexponent : readExponent u = (exponent, x))
    (hsome : f ≠ [] ∨ exponent ≠ none) :
    readNumber negative (w ++ t) = .ok (.float (floatOfDecimal negative (natOf (w ++ f))
      (exponent.getD 0 - f.length)), x) := by
  have hpart : (f.isEmpty && exponent.isNone) = false := by
    rcases hsome with h | h
    · simp [h]
    · simp [Option.ne_none_iff_isSome.mp h]
  have hspan := spanDigits_append hw.digit ht
  obtain ⟨c, ds, rfl⟩ := List.exists_cons_of_ne_nil hw.ne_nil
  by_cases hc : c = '0'
  · subst hc
    obtain rfl : ds = [] := by
      rcases hlead with h | h
      · exact (List.cons.inj h).2
      · exact absurd rfl (h ds)
    simp [readNumber, hf, hexponent, hpart]
  · rw [List.cons_append] at hspan ⊢
    simp [readNumber, hc, hspan, hf, hexponent, hpart]

/-! ### Layouts -/

/-- Whether a text, in front of something else, is read as a decimal of the value `x`. -/
def ReadsAs (s : List Char) (x : ℚ) : Prop :=
  ∃ (k : ℕ) (g : ℤ), 0 < k ∧ (k * 10 ^ g : ℚ) = x ∧ ∀ negative rest, AfterNumber rest →
    readNumber negative (s ++ rest) = .ok (.float (floatOfDecimal negative k g), rest)

theorem point_numberEnds (s : List Char) : NumberEnds ('.' :: s) := numberEnds_cons rfl s

/-- Digits with a point in front of the last ones. -/
theorem readsAs_point {w f : List Char} (hw : IsDigits w) (hlead : w = ['0'] ∨ ∀ rest, w ≠ '0' :: rest)
    (hf : IsDigits f) (hpos : 0 < natOf (w ++ f)) :
    ReadsAs (w ++ '.' :: f) (natOf (w ++ f) * 10 ^ (-(f.length : ℤ))) := by
  refine ⟨natOf (w ++ f), -f.length, hpos, rfl, fun negative rest hrest => ?_⟩
  rw [List.append_assoc, List.cons_append,
    readNumber_append hw hlead (point_numberEnds _) (readFraction_point hf hrest.numberEnds)
      (readExponent_none hrest) (.inl hf.ne_nil), Option.getD_none, zero_sub]

/-- Digits with a point, if there is one, and an exponent. -/
theorem readsAs_exponent {c : Char} {f : List Char} {n : ℤ} (hc : c.isDigit = true) (hne : c ≠ '0')
    (hf : ∀ d ∈ f, d.isDigit = true) (hpos : 0 < natOf (c :: f)) :
    ReadsAs ((if f = [] then [c] else c :: '.' :: f) ++ exponentText n)
      (natOf (c :: f) * 10 ^ (n - (f.length : ℤ))) := by
  have hw : IsDigits [c] := ⟨List.cons_ne_nil _ _, by simpa using hc⟩
  have hlead : [c] = ['0'] ∨ ∀ rest, [c] ≠ '0' :: rest :=
    .inr fun rest h => hne (List.cons.inj h).1
  have hends (s : List Char) : NumberEnds (exponentText n ++ s) := numberEnds_cons rfl _
  refine ⟨natOf (c :: f), n - f.length, hpos, rfl, fun negative rest hrest => ?_⟩
  split
  case isTrue h =>
    subst h
    rw [List.append_assoc, readNumber_append hw hlead (hends rest) (readFraction_none (fun _ h => by cases h))
      (readExponent_text n hrest.numberEnds) (.inr nofun)]
    rfl
  case isFalse h =>
    have hdigits : IsDigits f := ⟨h, hf⟩
    rw [show (c :: '.' :: f) ++ exponentText n ++ rest = [c] ++ '.' :: (f ++ (exponentText n ++ rest)) by simp,
      readNumber_append hw hlead (point_numberEnds _) (readFraction_point hdigits (hends rest))
        (readExponent_text n hrest.numberEnds) (.inl h)]
    rfl

theorem isDigits_zero : IsDigits ['0'] := ⟨List.cons_ne_nil _ _, by simp⟩

/-- Nothing behind the first digit of a number makes it begin with zero. -/
theorem digits_append_ne {k : ℕ} (hk : 0 < k) (s rest : List Char) : digits k ++ s ≠ '0' :: rest := by
  intro h
  obtain ⟨c, ds, hds, -⟩ := exists_digits_cons k
  rw [hds, List.cons_append] at h
  exact head_digits_ne hk hds (List.cons.inj h).1

/-- Zeros between the point and the digits. -/
theorem readsAs_zeros_digits {k n : ℕ} {g : ℤ} (hk : 0 < k) (hg : g = -(n + (digits k).length : ℤ)) :
    ReadsAs ('0' :: '.' :: (zeros n ++ digits k)) (k * 10 ^ g) := by
  have hf : IsDigits (zeros n ++ digits k) := by
    refine ⟨by simp [(isDigits_digits k).ne_nil], fun c hc => ?_⟩
    exact (List.mem_append.mp hc).elim isDigit_of_mem_zeros ((isDigits_digits k).digit c)
  have hvalue : natOf (['0'] ++ (zeros n ++ digits k)) = k := by
    rw [← List.append_assoc, show ['0'] ++ zeros n = zeros (n + 1) from rfl, natOf_append, natOf_zeros,
      natOf_digits, mul_zero, zero_add]
  have hexponent : -((zeros n ++ digits k).length : ℤ) = g := by
    rw [hg, List.length_append, zeros, List.length_replicate, Nat.cast_add]
  have h := readsAs_point isDigits_zero (.inl rfl) hf (by rwa [hvalue])
  rwa [hvalue, hexponent] at h

/-- Zeros between the digits and the point. -/
theorem readsAs_digits_zeros {k : ℕ} (hk : 0 < k) (n : ℕ) :
    ReadsAs (digits k ++ zeros n ++ ['.', '0']) (k * 10 ^ (n : ℤ)) := by
  have hw : IsDigits (digits k ++ zeros n) := by
    refine ⟨by simp [(isDigits_digits k).ne_nil], fun c hc => ?_⟩
    exact (List.mem_append.mp hc).elim ((isDigits_digits k).digit c) isDigit_of_mem_zeros
  have hvalue : natOf (digits k ++ zeros n ++ ['0']) = 10 ^ (n + 1) * k := by
    rw [List.append_assoc, show zeros n ++ ['0'] = zeros (n + 1) from List.replicate_succ'.symm,
      natOf_append, natOf_digits, natOf_zeros, zeros, List.length_replicate, add_zero]
  have h := readsAs_point hw (.inr (digits_append_ne hk _)) isDigits_zero (by rw [hvalue]; positivity)
  have hnumber : ((10 ^ (n + 1) * k : ℕ) : ℚ) * 10 ^ (-((['0'].length : ℕ) : ℤ)) = k * 10 ^ (n : ℤ) := by
    rw [zpow_natCast]
    push_cast
    simp
    ring
  rwa [hvalue, hnumber] at h

/-- The point between two of the digits. -/
theorem readsAs_split_digits {k n : ℕ} {g : ℤ} (hk : 0 < k) (hn : 0 < n) (hlt : n < (digits k).length)
    (hg : g = n - (digits k).length) :
    ReadsAs ((digits k).take n ++ '.' :: (digits k).drop n) (k * 10 ^ g) := by
  have hdigit : ∀ c ∈ digits k, c.isDigit = true := (isDigits_digits k).digit
  have hsplit := List.take_append_drop n (digits k)
  have hw : IsDigits ((digits k).take n) :=
    ⟨by simp [hn.ne', (isDigits_digits k).ne_nil], fun c hc => hdigit c (List.mem_of_mem_take hc)⟩
  have hf : IsDigits ((digits k).drop n) :=
    ⟨by simpa using hlt, fun c hc => hdigit c (List.mem_of_mem_drop hc)⟩
  have hfirst : ∀ rest, (digits k).take n ≠ '0' :: rest := by
    intro rest h
    rw [h] at hsplit
    exact head_digits_ne hk hsplit.symm rfl
  have hexponent : -(((digits k).drop n).length : ℤ) = g := by
    rw [List.length_drop]
    omega
  have h := readsAs_point hw (.inr hfirst) hf (by rwa [hsplit, natOf_digits])
  rwa [hsplit, natOf_digits, hexponent] at h

theorem readsAs_placePoint {k : ℕ} {g lead : ℤ} (hk : 0 < k)
    (hlead : lead = g + ((digits k).length - 1)) :
    ReadsAs (placePoint (digits k) lead) (k * 10 ^ g) := by
  unfold placePoint
  split
  case isTrue hneg => exact readsAs_zeros_digits hk (by omega)
  case isFalse hnonneg =>
    simp only
    split
    case isTrue hle =>
      obtain rfl : g = ((lead.toNat + 1 - (digits k).length : ℕ) : ℤ) := by omega
      exact readsAs_digits_zeros hk _
    case isFalse hgt => exact readsAs_split_digits hk (Nat.succ_pos _) (by omega) (by omega)

theorem readsAs_placeExponent {k : ℕ} {g lead : ℤ} (hk : 0 < k)
    (hlead : lead = g + ((digits k).length - 1)) :
    ReadsAs (placeExponent .json (digits k) lead) (k * 10 ^ g) := by
  obtain ⟨c, f, hcf, hc⟩ := exists_digits_cons k
  have hf : ∀ d ∈ f, d.isDigit = true := fun d hd =>
    (isDigits_digits k).digit d (hcf ▸ List.mem_cons_of_mem c hd)
  have hvalue : natOf (c :: f) = k := by rw [← hcf, natOf_digits]
  have h := readsAs_exponent (n := lead) hc (head_digits_ne hk hcf) hf (by rwa [hvalue])
  have hexponent : lead - (f.length : ℤ) = g := by
    rw [hlead, hcf, List.length_cons]
    push_cast
    ring
  rw [hvalue, hexponent] at h
  rw [hcf]
  cases f with
  | nil => exact h
  | cons d f => exact h

/-! ### Floating-point numbers -/

/-- The digits found for a double are read as the double, with either sign. -/
theorem readNumber_digits {x : Float} {negative : Bool} {m : ℕ} {e : ℤ} (hm : 0 < m)
    (hx : Binary.ofFloat x = .finite negative m e) {s : List Char}
    (hs : ReadsAs s ((shortest m e).1 * 10 ^ (shortest m e).2)) {rest : List Char}
    (hrest : AfterNumber rest) : readNumber negative (s ++ rest) = .ok (.float x, rest) := by
  have hcanonical := Number.canonical_of_unpack (Number.unpack_of_ofFloat hm hx)
  obtain ⟨k, g, hk, hvalue, hread⟩ := hs
  rw [hread negative rest hrest, Number.floatOfDecimal_eq hcanonical hx hk]
  rw [hvalue]
  exact (Number.shortest_rounds hcanonical).2

/-- The text of a finite number without its sign. -/
def magnitudeText (m : ℕ) (e : ℤ) : List Char :=
  if m = 0 then "0.0".toList
  else
    let (k, g) := shortest m e
    let ds := digits k
    let lead := g + (Int.ofNat ds.length - 1)
    if FloatStyle.json.leastPlain ≤ lead && lead < FloatStyle.json.firstScaled then placePoint ds lead
    else placeExponent .json ds lead

theorem floatText_finite {x : Float} {negative : Bool} {m : ℕ} {e : ℤ}
    (hx : Binary.ofFloat x = .finite negative m e) :
    floatText .json x = (if negative then ['-'] else []) ++ magnitudeText m e := by
  unfold floatText
  rw [hx]
  rfl

theorem readNumber_magnitude {x : Float} {negative : Bool} {m : ℕ} {e : ℤ}
    (hx : Binary.ofFloat x = .finite negative m e) {rest : List Char} (hrest : AfterNumber rest) :
    readNumber negative (magnitudeText m e ++ rest) = .ok (.float x, rest) := by
  unfold magnitudeText
  split
  case isTrue hm =>
    subst hm
    have hzero : floatOfDecimal negative 0 (-1) = x := by
      rw [Number.exponent_of_zero hx] at hx
      refine Binary.ofFloat_injective (Eq.trans ?_ hx.symm)
      cases negative <;> decide +kernel
    have hread := @readNumber_append negative _ _ _ _ _ _ isDigits_zero (.inl rfl) (point_numberEnds _)
      (readFraction_point isDigits_zero hrest.numberEnds) (readExponent_none hrest)
      (.inl (List.cons_ne_nil _ _))
    rw [← hzero]
    exact hread
  case isFalse hm =>
    have hm := Nat.pos_of_ne_zero hm
    have hcanonical := Number.canonical_of_unpack (Number.unpack_of_ofFloat hm hx)
    have hpos := (Number.shortest_rounds hcanonical).1
    simp only
    split
    · exact readNumber_digits hm hx (readsAs_placePoint hpos rfl) hrest
    · exact readNumber_digits hm hx (readsAs_placeExponent hpos rfl) hrest

/-- What is read as a number begins with a digit. -/
theorem exists_cons_of_readNumber {negative : Bool} {s : List Char} {r : Value × List Char}
    (h : readNumber negative s = .ok r) : ∃ c t, s = c :: t ∧ c.isDigit = true := by
  cases s with
  | nil => cases h
  | cons c t =>
    refine ⟨c, t, rfl, ?_⟩
    by_contra hc
    have hzero : c ≠ '0' := by
      rintro rfl
      exact hc rfl
    have hspan : spanDigits (c :: t) = ([], c :: t) :=
      spanDigits_append (List.forall_mem_nil _) (numberEnds_cons (by simpa using hc) t)
    simp [readNumber, hzero, hspan] at h

theorem ne_of_isDigit {c d : Char} (hc : c.isDigit = true) (hd : d.isDigit = false) : d ≠ c := by
  rintro rfl
  rw [hc] at hd
  cases hd

/-- A number is none of the words. -/
theorem findWord_digit {c : Char} (hc : c.isDigit = true) (s : List Char) :
    (words.findSome? fun w => (expectWord w.1 (c :: s)).map (w.2, ·)) = none := by
  have hne {d : Char} (hd : d.isDigit = false) : d ≠ c := ne_of_isDigit hc hd
  simp [words, expectWord, hne]

theorem findWord_minus {c : Char} (hc : c.isDigit = true) (s : List Char) :
    (words.findSome? fun w => (expectWord w.1 ('-' :: c :: s)).map (w.2, ·)) = none := by
  have hne {d : Char} (hd : d.isDigit = false) : d ≠ c := ne_of_isDigit hc hd
  simp [words, expectWord, hne]

/-- A floating-point number is read back from its text. -/
theorem readScalar_floatText (x : Float) {rest : List Char} (hrest : AfterNumber rest) :
    readScalar (floatText .json x ++ rest) = .ok (.float x, rest) := by
  cases hx : Binary.ofFloat x with
  | nan =>
    have hnan : (0.0 / 0.0 : Float) = x :=
      Binary.ofFloat_injective (Eq.trans (by decide +kernel) hx.symm)
    unfold floatText
    rw [hx, ← hnan]
    rfl
  | infinite negative =>
    have hinfinite : (if negative then -1.0 / 0.0 else 1.0 / 0.0 : Float) = x :=
      Binary.ofFloat_injective (Eq.trans (by cases negative <;> decide +kernel) hx.symm)
    unfold floatText
    rw [hx, ← hinfinite]
    cases negative <;> rfl
  | finite negative m e =>
    have hread := readNumber_magnitude hx hrest
    obtain ⟨c, s, hcs, hc⟩ := exists_cons_of_readNumber hread
    rw [floatText_finite hx]
    unfold readScalar
    cases negative with
    | true =>
      rw [if_pos rfl, List.append_assoc, List.singleton_append, hcs, findWord_minus hc]
      rw [hcs] at hread
      exact hread
    | false =>
      rw [if_neg Bool.false_ne_true, List.nil_append, hcs, findWord_digit hc]
      rw [hcs] at hread
      simp only
      split
      case h_1 heq => exact absurd (List.cons.inj heq).1.symm (ne_of_isDigit hc rfl)
      case h_2 => exact hread

end Stencil.Json
