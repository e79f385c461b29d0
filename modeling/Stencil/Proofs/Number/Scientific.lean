import Stencil.Number.FloatText
import Stencil.Proofs.Number.Rounding

/-! Decimals as doubles. A decimal comes to the one double that it lies next to, both where its digits and
its power of ten are doubles themselves and where they are not. -/
namespace Stencil.Number

open Float.Model (UnpackedFloat Format totalExponent)
open Float.Model.UnpackedFloat

variable {m : ℕ} {e : ℤ} {x : ℚ}

/-! ### Products and quotients -/

theorem mul_eq {s s' : Sign} {n n' : ℕ} {d d' : ℤ} {hn : 0 < n} {hn' : 0 < n'} (hm : Canonical m e)
    (hx : RoundsTo m e (n * 2 ^ d * (n' * 2 ^ d'))) (hlarge : 2 ^ 52 ≤ n * n') :
    UnpackedFloat.mul .binary64 (.finite s n d hn) (.finite s' n' d' hn') =
      .finite (s * s') m e hm.pos := by
  refine roundWithAccuracy_eq hm hx ?_ (.inr hlarge)
  rw [show (n * 2 ^ d * (n' * 2 ^ d') : ℚ) / 2 ^ (d + d') = (n * n' : ℕ) by
    rw [zpow_add₀ two_ne_zero]
    push_cast
    field_simp]
  exact represents_exact _

/-- The leading bit of a mantissa bounds the number from both sides. -/
theorem pow_log2_le {n : ℕ} (hn : 0 < n) (d : ℤ) :
    (2 : ℚ) ^ (totalExponent n d - 1) ≤ n * 2 ^ d ∧ (n * 2 ^ d : ℚ) < 2 ^ totalExponent n d := by
  have h : Represents (.ofMantissaAndAccuracy n .exact) ((n * 2 ^ d : ℚ) / 2 ^ d) := by
    rw [mul_div_cancel_right₀ _ (zpow_ne_zero d two_ne_zero)]
    exact represents_exact n
  obtain ⟨hlow, hhigh⟩ := pow_le_lt hn h
  refine ⟨hlow.trans_eq' ?_, hhigh.trans_eq ?_⟩ <;> unfold totalExponent <;> congr 1 <;> ring

/-- A quotient is taken to enough bits: of a fraction with a longer numerator. -/
theorem exists_divCore {n n' : ℕ} (hn : 0 < n) (hn' : 0 < n') (d d' : ℤ) :
    ∃ k t, divCore .binary64 n d n' d' = (k / n', t, accuracyOfFraction (k % n') n') ∧
      (k / n' : ℚ) = n * 2 ^ d / (n' * 2 ^ d') / 2 ^ t ∧ (t ≤ minExponent ∨ 2 ^ 52 ≤ k / n') := by
  set total := totalExponent n d - totalExponent n' d' with htotal
  have htarget : Format.binary64.targetExponent total = max (total - 53) minExponent := rfl
  set t := min (d - d') (max (total - 53) minExponent) with ht
  have hvalue : ((n <<< (d - d' - t).toNat : ℕ) / n' : ℚ) = n * 2 ^ d / (n' * 2 ^ d') / 2 ^ t := by
    have hpow : (2 : ℚ) ^ (d - d' - t).toNat = 2 ^ d / 2 ^ d' / 2 ^ t := by
      rw [← zpow_natCast, Int.toNat_of_nonneg (by omega), zpow_sub₀ two_ne_zero, zpow_sub₀ two_ne_zero]
    rw [Nat.shiftLeft_eq]
    push_cast
    rw [hpow]
    field_simp
  refine ⟨n <<< (d - d' - t).toNat, t, rfl, hvalue, ?_⟩
  by_cases hsmall : t ≤ minExponent
  · exact .inl hsmall
  · right
    have hquotient : (2 : ℚ) ^ (52 : ℕ) < n * 2 ^ d / (n' * 2 ^ d') / 2 ^ t := by
      rw [lt_div_iff₀ (by positivity), lt_div_iff₀ (by positivity)]
      calc (2 : ℚ) ^ (52 : ℕ) * 2 ^ t * (n' * 2 ^ d')
          < 2 ^ (52 : ℕ) * 2 ^ t * 2 ^ totalExponent n' d' := by
            gcongr
            exact (pow_log2_le hn' d').2
        _ = 2 ^ (52 + t + totalExponent n' d') := by
            rw [zpow_add₀ two_ne_zero, zpow_add₀ two_ne_zero]
            norm_cast
        _ ≤ 2 ^ (totalExponent n d - 1) := by
            gcongr
            · exact one_le_two
            · omega
        _ ≤ n * 2 ^ d := (pow_log2_le hn d).1
    rw [Nat.le_div_iff_mul_le hn']
    rw [← hvalue, lt_div_iff₀ (by positivity)] at hquotient
    exact_mod_cast hquotient.le

theorem div_eq {s s' : Sign} {n n' : ℕ} {d d' : ℤ} {hn : 0 < n} {hn' : 0 < n'} (hm : Canonical m e)
    (hx : RoundsTo m e (n * 2 ^ d / (n' * 2 ^ d'))) :
    UnpackedFloat.div .binary64 (.finite s n d hn) (.finite s' n' d' hn') =
      .finite (s / s') m e hm.pos := by
  obtain ⟨k, t, hcore, hvalue, hlarge⟩ := exists_divCore hn hn' d d'
  unfold UnpackedFloat.div
  simp only [hcore]
  refine roundWithAccuracy_eq hm hx ?_ hlarge
  rw [← hvalue]
  exact represents_fraction hn'

/-! ### Numbers that are doubles themselves -/

/-- A whole number of at most fifty-three bits, moved up until the first of them is taken. -/
theorem canonical_shiftLeft {k : ℕ} (hpos : 0 < k) (hlt : k < 2 ^ 53) :
    Canonical (k <<< (52 - k.log2)) (-(52 - k.log2 : ℕ)) := by
  obtain ⟨hlow, hhigh⟩ := (Nat.log2_eq_iff hpos.ne').mp (rfl : k.log2 = k.log2)
  have hlog : k.log2 < 53 := (Nat.log2_lt hpos.ne').mpr hlt
  rw [Nat.shiftLeft_eq]
  have hlow' : 2 ^ 52 ≤ k * 2 ^ (52 - k.log2) :=
    calc 2 ^ 52 = 2 ^ k.log2 * 2 ^ (52 - k.log2) := by rw [← pow_add]; congr 1; omega
      _ ≤ k * 2 ^ (52 - k.log2) := by gcongr
  have hhigh' : k * 2 ^ (52 - k.log2) < 2 ^ 53 :=
    calc k * 2 ^ (52 - k.log2) < 2 ^ (k.log2 + 1) * 2 ^ (52 - k.log2) := by gcongr
      _ = 2 ^ 53 := by rw [← pow_add]; congr 1; omega
  exact ⟨by omega, hhigh', by unfold minExponent; omega, by omega, .inl hlow'⟩

/-- Rounding a whole number of at most fifty-three bits loses none of them. -/
theorem ofUInt64_eq {k : ℕ} (hpos : 0 < k) (hlt : k < 2 ^ 53) :
    UnpackedFloat.ofUInt64 .binary64 k.toUInt64 =
      .finite .positive (k <<< (52 - k.log2)) (-(52 - k.log2 : ℕ)) (canonical_shiftLeft hpos hlt).pos := by
  have hm := canonical_shiftLeft hpos hlt
  have hk : k.toUInt64.toNat = k := by
    rw [Nat.toUInt64_eq, UInt64.toNat_ofNat']
    omega
  have hvalue : (k : ℤ).toNat = k := Int.toNat_natCast k
  have hdecrease : decreaseExponent k 0 (Format.binary64.targetExponent (totalExponent k 0)) =
      (k <<< (52 - k.log2), -((52 - k.log2 : ℕ) : ℤ)) := by
    have hamount : (-Format.binary64.targetExponent (totalExponent k 0)).toNat = 52 - k.log2 := by
      rw [targetExponent_eq]
      unfold minExponent
      omega
    unfold decreaseExponent
    simp only [zero_sub, hamount]
  unfold UnpackedFloat.ofUInt64 UnpackedFloat.ofNat UnpackedFloat.ofInt UnpackedFloat.normalize
  rw [hk, compare_gt_iff_gt.mpr (by exact_mod_cast hpos)]
  simp only [UnpackedFloat.round, hvalue, hdecrease]
  refine roundWithAccuracy_eq hm (roundsTo_self _ _) ?_
    (.inr (hm.normal.resolve_right (by unfold minExponent; omega)))
  rw [mul_div_cancel_right₀ _ (zpow_ne_zero _ two_ne_zero)]
  exact represents_exact _

/-- A whole number of at most fifty-three bits is a double. -/
theorem exists_unpack_toFloat {k : ℕ} (hpos : 0 < k) (hlt : k < 2 ^ 53) :
    ∃ n d, ∃ hn : 0 < n, k.toUInt64.toFloat.toModel.unpack = .finite .positive n d hn ∧
      2 ^ 52 ≤ n ∧ (n * 2 ^ d : ℚ) = k := by
  have hm := canonical_shiftLeft hpos hlt
  refine ⟨k <<< (52 - k.log2), -(52 - k.log2 : ℕ), hm.pos, ?_,
    hm.normal.resolve_right (by unfold minExponent; omega), ?_⟩
  · change (Float.Model.pack (UnpackedFloat.ofUInt64 .binary64 k.toUInt64)).unpack = _
    rw [ofUInt64_eq hpos hlt, unpack_pack hm]
  · rw [Nat.shiftLeft_eq, Nat.cast_mul, Nat.cast_pow, mul_assoc, Nat.cast_ofNat, ← zpow_natCast,
      ← zpow_add₀ two_ne_zero]
    simp

/-- A double whose bits are those of a finite number is unpacked to it. -/
theorem unpack_of_ofFloat {x : Float} {negative : Bool} {n : ℕ} {d : ℤ} (hn : 0 < n)
    (h : Binary.ofFloat x = .finite negative n d) :
    x.toModel.unpack = .finite (if negative then .negative else .positive) n d hn := by
  rw [Binary.ofFloat_eq] at h
  cases hu : x.toModel.unpack with
  | notANumber => rw [hu] at h; cases h
  | infinity s => rw [hu] at h; cases h
  | zero s =>
    rw [hu] at h
    obtain ⟨-, rfl, -⟩ := Binary.finite.inj h
    exact absurd hn (lt_irrefl 0)
  | finite s n' d' hn' =>
    rw [hu] at h
    obtain ⟨hs, rfl, rfl⟩ := Binary.finite.inj h
    cases s <;> cases hs <;> rfl

theorem cast_powerOfTwo {k : ℤ} (hk : 0 ≤ k) : (powerOfTwo k : ℚ) = 2 ^ k := by
  rw [powerOfTwo, Nat.pow_eq, Nat.cast_pow, ← zpow_natCast, Int.toNat_of_nonneg hk]
  rfl

theorem powerOfTwo_pos (k : ℤ) : 0 < powerOfTwo k := Nat.pow_pos two_pos

/-- A finite number with nothing after the point, as a product. -/
theorem exists_of_whole? {b : Binary} {k : ℕ} (hk : 0 < k) (h : b.whole? = some (k : ℤ)) :
    ∃ n d, 0 < n ∧ b = .finite false n d ∧ (n * 2 ^ d : ℚ) = k := by
  cases b with
  | nan => cases h
  | infinite s => cases h
  | finite negative n d =>
    unfold Binary.whole? at h
    simp only [Binary.truncate?] at h
    split at h
    case isFalse => cases h
    case isTrue hwhole =>
    have hk' := Option.some.inj h
    have hsign : negative = false := by
      cases negative with
      | false => rfl
      | true =>
        simp only [if_true, Int.ofNat_eq_natCast] at hk'
        omega
    subst hsign
    simp only [Bool.false_eq_true, if_false, Int.ofNat_eq_natCast, Nat.cast_inj] at hk'
    by_cases hd : 0 ≤ d
    · rw [if_pos hd] at hk'
      refine ⟨n, d, ?_, rfl, ?_⟩
      · by_contra hn
        obtain rfl : n = 0 := by omega
        omega
      · rw [← hk', Nat.cast_mul, cast_powerOfTwo hd]
    · rw [if_neg hd] at hk'
      have hdvd : powerOfTwo (-d) ∣ n := by
        simp only [hd, decide_false, Bool.false_or, beq_iff_eq] at hwhole
        exact Nat.dvd_of_mod_eq_zero hwhole
      have hn : n = k * powerOfTwo (-d) := by rw [← hk', Nat.div_mul_cancel hdvd]
      refine ⟨n, d, ?_, rfl, ?_⟩
      · rw [hn]
        exact Nat.mul_pos hk (powerOfTwo_pos _)
      · rw [hn, Nat.cast_mul, cast_powerOfTwo (by omega), mul_assoc, ← zpow_add₀ two_ne_zero]
        simp

/-- The first powers of ten are doubles. -/
theorem exists_unpack_powerOfTen {k : ℕ} (h : k < Float.exactlyRepresentablePowersOfTen.size) :
    ∃ n d, ∃ hn : 0 < n, Float.exactlyRepresentablePowersOfTen[k].toModel.unpack =
      .finite .positive n d hn ∧ (n * 2 ^ d : ℚ) = 10 ^ k := by
  have hall : ∀ k : Fin 23,
      (Binary.ofFloat Float.exactlyRepresentablePowersOfTen[k]).whole? = some ((10 ^ k.val : ℕ) : ℤ) := by
    decide +kernel
  obtain ⟨n, d, hn, hof, hvalue⟩ := exists_of_whole? (by positivity) (hall ⟨k, h⟩)
  exact ⟨n, d, hn, unpack_of_ofFloat hn hof, by exact_mod_cast hvalue⟩

/-! ### Decimals -/

/-- What rounds to a double is neither too small nor too large for one. -/
theorem RoundsTo.bounds (hm : Canonical m e) (hx : RoundsTo m e x) :
    (2 : ℚ) ^ (-1075 : ℤ) ≤ x ∧ x < (2 : ℚ) ^ (1024 : ℤ) := by
  have hleast : -1074 ≤ e := hm.least
  have hpos : (1 : ℚ) ≤ m := by exact_mod_cast hm.pos
  constructor
  · calc (2 : ℚ) ^ (-1075 : ℤ) = 1 / 2 * 2 ^ (-1074 : ℤ) := by
          rw [show (-1075 : ℤ) = -1 + -1074 from rfl, zpow_add₀ two_ne_zero, zpow_neg_one, one_div]
      _ ≤ (m - 1 / 2) * 2 ^ e := by
          gcongr
          · linarith
          · linarith
          · exact one_le_two
      _ ≤ x := (half_le_lowEnd m e).trans hx.low
  · calc x < 2 ^ (e + 53) := hx.lt_pow hm
      _ ≤ (2 : ℚ) ^ (1024 : ℤ) := by
          have := hm.greatest
          gcongr
          · exact one_le_two
          · omega

/-- Three bits make less than one digit. -/
theorem two_zpow_le_ten_zpow {g : ℤ} (hg : 0 ≤ g) : (2 : ℚ) ^ (3 * g) ≤ 10 ^ g := by
  rw [zpow_mul]
  exact zpow_le_zpow_left₀ hg (by norm_num) (by norm_num)

theorem ten_zpow_le_two_zpow {g : ℤ} (hg : g ≤ 0) : (10 : ℚ) ^ g ≤ 2 ^ (3 * g) := by
  have h := two_zpow_le_ten_zpow (show 0 ≤ -g by omega)
  rw [mul_neg, zpow_neg, zpow_neg] at h
  exact (inv_le_inv₀ (by positivity) (by positivity)).mp h

/-- A decimal that rounds to a double has few digits in front of the point. -/
theorem RoundsTo.exponent_le {k : ℕ} {g : ℤ} (hm : Canonical m e) (hk : 0 < k)
    (hx : RoundsTo m e (k * 10 ^ g)) : g ≤ 341 := by
  by_contra hlarge
  have hone : (1 : ℚ) ≤ k := by exact_mod_cast hk
  have hlt := calc (2 : ℚ) ^ (3 * g) ≤ 10 ^ g := two_zpow_le_ten_zpow (by omega)
    _ ≤ k * 10 ^ g := le_mul_of_one_le_left (by positivity) hone
    _ < 2 ^ (1024 : ℤ) := (hx.bounds hm).2
  have := (zpow_lt_zpow_iff_right₀ (one_lt_two (α := ℚ))).mp hlt
  omega

/-- A decimal that rounds to a double has few zeros behind the point. -/
theorem RoundsTo.lt_exponent {k n : ℕ} {g : ℤ} (hm : Canonical m e) (hk : k < 10 ^ n)
    (hx : RoundsTo m e (k * 10 ^ g)) : -359 < n + g := by
  by_contra hsmall
  have hlt := calc (2 : ℚ) ^ (-1075 : ℤ) ≤ k * 10 ^ g := (hx.bounds hm).1
    _ < 10 ^ n * 10 ^ g := by
        gcongr
        exact_mod_cast hk
    _ = 10 ^ (n + g) := by rw [zpow_add₀ (by norm_num), zpow_natCast]
    _ ≤ 2 ^ (3 * (n + g)) := ten_zpow_le_two_zpow (by omega)
  have := (zpow_lt_zpow_iff_right₀ (one_lt_two (α := ℚ))).mp hlt
  omega

/-- A decimal comes to the double that it rounds to. -/
theorem unpacked_ofScientific_eq {k : ℕ} {g : ℤ} (hm : Canonical m e) (hk : 0 < k)
    (hx : RoundsTo m e (k * 10 ^ g)) :
    UnpackedFloat.ofScientific .binary64 k g = .finite .positive m e hm.pos := by
  have hlarge : ¬g > 2 ^ 11 := by
    have := hx.exponent_le hm hk
    omega
  have hsmall : ¬g < -(2 ^ 11 + (k.log2 : ℤ)) := by
    have hlt : k < 10 ^ (k.log2 + 1) := Nat.lt_log2_self.trans_le (Nat.pow_le_pow_left (by norm_num) _)
    have := hx.lt_exponent hm hlt
    push_cast at this
    omega
  unfold UnpackedFloat.ofScientific
  rw [dif_neg hk.ne', if_neg hlarge, if_neg hsmall]
  split
  case isTrue hg =>
    have hpow : ((10 ^ g.toNat : ℕ) : ℚ) = 10 ^ g := by
      rw [Nat.cast_pow, ← zpow_natCast, Int.toNat_of_nonneg hg, Nat.cast_ofNat]
    refine mul_eq hm ?_ ?_
    · rw [hpow, Nat.shiftLeft_eq, Nat.cast_mul, Nat.cast_pow, Nat.cast_ofNat, mul_assoc (k : ℚ),
        ← zpow_natCast, ← zpow_add₀ two_ne_zero, add_neg_cancel, zpow_zero, mul_one, mul_one]
      exact hx
    · rw [Nat.shiftLeft_eq, mul_assoc]
      calc 2 ^ 52 ≤ 2 ^ Format.binary64.mantissaBits := by decide
        _ ≤ k * (2 ^ Format.binary64.mantissaBits * 10 ^ g.toNat) :=
          Nat.le_mul_of_pos_left _ hk |>.trans' (Nat.le_mul_of_pos_right _ (by positivity))
  case isFalse hg =>
    have hpow : ((10 ^ (-g).toNat : ℕ) : ℚ) = (10 ^ g)⁻¹ := by
      rw [Nat.cast_pow, ← zpow_natCast, Int.toNat_of_nonneg (by omega), Nat.cast_ofNat, zpow_neg]
    refine div_eq hm ?_
    rw [hpow, zpow_zero, mul_one, mul_one, div_inv_eq_mul]
    exact hx

theorem ofScientific_eq {y : Float} {k n : ℕ} {small : Bool} (hm : Canonical m e)
    (hy : y.toModel.unpack = .finite .positive m e hm.pos) (hk : 0 < k)
    (hx : RoundsTo m e (k * 10 ^ (if small then -(n : ℤ) else n))) :
    Float.ofScientific k small n = y := by
  rw [← ofModel_pack hy]
  unfold Float.ofScientific
  split
  case isTrue h =>
    -- both the digits and the power of ten are doubles, so one operation rounds once
    obtain ⟨d, t, hd, hunpack, hlarge, hvalue⟩ := exists_unpack_toFloat hk h.1
    obtain ⟨d', t', hd', hunpack', hvalue'⟩ :=
      exists_unpack_powerOfTen (show n < Float.exactlyRepresentablePowersOfTen.size from
        Nat.lt_succ_of_le h.2)
    cases small with
    | true =>
      change Float.ofModel (.pack (UnpackedFloat.div .binary64 _ _)) = _
      rw [hunpack, hunpack', div_eq hm]
      · rfl
      · rw [hvalue, hvalue']
        simpa [div_eq_mul_inv] using hx
    | false =>
      change Float.ofModel (.pack (UnpackedFloat.mul .binary64 _ _)) = _
      rw [hunpack, hunpack', mul_eq hm]
      · rfl
      · rw [hvalue, hvalue']
        simpa using hx
      · exact hlarge.trans (Nat.le_mul_of_pos_right _ hd')
  case isFalse =>
    change Float.ofModel (.pack (UnpackedFloat.ofScientific .binary64 k _)) = _
    rw [unpacked_ofScientific_eq hm hk]
    cases small with
    | true => simpa [Int.negOfNat_eq] using hx
    | false => simpa using hx

/-- Digits as they are counted. -/
theorem length_digits_le_iff {k n : ℕ} (hn : 0 < n) : (digits k).length ≤ n ↔ k < 10 ^ n :=
  Nat.length_toDigits_le_iff (by norm_num) hn

theorem lt_pow_length_digits (k : ℕ) : k < 10 ^ (digits k).length :=
  (length_digits_le_iff Nat.length_toDigits_pos).mp le_rfl

/-- A decimal reads as the double that it rounds to, with its sign. -/
theorem floatOfDecimal_eq {y : Float} {negative : Bool} {k : ℕ} {g : ℤ} (hm : Canonical m e)
    (hy : Binary.ofFloat y = .finite negative m e) (hk : 0 < k) (hx : RoundsTo m e (k * 10 ^ g)) :
    floatOfDecimal negative k g = y := by
  have hsmall : ¬g < -(Int.ofNat (digits k).length) - 400 := by
    have := hx.lt_exponent hm (lt_pow_length_digits k)
    simp only [Int.ofNat_eq_natCast]
    omega
  have hlarge : ¬400 < g := by
    have := hx.exponent_le hm hk
    omega
  -- the double without its sign
  let z := Float.ofModel (.pack (.finite .positive m e hm.pos))
  have hz : z.toModel.unpack = .finite .positive m e hm.pos := unpack_pack hm
  have hscientific :
      (if g < 0 then Float.ofScientific k true g.natAbs else Float.ofScientific k false g.natAbs) = z := by
    split
    case isTrue hg =>
      refine ofScientific_eq hm hz hk ?_
      rw [if_pos rfl, Int.ofNat_natAbs_of_nonpos hg.le, neg_neg]
      exact hx
    case isFalse hg =>
      refine ofScientific_eq hm hz hk ?_
      rw [if_neg Bool.false_ne_true, Int.natAbs_of_nonneg (Int.not_lt.mp hg)]
      exact hx
  have hunpack := unpack_of_ofFloat hm.pos hy
  unfold floatOfDecimal
  simp only [if_neg hk.ne', if_neg hsmall, if_neg hlarge, hscientific]
  cases negative with
  | false => exact ofModel_pack hunpack
  | true =>
    change Float.ofModel (.pack z.toModel.unpack.neg) = y
    rw [hz]
    exact ofModel_pack hunpack

end Stencil.Number
