import Stencil.Proofs.Number.Unpacked

/-! Rounding to doubles. A number is cut to a mantissa of which two bits more are kept, so that nothing that
decides the rounding is lost. Whatever lies between the ends around a double comes out as that double. -/
namespace Stencil.Number

open Float.Model (UnpackedFloat Format totalExponent)
open Float.Model.UnpackedFloat

/-! ### Mantissas cut short -/

/-- What a mantissa with its round bit and its sticky bit says of the number that was cut to it. -/
def Represents (em : ExtendedMantissa) (x : ℚ) : Prop :=
  if em.roundBit then
    if em.stickyBit then (em.mantissa : ℚ) + 1 / 2 < x ∧ x < em.mantissa + 1
    else x = em.mantissa + 1 / 2
  else
    if em.stickyBit then (em.mantissa : ℚ) < x ∧ x < em.mantissa + 1 / 2
    else x = em.mantissa

namespace Represents

variable {em : ExtendedMantissa} {x : ℚ}

theorem le (h : Represents em x) : (em.mantissa : ℚ) ≤ x := by
  unfold Represents at h
  split at h <;> split at h <;> linarith

theorem lt_add_one (h : Represents em x) : x < em.mantissa + 1 := by
  unfold Represents at h
  split at h <;> split at h <;> linarith

theorem shiftRightOne (h : Represents em x) : Represents em.shiftRightOne (x / 2) := by
  obtain ⟨m, r, s⟩ := em
  have hm : ((m % 2 : ℕ) : ℚ) + 2 * ((m / 2 : ℕ) : ℚ) = m := by exact_mod_cast Nat.mod_add_div m 2
  unfold Represents at *
  rcases Nat.mod_two_eq_zero_or_one m with hodd | hodd <;> cases r <;> cases s <;>
    simp_all [ExtendedMantissa.shiftRightOne] <;> (try constructor) <;> linarith

/-- No more of the number is lost by cutting the mantissa further. -/
theorem shiftRight (h : Represents em x) (n : ℕ) : Represents (em >>> n) (x / 2 ^ n) := by
  change Represents (n.repeat ExtendedMantissa.shiftRightOne em) _
  induction n with
  | zero => simpa [Nat.repeat] using h
  | succ n ih => simpa only [Nat.repeat, pow_succ, div_mul_eq_div_div] using ih.shiftRightOne

/-- The mantissa is rounded to the nearest whole number, and to the even one of two. -/
theorem roundedMantissa_eq {r : ℕ} (h : Represents em x) (hlow : (r : ℚ) - 1 / 2 ≤ x)
    (hhigh : x ≤ r + 1 / 2) (hopen : r % 2 = 1 → (r : ℚ) - 1 / 2 < x ∧ x < r + 1 / 2) :
    em.roundedMantissa = r := by
  obtain ⟨m, round, sticky⟩ := em
  unfold Represents at h
  cases round <;> cases sticky <;>
    simp only [Bool.false_eq_true, if_true, if_false] at h <;>
    simp only [ExtendedMantissa.roundedMantissa, ExtendedMantissa.accuracy,
      Accuracy.roundToNearestEven]
  · have hle : 2 * r ≤ 2 * m + 1 := by exact_mod_cast (by linarith : (2 * r : ℚ) ≤ 2 * m + 1)
    have hge : 2 * m ≤ 2 * r + 1 := by exact_mod_cast (by linarith : (2 * m : ℚ) ≤ 2 * r + 1)
    omega
  · have hlt : r < m + 1 := by exact_mod_cast (by linarith : (r : ℚ) < m + 1)
    have hgt : 2 * m < 2 * r + 1 := by exact_mod_cast (by linarith : (2 * m : ℚ) < 2 * r + 1)
    omega
  · have hle : r ≤ m + 1 := by exact_mod_cast (by linarith : (r : ℚ) ≤ m + 1)
    have hge : m ≤ r := by exact_mod_cast (by linarith : (m : ℚ) ≤ r)
    -- the number is midway, so the one of its neighbours that it rounds to is even
    have heven : r % 2 = 0 := by
      by_contra hodd
      obtain ⟨hlt, hgt⟩ := hopen (by omega)
      have : r < m + 1 := by exact_mod_cast (by linarith : (r : ℚ) < m + 1)
      have : m < r := by exact_mod_cast (by linarith : (m : ℚ) < r)
      omega
    omega
  · have hlt : 2 * r < 2 * m + 3 := by exact_mod_cast (by linarith : (2 * r : ℚ) < 2 * m + 3)
    have hgt : m < r := by exact_mod_cast (by linarith : (m : ℚ) < r)
    omega

end Represents

@[simp] theorem mantissa_ofMantissaAndAccuracy (m : ℕ) (accuracy : Accuracy) :
    (ExtendedMantissa.ofMantissaAndAccuracy m accuracy).mantissa = m := by
  unfold ExtendedMantissa.ofMantissaAndAccuracy
  split <;> rfl

theorem represents_exact (m : ℕ) : Represents (.ofMantissaAndAccuracy m .exact) m := by
  simp [Represents, ExtendedMantissa.ofMantissaAndAccuracy]

theorem represents_fraction {n d : ℕ} (hd : 0 < d) :
    Represents (.ofMantissaAndAccuracy (n / d) (accuracyOfFraction (n % d) d)) (n / d : ℚ) := by
  have hd' : (0 : ℚ) < d := by exact_mod_cast hd
  have hn : (n : ℚ) = d * ((n / d : ℕ) : ℚ) + ((n % d : ℕ) : ℚ) := by exact_mod_cast (Nat.div_add_mod n d).symm
  have hrest : (n : ℚ) / d = ((n / d : ℕ) : ℚ) + ((n % d : ℕ) : ℚ) / d := by
    rw [hn]
    field_simp
  have hlt : ((n % d : ℕ) : ℚ) / d < 1 := by
    rw [div_lt_one hd']
    exact_mod_cast Nat.mod_lt n hd
  rw [hrest]
  generalize n / d = q at *
  generalize hrem : n % d = rem at *
  unfold accuracyOfFraction
  by_cases hzero : rem = 0
  · simp [hzero, Represents, ExtendedMantissa.ofMantissaAndAccuracy]
  · have hpos : (0 : ℚ) < (rem : ℚ) / d := div_pos (by exact_mod_cast Nat.pos_of_ne_zero hzero) hd'
    rw [if_neg hzero]
    rcases lt_trichotomy (2 * rem) d with h | h | h
    · have : (rem : ℚ) / d < 1 / 2 := by
        rw [div_lt_div_iff₀ hd' two_pos]
        exact_mod_cast (by omega : rem * 2 < 1 * d)
      rw [compare_lt_iff_lt.mpr h]
      exact show (q : ℚ) < q + rem / d ∧ (q : ℚ) + rem / d < q + 1 / 2 from
        ⟨by linarith, by linarith⟩
    · have : (rem : ℚ) / d = 1 / 2 := by
        rw [div_eq_div_iff hd'.ne' two_ne_zero]
        exact_mod_cast (by omega : rem * 2 = 1 * d)
      rw [compare_eq_iff_eq.mpr h]
      simp [Represents, ExtendedMantissa.ofMantissaAndAccuracy, this]
    · have : 1 / 2 < (rem : ℚ) / d := by
        rw [div_lt_div_iff₀ two_pos hd']
        exact_mod_cast (by omega : 1 * d < rem * 2)
      rw [compare_gt_iff_gt.mpr h]
      exact show (q : ℚ) + 1 / 2 < q + rem / d ∧ (q : ℚ) + rem / d < q + 1 from
        ⟨by linarith, by linarith⟩

/-! ### The numbers around a double -/

/-- The lower end of the numbers that round to a double. Below a power of two the doubles are twice as
dense. -/
def lowEnd (m : ℕ) (e : ℤ) : ℚ :=
  ((m : ℚ) - if m = 2 ^ 52 ∧ minExponent < e then 1 / 4 else 1 / 2) * 2 ^ e

def highEnd (m : ℕ) (e : ℤ) : ℚ := ((m : ℚ) + 1 / 2) * 2 ^ e

/-- Whether a number rounds to a double. The ends do exactly if the mantissa is even. -/
structure RoundsTo (m : ℕ) (e : ℤ) (x : ℚ) : Prop where
  low : lowEnd m e ≤ x
  high : x ≤ highEnd m e
  inside : m % 2 = 1 → lowEnd m e < x ∧ x < highEnd m e

theorem half_le_lowEnd (m : ℕ) (e : ℤ) : ((m : ℚ) - 1 / 2) * 2 ^ e ≤ lowEnd m e := by
  unfold lowEnd
  gcongr
  split <;> norm_num

/-- A double rounds to itself. -/
theorem roundsTo_self (m : ℕ) (e : ℤ) : RoundsTo m e (m * 2 ^ e) := by
  have hpow : (0 : ℚ) < 2 ^ e := by positivity
  have hlow : lowEnd m e < m * 2 ^ e := by
    unfold lowEnd
    gcongr
    split <;> linarith
  have hhigh : (m * 2 ^ e : ℚ) < highEnd m e := by
    unfold highEnd
    gcongr
    linarith
  exact ⟨hlow.le, hhigh.le, fun _ => ⟨hlow, hhigh⟩⟩

/-- The exponent that a mantissa is cut to. -/
theorem targetExponent_eq (m : ℕ) (e : ℤ) :
    Format.binary64.targetExponent (totalExponent m e) = max (m.log2 + e - 52) minExponent := by
  unfold Format.targetExponent totalExponent
  rw [show (Format.binary64.mantissaBits : ℤ) = 53 from rfl,
    show Format.binary64.minExponent = minExponent from rfl]
  congr 1
  ring

/-- How a number of which a mantissa keeps enough bits is rounded, in its two steps. -/
theorem roundWithAccuracy_of_shift {s : Sign} {n r m : ℕ} {d t e : ℤ} {accuracy : Accuracy}
    {em em' : ExtendedMantissa} (hm : 0 < m)
    (hfirst : shiftToTargetExponent .binary64 n d accuracy = (em, t)) (hround : em.roundedMantissa = r)
    (hsecond : shiftToTargetExponent .binary64 r t .exact = (em', e)) (hmantissa : em'.mantissa = m) :
    roundWithAccuracy .binary64 s n d accuracy = .finite s m e hm := by
  subst hround hmantissa
  unfold roundWithAccuracy
  simp only [hfirst, hsecond]
  rw [dif_neg hm.ne']

/-- Cutting a mantissa, by the number of bits that are cut off. -/
theorem shiftToTargetExponent_eq {n k : ℕ} {d : ℤ} {accuracy : Accuracy}
    (h : (Format.binary64.targetExponent (totalExponent n d) - d).toNat = k) :
    shiftToTargetExponent .binary64 n d accuracy =
      (ExtendedMantissa.ofMantissaAndAccuracy n accuracy >>> k, d + k) := by
  subst h
  rfl

/-- Cutting a mantissa keeps what it says of a number. -/
theorem represents_shiftToTargetExponent {n : ℕ} {d t : ℤ} {accuracy : Accuracy} {x : ℚ}
    (h : Represents (.ofMantissaAndAccuracy n accuracy) (x / 2 ^ d))
    (ht : Format.binary64.targetExponent (totalExponent n d) = t) (hle : d ≤ t) :
    ∃ em, shiftToTargetExponent .binary64 n d accuracy = (em, t) ∧ Represents em (x / 2 ^ t) := by
  refine ⟨ExtendedMantissa.ofMantissaAndAccuracy n accuracy >>> (t - d).toNat, ?_, ?_⟩
  · rw [shiftToTargetExponent_eq (congrArg (fun u => (u - d).toNat) ht), Int.toNat_of_nonneg (by omega),
      add_sub_cancel]
  · have hpow : (2 : ℚ) ^ t = 2 ^ d * 2 ^ (t - d).toNat := by
      rw [← zpow_natCast, ← zpow_add₀ two_ne_zero]
      congr 1
      omega
    rw [hpow, div_mul_eq_div_div]
    exact h.shiftRight _

/-- The powers of two around a number of which a mantissa is known. -/
theorem pow_le_lt {n : ℕ} {d : ℤ} {accuracy : Accuracy} {x : ℚ} (hn : 0 < n)
    (h : Represents (.ofMantissaAndAccuracy n accuracy) (x / 2 ^ d)) :
    (2 : ℚ) ^ ((n.log2 : ℤ) + d) ≤ x ∧ x < (2 : ℚ) ^ ((n.log2 : ℤ) + d + 1) := by
  have hpow : (0 : ℚ) < 2 ^ d := by positivity
  have hle := h.le
  have hlt := h.lt_add_one
  rw [mantissa_ofMantissaAndAccuracy] at hle hlt
  rw [le_div_iff₀ hpow] at hle
  rw [div_lt_iff₀ hpow] at hlt
  obtain ⟨hlow, hhigh⟩ := (Nat.log2_eq_iff hn.ne').mp (rfl : n.log2 = n.log2)
  constructor
  · calc (2 : ℚ) ^ ((n.log2 : ℤ) + d) = (2 ^ n.log2 : ℕ) * 2 ^ d := by
          rw [zpow_add₀ two_ne_zero, zpow_natCast]
          norm_cast
      _ ≤ n * 2 ^ d := by gcongr
      _ ≤ x := hle
  · calc x < (n + 1) * 2 ^ d := hlt
      _ ≤ (2 ^ (n.log2 + 1) : ℕ) * 2 ^ d := by
          gcongr
          exact_mod_cast hhigh
      _ = (2 : ℚ) ^ ((n.log2 : ℤ) + d + 1) := by
          rw [add_right_comm, zpow_add₀ two_ne_zero]
          norm_cast

variable {m n : ℕ} {d e : ℤ} {x : ℚ} {accuracy : Accuracy}

theorem RoundsTo.lt_pow (hm : Canonical m e) (h : RoundsTo m e x) : x < (2 : ℚ) ^ (e + 53) := by
  calc x ≤ (m + 1 / 2) * 2 ^ e := h.high
    _ < (2 ^ 53 : ℚ) * 2 ^ e := by
        gcongr
        have : (m : ℚ) + 1 ≤ 2 ^ 53 := by exact_mod_cast hm.lt
        linarith
    _ = (2 : ℚ) ^ (e + 53) := by rw [zpow_add₀ two_ne_zero, mul_comm]; norm_cast

/-- A number that is cut at the grid of the doubles around it. -/
theorem targetExponent_of_rounds (hm : Canonical m e) (hx : RoundsTo m e x)
    (h : Represents (.ofMantissaAndAccuracy n accuracy) (x / 2 ^ d))
    (hd : d ≤ minExponent ∨ 2 ^ 52 ≤ n) (hlarge : (2 : ℚ) ^ (e + 52) ≤ x ∨ e = minExponent) :
    Format.binary64.targetExponent (totalExponent n d) = e := by
  have hleast := hm.least
  have hlt := hx.lt_pow hm
  rw [targetExponent_eq]
  rcases Nat.eq_zero_or_pos n with rfl | hn
  · -- nothing but bits below the least of all doubles is left of the number
    have hsmall : d ≤ minExponent := hd.resolve_right (by norm_num)
    have hless : x < (2 : ℚ) ^ d := by
      have := h.lt_add_one
      rwa [mantissa_ofMantissaAndAccuracy, Nat.cast_zero, zero_add, div_lt_one (by positivity)] at this
    have he : e = minExponent := hlarge.resolve_left fun hle => by
      have := (zpow_lt_zpow_iff_right₀ (one_lt_two (α := ℚ))).mp (hle.trans_lt hless)
      omega
    rw [he]
    simp only [Nat.log2_zero]
    omega
  · obtain ⟨hlow, hhigh⟩ := pow_le_lt hn h
    have habove := (zpow_lt_zpow_iff_right₀ (one_lt_two (α := ℚ))).mp (hlow.trans_lt hlt)
    rcases hlarge with hle | rfl
    · have := (zpow_lt_zpow_iff_right₀ (one_lt_two (α := ℚ))).mp (hle.trans_lt hhigh)
      omega
    · omega

/-- Just below a power of two a number is cut at a grid twice as fine. -/
theorem targetExponent_of_below (hm : Canonical m e) (hx : RoundsTo m e x)
    (h : Represents (.ofMantissaAndAccuracy n accuracy) (x / 2 ^ d))
    (hd : d ≤ minExponent ∨ 2 ^ 52 ≤ n) (hsmall : x < (2 : ℚ) ^ (e + 52)) (he : minExponent < e) :
    m = 2 ^ 52 ∧ Format.binary64.targetExponent (totalExponent n d) = e - 1 := by
  have hpow : (0 : ℚ) < 2 ^ e := by positivity
  have hm52 : m = 2 ^ 52 := by
    have hlt : ((m : ℚ) - 1 / 2) * 2 ^ e < 2 ^ 52 * 2 ^ e := by
      refine (half_le_lowEnd m e).trans_lt (hx.low.trans_lt (hsmall.trans_eq ?_))
      rw [zpow_add₀ two_ne_zero, mul_comm]
      norm_cast
    have hle : 2 * m < 2 * 2 ^ 52 + 1 := by
      have := lt_of_mul_lt_mul_right hlt hpow.le
      exact_mod_cast (by linarith : (2 * m : ℚ) < 2 * 2 ^ 52 + 1)
    have := hm.normal.resolve_right he.ne'
    omega
  refine ⟨hm52, ?_⟩
  have hlarge : (2 : ℚ) ^ (e + 51) ≤ x := by
    refine le_trans ?_ ((half_le_lowEnd m e).trans hx.low)
    rw [zpow_add₀ two_ne_zero, mul_comm, hm52]
    gcongr
    norm_num
  have hn : 0 < n := by
    by_contra hzero
    obtain rfl : n = 0 := by omega
    have hless : x < (2 : ℚ) ^ d := by
      have := h.lt_add_one
      rwa [mantissa_ofMantissaAndAccuracy, Nat.cast_zero, zero_add, div_lt_one (by positivity)] at this
    have := (zpow_lt_zpow_iff_right₀ (one_lt_two (α := ℚ))).mp (hlarge.trans_lt hless)
    have := hd.resolve_right (by norm_num)
    omega
  obtain ⟨hlow, hhigh⟩ := pow_le_lt hn h
  have habove := (zpow_lt_zpow_iff_right₀ (one_lt_two (α := ℚ))).mp (hlow.trans_lt hsmall)
  have hbelow := (zpow_lt_zpow_iff_right₀ (one_lt_two (α := ℚ))).mp (hlarge.trans_lt hhigh)
  rw [targetExponent_eq]
  omega

/-- A mantissa that fits is cut no further. -/
theorem shiftToTargetExponent_of_lt {r : ℕ} {t : ℤ} (hr : r < 2 ^ 53) (ht : minExponent ≤ t) :
    shiftToTargetExponent .binary64 r t .exact = (.ofMantissaAndAccuracy r .exact, t) := by
  have hlog : r.log2 < 53 := by
    rcases Nat.eq_zero_or_pos r with rfl | hpos
    · decide
    · exact (Nat.log2_lt hpos.ne').mpr hr
  have hshift : (Format.binary64.targetExponent (totalExponent r t) - t).toNat = 0 := by
    rw [targetExponent_eq]
    omega
  rw [shiftToTargetExponent_eq hshift]
  exact Prod.ext rfl (add_zero t)

/-- A mantissa that was rounded up to one bit too many is cut by that bit. -/
theorem shiftToTargetExponent_carry {t : ℤ} (ht : minExponent ≤ t) :
    shiftToTargetExponent .binary64 (2 ^ 53) t .exact = (.ofMantissaAndAccuracy (2 ^ 52) .exact, t + 1) := by
  have hshift : (Format.binary64.targetExponent (totalExponent (2 ^ 53) t) - t).toNat = 1 := by
    rw [targetExponent_eq, Nat.log2_two_pow]
    omega
  rw [shiftToTargetExponent_eq hshift]
  rfl

/-- What a double's neighbourhood holds is rounded to the double, if the mantissa keeps enough bits. -/
theorem roundWithAccuracy_eq {s : Sign} (hm : Canonical m e) (hx : RoundsTo m e x)
    (h : Represents (.ofMantissaAndAccuracy n accuracy) (x / 2 ^ d))
    (hd : d ≤ minExponent ∨ 2 ^ 52 ≤ n) :
    roundWithAccuracy .binary64 s n d accuracy = .finite s m e hm.pos := by
  have hle : d ≤ Format.binary64.targetExponent (totalExponent n d) := by
    rw [targetExponent_eq]
    rcases hd with hd | hd
    · omega
    · have := (Nat.le_log2 (by omega)).mpr hd
      omega
  by_cases hlarge : (2 : ℚ) ^ (e + 52) ≤ x ∨ e = minExponent
  · have hpow : (0 : ℚ) < 2 ^ e := by positivity
    have ht := targetExponent_of_rounds hm hx h hd hlarge
    obtain ⟨em, hfirst, hem⟩ := represents_shiftToTargetExponent h ht (ht ▸ hle)
    have hround : em.roundedMantissa = m := by
      refine hem.roundedMantissa_eq ?_ ?_ fun hodd => ⟨?_, ?_⟩
      · exact (le_div_iff₀ hpow).mpr ((half_le_lowEnd m e).trans hx.low)
      · exact (div_le_iff₀ hpow).mpr hx.high
      · exact (lt_div_iff₀ hpow).mpr ((half_le_lowEnd m e).trans_lt (hx.inside hodd).1)
      · exact (div_lt_iff₀ hpow).mpr (hx.inside hodd).2
    exact roundWithAccuracy_of_shift hm.pos hfirst hround
      (shiftToTargetExponent_of_lt hm.lt hm.least) rfl
  · simp only [not_or, not_le] at hlarge
    have he : minExponent < e := lt_of_le_of_ne hm.least (Ne.symm hlarge.2)
    obtain ⟨rfl, ht⟩ := targetExponent_of_below hm hx h hd hlarge.1 he
    obtain ⟨em, hfirst, hem⟩ := represents_shiftToTargetExponent h ht (ht ▸ hle)
    have hpow : (0 : ℚ) < 2 ^ (e - 1) := by positivity
    have htwice : (2 : ℚ) ^ e = 2 * 2 ^ (e - 1) := by
      rw [mul_comm, ← zpow_add_one₀ two_ne_zero, sub_add_cancel]
    have hround : em.roundedMantissa = 2 ^ 53 := by
      refine hem.roundedMantissa_eq ?_ ?_ fun hodd => absurd hodd (by norm_num)
      · have hlow := hx.low
        rw [lowEnd, if_pos ⟨rfl, he⟩, htwice] at hlow
        rw [le_div_iff₀ hpow]
        push_cast at hlow ⊢
        linarith
      · have hhigh := hlarge.1
        rw [zpow_add₀ two_ne_zero, htwice] at hhigh
        rw [div_le_iff₀ hpow]
        norm_cast at hhigh ⊢
        push_cast at hhigh ⊢
        linarith
    have hsecond := shiftToTargetExponent_carry (show minExponent ≤ e - 1 by omega)
    rw [sub_add_cancel] at hsecond
    exact roundWithAccuracy_of_shift hm.pos hfirst hround hsecond rfl

end Stencil.Number
