import Stencil.Number.Shortest
import Stencil.Proofs.Number.Scientific

/-! The digits found for a double: whatever is found rounds to the double, and something is found on a grid of
at most seventeen digits. -/
namespace Stencil.Number

variable {m : ℕ} {e : ℤ}

/-! ### Exact comparison -/

/-- A power that is cut off at one, by the power with the other sign. -/
theorem cast_pow_toNat {b : ℕ} (hb : 0 < b) (k : ℤ) :
    ((Nat.pow b k.toNat : ℕ) : ℚ) = (b : ℚ) ^ k * (Nat.pow b (-k).toNat : ℕ) := by
  have hb' : (b : ℚ) ≠ 0 := by exact_mod_cast hb.ne'
  rw [Nat.pow_eq, Nat.pow_eq, Nat.cast_pow, Nat.cast_pow, ← zpow_natCast, ← zpow_natCast,
    ← zpow_add₀ hb']
  congr 1
  omega

theorem powerOfTwo_eq (k : ℤ) : (powerOfTwo k : ℚ) = 2 ^ k * powerOfTwo (-k) :=
  cast_pow_toNat two_pos k

theorem powerOfTen_eq (k : ℤ) : (powerOfTen k : ℚ) = 10 ^ k * powerOfTen (-k) :=
  cast_pow_toNat (by norm_num) k

theorem powerOfTen_pos (k : ℤ) : 0 < powerOfTen k := Nat.pow_pos (by norm_num)

/-- What both sides of an exact comparison are multiplied with. -/
def commonScale (e g : ℤ) : ℚ := powerOfTwo (-e) * powerOfTen (-g)

theorem commonScale_pos (e g : ℤ) : 0 < commonScale e g :=
  mul_pos (by exact_mod_cast powerOfTwo_pos _) (by exact_mod_cast powerOfTen_pos _)

theorem scaled_two_eq (n : ℕ) (e g : ℤ) :
    ((n * powerOfTwo e * powerOfTen (-g) : ℕ) : ℚ) = n * 2 ^ e * commonScale e g := by
  rw [Nat.cast_mul, Nat.cast_mul, powerOfTwo_eq, commonScale]
  ring

theorem scaled_ten_eq (k : ℕ) (e g : ℤ) :
    ((k * powerOfTen g * powerOfTwo (-e) : ℕ) : ℚ) = k * 10 ^ g * commonScale e g := by
  rw [Nat.cast_mul, Nat.cast_mul, powerOfTen_eq, commonScale]
  ring

/-- Products of powers are compared as the numbers that they are. -/
theorem compareScaled_eq (n : ℕ) (e : ℤ) (k : ℕ) (g : ℤ) :
    compareScaled n e k g = compare (n * 2 ^ e : ℚ) (k * 10 ^ g) := by
  have hscale := commonScale_pos e g
  unfold compareScaled
  rcases lt_trichotomy (n * 2 ^ e : ℚ) (k * 10 ^ g) with h | h | h
  · rw [compare_lt_iff_lt.mpr h, compare_lt_iff_lt, ← Nat.cast_lt (α := ℚ), scaled_two_eq, scaled_ten_eq]
    gcongr
  · rw [compare_eq_iff_eq.mpr h, compare_eq_iff_eq, ← Nat.cast_inj (R := ℚ), scaled_two_eq, scaled_ten_eq,
      h]
  · rw [compare_gt_iff_gt.mpr h, compare_gt_iff_gt, ← Nat.cast_lt (α := ℚ), scaled_two_eq,
      scaled_ten_eq]
    gcongr

/-- The whole part of a quotient is at most the quotient, and the next number is more. -/
theorem floorScaled_bounds (m : ℕ) (e g : ℤ) :
    (floorScaled m e g * 10 ^ g : ℚ) ≤ m * 2 ^ e ∧
      (m * 2 ^ e : ℚ) < ((floorScaled m e g + 1 : ℕ) : ℚ) * 10 ^ g := by
  have hscale := commonScale_pos e g
  have hpos : 0 < powerOfTen g * powerOfTwo (-e) := Nat.mul_pos (powerOfTen_pos _) (powerOfTwo_pos _)
  constructor
  · refine le_of_mul_le_mul_right ?_ hscale
    rw [← scaled_ten_eq, ← scaled_two_eq, Nat.cast_le, mul_assoc]
    exact Nat.div_mul_le_self _ _
  · refine lt_of_mul_lt_mul_right ?_ hscale.le
    rw [← scaled_ten_eq, ← scaled_two_eq, Nat.cast_lt, mul_assoc (floorScaled m e g + 1)]
    exact Nat.lt_mul_of_div_lt (Nat.lt_succ_self _) hpos

/-! ### Grid points in the interval -/

theorem quarter_zpow (e : ℤ) : (2 : ℚ) ^ (e - 2) = 2 ^ e / 4 := by
  rw [zpow_sub₀ two_ne_zero]
  norm_num

theorem lowEnd_eq (hm : 0 < m) (e : ℤ) :
    ((Rounding.around m e).low * 2 ^ (e - 2) : ℚ) = lowEnd m e := by
  rw [quarter_zpow]
  simp only [Rounding.around, show powerOfTwo 52 = 2 ^ 52 from rfl, Bool.and_eq_true, decide_eq_true_eq,
    lowEnd]
  split
  · rw [Nat.cast_sub (by omega)]
    push_cast
    ring
  · rw [Nat.cast_sub (by omega)]
    push_cast
    ring

theorem highEnd_eq (m : ℕ) (e : ℤ) :
    ((Rounding.around m e).high * 2 ^ (e - 2) : ℚ) = highEnd m e := by
  rw [quarter_zpow, highEnd]
  simp only [Rounding.around]
  push_cast
  ring

/-- The test for a decimal to round to a double. -/
theorem holds_iff (hm : 0 < m) (k : ℕ) (g : ℤ) :
    (Rounding.around m e).holds e k g = true ↔ RoundsTo m e (k * 10 ^ g) := by
  have hclosed : (Rounding.around m e).closed = true ↔ m % 2 = 0 := by simp [Rounding.around]
  simp only [Rounding.holds, compareScaled_eq, lowEnd_eq hm, highEnd_eq, Bool.and_eq_true, Bool.or_eq_true,
    beq_iff_eq, compare_lt_iff_lt, compare_eq_iff_eq, compare_gt_iff_gt, hclosed]
  generalize (k * 10 ^ g : ℚ) = x
  constructor
  · rintro ⟨hlow, hhigh⟩
    refine ⟨?_, ?_, fun hodd => ⟨?_, ?_⟩⟩
    · exact hlow.elim le_of_lt fun h => h.2.le
    · exact hhigh.elim le_of_lt fun h => h.2.ge
    · exact hlow.resolve_right fun h => by omega
    · exact hhigh.resolve_right fun h => by omega
  · intro h
    rcases Nat.mod_two_eq_zero_or_one m with heven | hodd
    · exact ⟨h.low.lt_or_eq.imp_right fun heq => ⟨heven, heq⟩,
        h.high.lt_or_eq.imp_right fun heq => ⟨heven, heq.symm⟩⟩
    · exact ⟨.inl (h.inside hodd).1, .inl (h.inside hodd).2⟩

/-- A grid point that is found rounds to the double. -/
theorem onGrid?_rounds (hm : 0 < m) {g : ℤ} {k : ℕ} (h : onGrid? m e g = some k) :
    0 < k ∧ RoundsTo m e (k * 10 ^ g) := by
  unfold onGrid? at h
  simp only at h
  generalize floorScaled m e g = below at h
  have hbelow (hb : ((Rounding.around m e).holds e below g && below != 0) = true) :
      0 < below ∧ RoundsTo m e (below * 10 ^ g) := by
    rw [Bool.and_eq_true, bne_iff_ne] at hb
    exact ⟨Nat.pos_of_ne_zero hb.2, (holds_iff hm below g).mp hb.1⟩
  have habove (ha : (Rounding.around m e).holds e (below + 1) g = true) :
      0 < below + 1 ∧ RoundsTo m e ((below + 1 : ℕ) * 10 ^ g) :=
    ⟨Nat.succ_pos _, (holds_iff hm (below + 1) g).mp ha⟩
  split at h
  case h_1 => cases h
  case h_2 hb ha => cases h; exact hbelow hb
  case h_3 hb ha => cases h; exact habove ha
  case h_4 hb ha =>
    split at h
    · cases h; exact hbelow hb
    · cases h; exact habove ha
    · cases h
      split
      · exact hbelow hb
      · exact habove ha

/-- If one of the neighbours on a grid rounds to the double, then one of them is found. -/
theorem onGrid?_isSome_of_roundsTo (hm : 0 < m) {g : ℤ} (hk : floorScaled m e g ≠ 0)
    (h : RoundsTo m e (floorScaled m e g * 10 ^ g) ∨
      RoundsTo m e ((floorScaled m e g + 1 : ℕ) * 10 ^ g)) : (onGrid? m e g).isSome = true := by
  rw [← holds_iff hm, ← holds_iff hm] at h
  unfold onGrid?
  simp only
  split
  case h_1 hb ha =>
    rw [Bool.and_eq_false_iff, bne_eq_false_iff_eq, or_iff_left hk] at hb
    rw [hb, ha] at h
    exact absurd h (by simp)
  case h_2 => rfl
  case h_3 => rfl
  case h_4 => split <;> rfl

/-- On a grid that is fine for the number, there is a point below it. -/
theorem floorScaled_ne_zero {g : ℤ} (hg : (10 : ℚ) ^ g ≤ m * 2 ^ e) : floorScaled m e g ≠ 0 := by
  intro hzero
  have hlt := (floorScaled_bounds m e g).2
  rw [hzero, zero_add, Nat.cast_one, one_mul] at hlt
  exact absurd hlt hg.not_gt

/-- On a grid that is finer than half the distance to the next double, the neighbour above rounds to a
double whose interval is cut short below. -/
theorem roundsTo_above (hpower : m = 2 ^ 52 ∧ minExponent < e) {g : ℤ} (hfine : (10 : ℚ) ^ g < 2 ^ e / 2) :
    RoundsTo m e ((floorScaled m e g + 1 : ℕ) * 10 ^ g) := by
  have hpow : (0 : ℚ) < 2 ^ e := by positivity
  obtain ⟨hle, hlt⟩ := floorScaled_bounds m e g
  have hlow : lowEnd m e < m * 2 ^ e := by
    rw [lowEnd, if_pos hpower]
    linarith
  have hhigh : highEnd m e = m * 2 ^ e + 2 ^ e / 2 := by rw [highEnd]; ring
  push_cast at hlt ⊢
  exact ⟨by linarith, by linarith, fun _ => ⟨by linarith, by linarith⟩⟩

/-- On a grid that is finer than the doubles, the nearer of the neighbours rounds to the double. -/
theorem roundsTo_nearer (hpower : ¬(m = 2 ^ 52 ∧ minExponent < e)) {g : ℤ} (hfine : (10 : ℚ) ^ g < 2 ^ e) :
    RoundsTo m e (floorScaled m e g * 10 ^ g) ∨
      RoundsTo m e ((floorScaled m e g + 1 : ℕ) * 10 ^ g) := by
  have hgrid : (0 : ℚ) < 10 ^ g := by positivity
  obtain ⟨hle, hlt⟩ := floorScaled_bounds m e g
  have hlow : lowEnd m e = m * 2 ^ e - 2 ^ e / 2 := by
    rw [lowEnd, if_neg hpower]
    ring
  have hhigh : highEnd m e = m * 2 ^ e + 2 ^ e / 2 := by rw [highEnd]; ring
  push_cast at hlt ⊢
  by_cases hnear : (m * 2 ^ e : ℚ) - floorScaled m e g * 10 ^ g ≤ 10 ^ g / 2
  · left
    exact ⟨by linarith, by linarith, fun _ => ⟨by linarith, by linarith⟩⟩
  · right
    exact ⟨by linarith, by linarith, fun _ => ⟨by linarith, by linarith⟩⟩

/-- A grid finer than the doubles around the number has a point to be found. -/
theorem onGrid?_isSome (hm : Canonical m e) {g : ℤ} (hg : (10 : ℚ) ^ (g + 16) ≤ m * 2 ^ e) :
    (onGrid? m e g).isSome = true := by
  have hcoarse : (10 : ℚ) ^ g ≤ 10 ^ (g + 16) := zpow_le_zpow_right₀ (by norm_num) (by omega)
  refine onGrid?_isSome_of_roundsTo hm.pos (floorScaled_ne_zero (hcoarse.trans hg)) ?_
  rw [zpow_add₀ (by norm_num), show (10 : ℚ) ^ (16 : ℤ) = 10 ^ 16 by norm_cast] at hg
  have hpow : (0 : ℚ) < 2 ^ e := by positivity
  by_cases hpower : m = 2 ^ 52 ∧ minExponent < e
  · have hm52 : (m : ℚ) = 2 ^ 52 := by exact_mod_cast hpower.1
    rw [hm52] at hg
    exact .inr (roundsTo_above hpower (by linarith))
  · have hmlt : (m : ℚ) < 2 ^ 53 := by exact_mod_cast hm.lt
    refine roundsTo_nearer hpower (lt_of_mul_lt_mul_right ?_ (by norm_num : (0 : ℚ) ≤ 10 ^ 16))
    calc (10 : ℚ) ^ g * 10 ^ 16 ≤ m * 2 ^ e := hg
      _ < 10 ^ 16 * 2 ^ e := by
          gcongr
          linarith
      _ = 2 ^ e * 10 ^ 16 := mul_comm _ _

/-- The search goes on until a point is found. -/
theorem firstOnGrid_rounds (hm : 0 < m) {steps n : ℕ} {g : ℤ} (hn : n < steps)
    (h : (onGrid? m e (g - n)).isSome = true) :
    0 < (firstOnGrid m e steps g).1 ∧
      RoundsTo m e ((firstOnGrid m e steps g).1 * 10 ^ (firstOnGrid m e steps g).2) := by
  induction steps generalizing n g with
  | zero => exact absurd hn (Nat.not_lt_zero n)
  | succ steps ih =>
    unfold firstOnGrid
    cases hfound : onGrid? m e g with
    | some k => exact onGrid?_rounds hm hfound
    | none =>
      cases n with
      | zero =>
        rw [Nat.cast_zero, sub_zero, hfound] at h
        cases h
      | succ n =>
        refine ih (n := n) (by omega) ?_
        rw [show g - 1 - (n : ℤ) = g - ((n + 1 : ℕ) : ℤ) by push_cast; ring]
        exact h

/-! ### The search -/

/-- The search for the leading digit ends at a power of ten that the number reaches. -/
theorem leadingExponent_le {steps : ℕ} {d : ℤ} (h : (10 : ℚ) ^ (d - steps) ≤ m * 2 ^ e) :
    (10 : ℚ) ^ leadingExponent m e steps d ≤ m * 2 ^ e := by
  induction steps generalizing d with
  | zero => simpa [leadingExponent] using h
  | succ steps ih =>
    unfold leadingExponent
    split
    · refine ih (le_of_eq_of_le ?_ h)
      congr 1
      push_cast
      ring
    case isFalse hzero =>
      have hone : (1 : ℚ) ≤ floorScaled m e d := by exact_mod_cast Nat.one_le_iff_ne_zero.mpr hzero
      exact (le_mul_of_one_le_left (by positivity) hone).trans (floorScaled_bounds m e d).1

/-- A power of ten against a power of two, from one comparison of such powers. -/
theorem ten_zpow_le_of_mul_le {a b : ℕ} {n q : ℤ} (hb : b ≠ 0)
    (hpow : ((10 : ℚ) ^ a) ^ n ≤ ((2 : ℚ) ^ b) ^ n) (h : b * q ≤ a * n) : (10 : ℚ) ^ q ≤ 2 ^ n := by
  refine (pow_le_pow_iff_left₀ (by positivity) (by positivity) hb).mp ?_
  calc ((10 : ℚ) ^ q) ^ b = 10 ^ (b * q) := by rw [← zpow_natCast, ← zpow_mul, mul_comm]
    _ ≤ 10 ^ (a * n) := by
        gcongr
        norm_num
    _ = ((10 : ℚ) ^ a) ^ n := by rw [zpow_mul, zpow_natCast]
    _ ≤ ((2 : ℚ) ^ b) ^ n := hpow
    _ = ((2 : ℚ) ^ n) ^ b := by rw [← zpow_natCast, ← zpow_natCast, ← zpow_mul, ← zpow_mul, mul_comm]

/-- Where the search starts is at most three digits too far. -/
theorem ten_zpow_guess_le {n : ℤ} (hlow : -1074 ≤ n) (hhigh : n ≤ 1023) :
    (10 : ℚ) ^ (n * 30103 / 100000 + 1 - 3) ≤ 2 ^ n := by
  rcases le_total 0 n with hn | hn
  · refine ten_zpow_le_of_mul_le (a := 3) (b := 10) (by norm_num) ?_ (by push_cast; omega)
    exact zpow_le_zpow_left₀ hn (by norm_num) (by norm_num)
  · refine ten_zpow_le_of_mul_le (a := 13) (b := 43) (by norm_num) ?_ (by push_cast; omega)
    have h : ((2 : ℚ) ^ 43) ^ (-n) ≤ ((10 : ℚ) ^ 13) ^ (-n) :=
      zpow_le_zpow_left₀ (by omega) (by norm_num) (by norm_num)
    rw [zpow_neg, zpow_neg] at h
    exact (inv_le_inv₀ (by positivity) (by positivity)).mp h

theorem dropZeros_eq (steps k : ℕ) (g : ℤ) :
    ((dropZeros steps k g).1 * 10 ^ (dropZeros steps k g).2 : ℚ) = k * 10 ^ g := by
  induction steps generalizing k g with
  | zero => rfl
  | succ steps ih =>
    unfold dropZeros
    split
    case isTrue h =>
      have hk : k = k / 10 * 10 := by
        simp only [Bool.and_eq_true, beq_iff_eq] at h
        omega
      rw [ih, zpow_add_one₀ (by norm_num)]
      conv_rhs => rw [hk]
      push_cast
      ring
    case isFalse => rfl

theorem dropZeros_pos {steps k : ℕ} {g : ℤ} (hk : 0 < k) : 0 < (dropZeros steps k g).1 := by
  induction steps generalizing k g with
  | zero => exact hk
  | succ steps ih =>
    unfold dropZeros
    split
    case isTrue h =>
      simp only [Bool.and_eq_true, beq_iff_eq] at h
      exact ih (by omega)
    case isFalse => exact hk

/-- The digits that are found for a double round to it. -/
theorem shortest_rounds (hm : Canonical m e) :
    0 < (shortest m e).1 ∧ RoundsTo m e ((shortest m e).1 * 10 ^ (shortest m e).2) := by
  have hleast : -1074 ≤ e := hm.least
  have hgreatest := hm.greatest
  have hlog : m.log2 < 53 := (Nat.log2_lt hm.pos.ne').mpr hm.lt
  have hreach : (2 : ℚ) ^ ((m.log2 : ℤ) + e) ≤ m * 2 ^ e := by
    rw [zpow_add₀ two_ne_zero, zpow_natCast]
    gcongr
    exact_mod_cast Nat.log2_self_le hm.pos.ne'
  have hguess := ten_zpow_guess_le (n := (m.log2 : ℤ) + e) (by omega) (by omega)
  have hlead : (10 : ℚ) ^ leadingExponent m e 3 (((m.log2 : ℤ) + e) * 30103 / 100000 + 1) ≤ m * 2 ^ e :=
    leadingExponent_le (hguess.trans hreach)
  have hdigits : 16 < 17 := Nat.lt_succ_self 16
  have hfound := firstOnGrid_rounds hm.pos hdigits
    (onGrid?_isSome hm (by rwa [Nat.cast_ofNat, sub_add_cancel]))
  unfold shortest
  rw [dropZeros_eq]
  exact ⟨dropZeros_pos hfound.1, hfound.2⟩

end Stencil.Number
