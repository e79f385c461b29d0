import Mathlib
import Stencil.Number.Binary

/-! Doubles taken apart in two ways: by their bits, and as the logical model of floating-point numbers
unpacks them. Both say the same, and a double is known by either. The order of doubles is that of ranks, which are
their class, their exponent and their mantissa; what is not a number has no rank and is below nothing. -/
namespace Stencil.Number

open Float.Model (UnpackedFloat)

/-! ### The order -/

/-- Where a number stands among all numbers. -/
structure Rank where
  kind : Int
  exponent : Int
  mantissa : Int

namespace Rank

/-- The order of ranks: by kind, then by exponent, then by mantissa. -/
def AtMost (a b : Rank) : Prop :=
  a.kind < b.kind ∨ a.kind = b.kind ∧ (a.exponent < b.exponent ∨
    a.exponent = b.exponent ∧ a.mantissa ≤ b.mantissa)

theorem AtMost.refl (a : Rank) : a.AtMost a := by
  unfold AtMost
  omega

theorem AtMost.trans {a b c : Rank} (h : a.AtMost b) (h' : b.AtMost c) : a.AtMost c := by
  unfold AtMost at *
  omega

/-- The rank of a number; negative ones stand the other way round. -/
def of? : UnpackedFloat → Option Rank
  | .notANumber => none
  | .infinity .negative => some ⟨-2, 0, 0⟩
  | .finite .negative m e _ => some ⟨-1, -e, -m⟩
  | .zero _ => some ⟨0, 0, 0⟩
  | .finite .positive m e _ => some ⟨1, e, m⟩
  | .infinity .positive => some ⟨2, 0, 0⟩

end Rank

theorem isLE_compare_then (e e' : Int) (m m' : Nat) :
    ((compare e e').then (compare m m')).isLE = true ↔ e < e' ∨ e = e' ∧ m ≤ m' := by
  rcases lt_trichotomy e e' with h | rfl | h
  · rw [compare_lt_iff_lt.mpr h]
    simp [h]
  · rw [compare_eq_iff_eq.mpr rfl]
    simp [Nat.isLE_compare]
  · rw [compare_gt_iff_gt.mpr h]
    simp [h.le, h.ne']

theorem isGE_compare_then (e e' : Int) (m m' : Nat) :
    ((compare e e').then (compare m m')).isGE = true ↔ e' < e ∨ e = e' ∧ m' ≤ m := by
  rcases lt_trichotomy e e' with h | rfl | h
  · rw [compare_lt_iff_lt.mpr h]
    simp [h.le, h.ne]
  · rw [compare_eq_iff_eq.mpr rfl]
    simp [Nat.isGE_compare]
  · rw [compare_gt_iff_gt.mpr h]
    simp [h]

/-- One number is at most another exactly if its rank is. -/
theorem unpacked_le_iff (a b : UnpackedFloat) :
    a.le b = true ↔ ∃ r r', Rank.of? a = some r ∧ Rank.of? b = some r' ∧ r.AtMost r' := by
  unfold UnpackedFloat.le
  cases a with
  | notANumber => simp [UnpackedFloat.compare, Rank.of?]
  | infinity s =>
    cases s <;> rcases b with ⟨_ | _⟩ | _ | _ | ⟨_ | _⟩ <;>
      simp [UnpackedFloat.compare, Rank.of?, Rank.AtMost] <;> decide
  | zero s =>
    rcases b with ⟨_ | _⟩ | _ | _ | ⟨_ | _⟩ <;> simp [UnpackedFloat.compare, Rank.of?, Rank.AtMost]
  | finite s m e hm =>
    cases s <;> rcases b with ⟨_ | _⟩ | _ | _ | ⟨_ | _⟩ <;>
      simp [UnpackedFloat.compare, Rank.of?, Rank.AtMost, isLE_compare_then, isGE_compare_then]

theorem le_iff_rank (x y : Float) :
    x ≤ y ↔ ∃ r r', Rank.of? x.toModel.unpack = some r ∧ Rank.of? y.toModel.unpack = some r' ∧
      r.AtMost r' := by
  rw [← unpacked_le_iff]
  change decide (x.toModel ≤ y.toModel) = true ↔ _
  rw [decide_eq_true_iff]
  exact Iff.rfl

theorem le_trans_float {x y z : Float} (h : x ≤ y) (h' : y ≤ z) : x ≤ z := by
  obtain ⟨r, r₁, hr, hr₁, hle⟩ := (le_iff_rank x y).mp h
  obtain ⟨r₂, r₃, hr₂, hr₃, hle'⟩ := (le_iff_rank y z).mp h'
  obtain rfl : r₁ = r₂ := Option.some.inj (hr₁.symm.trans hr₂)
  exact (le_iff_rank x z).mpr ⟨r, r₃, hr, hr₃, hle.trans hle'⟩

/-- What some number is at most is itself a number, and so at most itself. -/
theorem le_self_of_le {x y : Float} (h : x ≤ y) : y ≤ y := by
  obtain ⟨-, r, -, hr, -⟩ := (le_iff_rank x y).mp h
  exact (le_iff_rank y y).mpr ⟨r, r, hr, hr, .refl r⟩

/-! ### The parts -/

open Float.Model.UnpackedFloat

/-- Whether a sign is minus. -/
def isMinus : Sign → Bool
  | .negative => true
  | .positive => false

/-- What an unpacked number is. -/
def Binary.ofUnpacked : UnpackedFloat → Binary
  | .notANumber => .nan
  | .infinity s => .infinite (isMinus s)
  | .zero s => .finite (isMinus s) 0 minExponent
  | .finite s m e _ => .finite (isMinus s) m e

theorem toNat_unpackExponent (b : BitVec 64) :
    (@unpackExponent .binary64 b).toNat = b.toNat / 2 ^ 52 % 2 ^ 11 := by
  simp [unpackExponent, Nat.shiftRight_eq_div_pow]

theorem toNat_unpackMantissa (b : BitVec 64) :
    (@unpackMantissa .binary64 b).toNat = b.toNat % 2 ^ 52 := by
  simp [unpackMantissa]

theorem isMinus_ofBitVec (b : BitVec 1) : isMinus (.ofBitVec b) = (b.toNat == 1) := by
  decide +revert

theorem toNat_unpackSign (b : BitVec 64) :
    (@unpackSign .binary64 b).toNat = b.toNat / 2 ^ 63 := by
  have hlt : b.toNat < 2 ^ 64 := b.isLt
  simp only [unpackSign, BitVec.toNat_cast, BitVec.extractLsb_toNat, Nat.shiftRight_eq_div_pow]
  omega

theorem toNat_append_unpackMantissa (b : BitVec 64) :
    (1#1 ++ @unpackMantissa .binary64 b).toNat = 2 ^ 52 + b.toNat % 2 ^ 52 := by
  rw [BitVec.toNat_append, ← Nat.shiftLeft_add_eq_or_of_lt (BitVec.isLt _), toNat_unpackMantissa]
  rfl

/-- The bits of a double say what it is unpacked to. -/
theorem Binary.ofFloat_eq (x : Float) : Binary.ofFloat x = .ofUnpacked x.toModel.unpack := by
  change Binary.ofFloat x = .ofUnpacked (UnpackedFloat.unpack .binary64 x.toBits.toBitVec)
  unfold Binary.ofFloat UnpackedFloat.unpack
  generalize hb : x.toBits.toBitVec = b
  have hbits : x.toBits.toNat = b.toNat := by rw [← hb]; rfl
  have hexponent := toNat_unpackExponent b
  have hmantissa := toNat_unpackMantissa b
  have hsign := isMinus_ofBitVec (@unpackSign .binary64 b)
  have hinfinite : @unpackExponent .binary64 b = -1#11 ↔ b.toNat / 2 ^ 52 % 2 ^ 11 = 2047 := by
    rw [← BitVec.toNat_inj, hexponent]
    rfl
  have hsmall : @unpackExponent .binary64 b = 0#11 ↔ b.toNat / 2 ^ 52 % 2 ^ 11 = 0 := by
    rw [← BitVec.toNat_inj, hexponent]
    rfl
  have hwhole : @unpackMantissa .binary64 b = 0#52 ↔ b.toNat % 2 ^ 52 = 0 := by
    rw [← BitVec.toNat_inj, hmantissa]
    rfl
  rw [toNat_unpackSign] at hsign
  simp only [show powerOfTwo 63 = 2 ^ 63 from rfl, show powerOfTwo 52 = 2 ^ 52 from rfl,
    show powerOfTwo 11 = 2 ^ 11 from rfl, hbits, ← hsign, hinfinite, hsmall, hwhole]
  by_cases hi : b.toNat / 2 ^ 52 % 2 ^ 11 = 2047
  · rw [if_pos hi, if_pos hi]
    split <;> rfl
  · rw [if_neg hi, if_neg hi]
    by_cases hs : b.toNat / 2 ^ 52 % 2 ^ 11 = 0
    · rw [if_pos hs, if_pos hs]
      by_cases hz : b.toNat % 2 ^ 52 = 0
      · rw [dif_pos hz, hz]
        rfl
      · rw [dif_neg hz]
        simp only [Binary.ofUnpacked, hmantissa, hexponent, hs]
        rfl
    · rw [if_neg hs, if_neg hs]
      simp only [Binary.ofUnpacked, hexponent]
      exact (congrArg (Binary.finite _ · _) (toNat_append_unpackMantissa b)).symm

/-- A double is known by what it is unpacked to. -/
theorem float_ext {x y : Float} (h : x.toModel.unpack = y.toModel.unpack) : x = y :=
  Float.toBits_inj.mp <| UInt64.toBitVec_inj.mp <|
    (unpack_inj_of_valid x.toModel.valid y.toModel.valid).mp h

theorem isMinus_injective : Function.Injective isMinus := by
  intro s t
  cases s <;> cases t <;> simp [isMinus]

theorem Binary.ofUnpacked_injective : Function.Injective Binary.ofUnpacked := by
  intro u v h
  cases u <;> cases v <;> simp only [ofUnpacked, reduceCtorEq, finite.injEq, infinite.injEq] at h
  case infinity.infinity => rw [isMinus_injective h]
  case notANumber.notANumber => rfl
  case zero.zero => rw [isMinus_injective h.1]
  case zero.finite hm => omega
  case finite.zero hm => omega
  case finite.finite =>
    obtain ⟨hs, rfl, rfl⟩ := h
    rw [isMinus_injective hs]

/-- A double is known by what its bits say. -/
theorem Binary.ofFloat_injective : Function.Injective Binary.ofFloat := by
  intro x y h
  rw [ofFloat_eq, ofFloat_eq] at h
  exact float_ext (ofUnpacked_injective h)

theorem exponent_of_zero {x : Float} {negative : Bool} {e : Int}
    (h : Binary.ofFloat x = .finite negative 0 e) : e = minExponent := by
  rw [Binary.ofFloat_eq] at h
  cases hu : x.toModel.unpack <;> rw [hu] at h <;> simp only [Binary.ofUnpacked, reduceCtorEq,
    Binary.finite.injEq] at h
  case zero => exact h.2.2.symm
  case finite hm => omega

/-- A double is what it is unpacked to, packed again. -/
theorem ofModel_pack {x : Float} {u : UnpackedFloat} (h : x.toModel.unpack = u) :
    Float.ofModel (.pack u) = x := by
  subst h
  exact float_ext (congrArg (UnpackedFloat.unpack .binary64) (pack_unpack_of_valid x.toModel.valid))

/-- Whether `m · 2 ^ e` is the one form of a double that is neither zero nor without end. -/
structure Canonical (m : Nat) (e : Int) : Prop where
  pos : 0 < m
  lt : m < 2 ^ 53
  least : minExponent ≤ e
  greatest : e ≤ 971
  normal : 2 ^ 52 ≤ m ∨ e = minExponent

theorem canonical_of_unpack {x : Float} {s : Sign} {m : Nat} {e : Int} {hm : 0 < m}
    (h : x.toModel.unpack = .finite s m e hm) : Canonical m e := by
  have hof := Binary.ofFloat_eq x
  rw [h] at hof
  unfold Binary.ofFloat at hof
  simp only [show powerOfTwo 63 = 2 ^ 63 from rfl, show powerOfTwo 52 = 2 ^ 52 from rfl,
    show powerOfTwo 11 = 2 ^ 11 from rfl, Binary.ofUnpacked, minExponent] at hof
  generalize x.toBits.toNat = bits at hof
  split at hof
  · split at hof <;> cases hof
  · split at hof
    · obtain ⟨-, rfl, rfl⟩ := Binary.finite.inj hof
      exact ⟨hm, by omega, le_rfl, by decide, .inr rfl⟩
    · obtain ⟨-, rfl, rfl⟩ := Binary.finite.inj hof
      refine ⟨hm, by omega, ?_, ?_, .inl (by omega)⟩ <;>
        simp only [minExponent, Int.ofNat_eq_natCast] <;> omega

/-- What comes out of the bits of a double with its leading bit. -/
theorem unpack_packComponents_normal {s : Sign} {field m : Nat} (hpos : 0 < m) (hfield : 0 < field)
    (htop : field < 2047) (hlow : 2 ^ 52 ≤ m) (hlt : m < 2 ^ 53) :
    UnpackedFloat.unpack .binary64 (packComponents .binary64 s (.ofNat 11 field) (.ofNat 52 m)) =
      .finite s m (field - 1075) hpos := by
  have hexponent : (BitVec.ofNat 11 field).toNat = field := by
    rw [BitVec.toNat_ofNat, Nat.mod_eq_of_lt (by omega)]
  have hmantissa : (1#1 ++ BitVec.ofNat 52 m).toNat = m := by
    rw [BitVec.toNat_append, ← Nat.shiftLeft_add_eq_or_of_lt (BitVec.isLt _), BitVec.toNat_ofNat]
    change 1 <<< 52 + m % 2 ^ 52 = m
    omega
  have hfinite : BitVec.ofNat 11 field ≠ -1#11 := by
    rw [ne_eq, ← BitVec.toNat_inj, hexponent]
    exact htop.ne
  have hnormal : BitVec.ofNat 11 field ≠ 0#11 := by
    rw [ne_eq, ← BitVec.toNat_inj, hexponent]
    exact hfield.ne'
  unfold UnpackedFloat.unpack
  simp only [unpackMantissa_packComponents, unpackExponent_packComponents, unpackSign_packComponents,
    Sign.ofBitVec_toBitVec, if_neg hfinite, if_neg hnormal, hexponent]
  congr 1

/-- What comes out of the bits of a double without its leading bit. -/
theorem unpack_packComponents_small {s : Sign} {m : Nat} (hpos : 0 < m) (hlt : m < 2 ^ 52) :
    UnpackedFloat.unpack .binary64 (packComponents .binary64 s 0#11 (.ofNat 52 m)) =
      .finite s m minExponent hpos := by
  have hmantissa : (BitVec.ofNat 52 m).toNat = m := by
    rw [BitVec.toNat_ofNat, Nat.mod_eq_of_lt hlt]
  have hzero : BitVec.ofNat 52 m ≠ 0#52 := by
    rw [ne_eq, ← BitVec.toNat_inj, hmantissa]
    exact hpos.ne'
  unfold UnpackedFloat.unpack
  simp only [unpackMantissa_packComponents, unpackExponent_packComponents, unpackSign_packComponents,
    Sign.ofBitVec_toBitVec, dif_neg hzero]
  rw [if_neg (by decide)]
  change UnpackedFloat.finite s (BitVec.ofNat 52 m).toNat (-1074) _ = _
  congr 1

/-- A double in its one form comes out of its bits as it went in. -/
theorem unpack_pack {s : Sign} {m : Nat} {e : Int} (h : Canonical m e) :
    (Float.Model.pack (.finite s m e h.pos)).unpack = .finite s m e h.pos := by
  have hpos := h.pos
  have hlt := h.lt
  have hleast : -1074 ≤ e := h.least
  have hgreatest := h.greatest
  change UnpackedFloat.unpack .binary64 (UnpackedFloat.pack .binary64 _) = _
  have hbias : (Float.Model.Format.binary64.exponentBias : Int) = 1023 := rfl
  unfold UnpackedFloat.pack
  simp only [hbias, Nat.cast_ofNat]
  generalize hfield : (e + 1023 + 52).toNat = field
  rw [if_neg (show ¬2 ^ 11 ≤ field + 1 by omega)]
  by_cases hlarge : 2 ^ 52 ≤ m
  · have hlog : m.log2 + 1 = Float.Model.Format.binary64.mantissaBits := by
      change m.log2 + 1 = 53
      rw [(Nat.log2_eq_iff hpos.ne').mpr ⟨hlarge, hlt⟩]
    rw [if_pos hlog]
    refine (unpack_packComponents_normal hpos (by omega) (by omega) hlarge hlt).trans ?_
    congr 1
    omega
  · have hlog : ¬m.log2 + 1 = Float.Model.Format.binary64.mantissaBits := by
      change ¬m.log2 + 1 = 53
      have := (Nat.log2_lt hpos.ne').mpr (Nat.not_le.mp hlarge)
      omega
    rw [if_neg hlog]
    refine (unpack_packComponents_small hpos (Nat.not_le.mp hlarge)).trans ?_
    congr 1
    exact (h.normal.resolve_left hlarge).symm

/-! ### Numbers that are not below one -/

theorem unpack_one : (Float.ofInt 1).toModel.unpack = .finite .positive (2 ^ 52) (-52) (by decide) := rfl

/-- A double that is a finite number and not below one is at least one when it is cut to a whole number. -/
theorem one_le_truncate {x : Float} {negative : Bool} {m : Nat} {e n : Int}
    (hx : Binary.ofFloat x = .finite negative m e) (hone : ¬x < Float.ofInt 1)
    (hn : (Binary.finite negative m e).truncate? = some n) : 1 ≤ n := by
  have hcompare : (x.toModel.unpack.compare (Float.ofInt 1).toModel.unpack == some .lt) = false := by
    change ¬decide (x.toModel < (Float.ofInt 1).toModel) = true at hone
    rw [decide_eq_true_iff] at hone
    exact Bool.eq_false_iff.mpr hone
  rw [unpack_one] at hcompare
  rw [Binary.ofFloat_eq] at hx
  cases hu : x.toModel.unpack with
  | notANumber => rw [hu] at hx; cases hx
  | infinity s => rw [hu] at hx; cases hx
  | zero s => rw [hu] at hcompare; cases hcompare
  | finite s m' e' hm =>
    rw [hu] at hx hcompare
    obtain ⟨rfl, rfl, rfl⟩ := Binary.finite.inj hx
    have hcanonical := canonical_of_unpack hu
    cases s with
    | negative => cases hcompare
    | positive =>
      have hge : -52 ≤ e' := by
        by_contra hlt
        have : compare e' (-52) = .lt := compare_lt_iff_lt.mpr (not_le.mp hlt)
        simp [UnpackedFloat.compare, this] at hcompare
      have hlow : 2 ^ 52 ≤ m' := hcanonical.normal.resolve_right (by simp only [minExponent]; omega)
      rw [Binary.truncate?, Option.some.injEq] at hn
      subst hn
      change (1 : Int) ≤ ((if 0 ≤ e' then m' * powerOfTwo e' else m' / powerOfTwo (-e') : Nat) : Int)
      have hpos : 0 < (if 0 ≤ e' then m' * powerOfTwo e' else m' / powerOfTwo (-e')) := by
        split
        · exact Nat.mul_pos (by omega) (Nat.pow_pos Nat.two_pos)
        · have hpow : powerOfTwo (-e') ≤ 2 ^ 52 := Nat.pow_le_pow_right Nat.two_pos (by omega)
          exact Nat.div_pos (hpow.trans hlow) (Nat.pow_pos Nat.two_pos)
      exact_mod_cast hpos

end Stencil.Number
