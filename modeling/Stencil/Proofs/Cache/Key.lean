import Stencil.Cache.Key
import Stencil.Proofs.Json.Line

/-! What the key of a render tells about it: its fingerprint, hence its data and its layout, but of the
name of its template only what keys keep. -/
namespace Stencil.Digest

theorem digitChar_cancel : ∀ m < 16, ∀ n < 16, Nat.digitChar m = Nat.digitChar n → m = n := by decide

/-- Two hexadecimal digits are one byte. -/
theorem prefixCode_hex :
    Text.PrefixCode fun b : UInt8 => [Nat.digitChar (b.toNat / 16), Nat.digitChar (b.toNat % 16)] where
  ne_nil _ := List.cons_ne_nil _ _
  cancel {a b x y} h := by
    have ha : a.toNat < 256 := a.toNat_lt
    have hb : b.toNat < 256 := b.toNat_lt
    simp only [List.cons_append, List.nil_append, List.cons.injEq] at h
    have hhigh := digitChar_cancel _ (by omega) _ (by omega) h.1
    have hlow := digitChar_cancel _ (by omega) _ (by omega) h.2.1
    exact ⟨UInt8.toNat.inj (by omega), h.2.2⟩

theorem hexText_injective : Function.Injective hexText := prefixCode_hex.flatMap_injective

@[simp] theorem length_bigEndian (width n : Nat) : (bigEndian width n).length = width := by
  induction width generalizing n with
  | zero => rfl
  | succ width ih => simp [bigEndian, ih]

@[simp] theorem length_sha256 (message : List UInt8) : (sha256 message).length = 32 := by
  simp [sha256]

@[simp] theorem length_hexText (bytes : List UInt8) : (hexText bytes).length = 2 * bytes.length := by
  simp [hexText, List.length_flatMap, List.map_const', Nat.mul_comm]

end Stencil.Digest

namespace Stencil.Cache

open Digest (hexText sha256)

/-- A text of which keys keep every character. -/
theorem sanitize_of_forall {s : List Char} (h : ∀ c ∈ s, isKeyChar c = true) : sanitize s = s := by
  have hmap : sanitize s = s.map id := List.map_congr_left fun c hc => if_pos (h c hc)
  rw [hmap, List.map_id]

theorem isKeyChar_digitChar : ∀ n < 16, isKeyChar (Nat.digitChar n) = true := by decide

@[simp] theorem sanitize_hexText (bytes : List UInt8) : sanitize (hexText bytes) = hexText bytes := by
  refine sanitize_of_forall fun c hc => ?_
  obtain ⟨b, -, hcb⟩ := List.mem_flatMap.mp hc
  have hb : b.toNat < 256 := b.toNat_lt
  simp only [List.mem_cons, List.not_mem_nil, or_false] at hcb
  rcases hcb with rfl | rfl
  · exact isKeyChar_digitChar _ (by omega)
  · exact isKeyChar_digitChar _ (by omega)

theorem sanitize_underscore (s : List Char) : sanitize ('_' :: s) = '_' :: sanitize s := rfl

theorem toList_renderKey (space name fingerprint : String) :
    (renderKey space name fingerprint).toList =
      sanitize space.toList ++ '_' :: sanitize name.toList ++ '_' :: sanitize fingerprint.toList := by
  simp [renderKey, sanitize_underscore]

/-- Names of which keys keep the same have the same keys. -/
theorem renderKey_congr {name name' : String} (h : sanitize name.toList = sanitize name'.toList)
    (space fingerprint : String) :
    renderKey space name fingerprint = renderKey space name' fingerprint := by
  refine String.toList_inj.mp ?_
  rw [toList_renderKey, toList_renderKey, h]

/-- The key of a render holds what keys keep of its name, and its digest. -/
theorem renderKey_cancel {space name name' : String} {m m' : List UInt8} (hm : m.length = m'.length)
    (h : renderKey space name (String.ofList (hexText m)) =
      renderKey space name' (String.ofList (hexText m'))) :
    sanitize name.toList = sanitize name'.toList ∧ m = m' := by
  have hkey := congrArg String.toList h
  simp only [toList_renderKey, String.toList_ofList, sanitize_hexText] at hkey
  obtain ⟨hfront, hdigest⟩ := List.append_inj' hkey (by simp [hm])
  have hname := (List.cons.inj (List.append_cancel_left hfront)).2
  exact ⟨hname, Digest.hexText_injective (List.cons.inj hdigest).2⟩

/-! ### Fingerprints -/

theorem zero_notMem_encode_line {v : Value} (hv : Json.isPlain v = true) :
    0 ∉ Text.Utf8.encode (Json.line v) := by
  refine Text.Utf8.zero_notMem_encode fun c hc hzero => ?_
  have hc := List.all_eq_true.mp (Json.isVisible_line hv) c hc
  rw [hzero] at hc
  cases hc

/-- What stands in front of the zero byte, or all there is. -/
theorem takeWhile_fingerprintBytes {context : Value} (h : Json.isPlain context = true)
    (salt : List Char) :
    (fingerprintBytes context salt).takeWhile (· != 0) = Text.Utf8.encode (Json.line context) := by
  have hfront : ∀ b ∈ Text.Utf8.encode (Json.line context), (b != 0) = true := fun b hb =>
    bne_iff_ne.mpr fun he => zero_notMem_encode_line h (he ▸ hb)
  rw [fingerprintBytes, List.takeWhile_append_of_pos hfront]
  split <;> simp

/-- A fingerprint is taken of other bytes for every context and salt. -/
theorem fingerprintBytes_cancel {c d : Value} {s t : List Char} (hc : Json.isPlain c = true)
    (hd : Json.isPlain d = true) (h : fingerprintBytes c s = fingerprintBytes d t) :
    c = d ∧ s = t := by
  have hline : Text.Utf8.encode (Json.line c) = Text.Utf8.encode (Json.line d) := by
    rw [← takeWhile_fingerprintBytes hc s, h, takeWhile_fingerprintBytes hd t]
  obtain rfl := Json.line_cancel hc hd (Text.Utf8.encode_injective hline)
  have hsalt := List.append_cancel_left h
  split at hsalt <;> split at hsalt
  · exact ⟨rfl, by simp_all⟩
  · cases hsalt
  · cases hsalt
  · exact ⟨rfl, Text.Utf8.encode_injective (List.cons.inj hsalt).2⟩

/-- A context that JSON has a form for has a fingerprint, unless a number in it is too long or it is too deep. -/
theorem fingerprint_of_isPlain {context : Value} (h : Json.isPlain context = true) (salt : String) :
    fingerprint context salt =
      if Json.fault? context = none then
        .ok (String.ofList (hexText (sha256 (fingerprintBytes context salt.toList))))
      else if Json.fault? context = some .tooDeep then .error .nesting
      else .error (.value .longNumber) := by
  unfold fingerprint
  cases hfault : Json.fault? context with
  | none => rfl
  | some fault => cases Json.isPlainFault_of_faultIn? _ context h hfault <;> rfl

/-- The bytes that a fingerprint is taken of are the same for two contexts and salts only if these are the same,
with the same values in the same order at every level; and a context that has no number that is too long and is not
too deep has a fingerprint, which is the digest of just these bytes. -/
theorem fingerprint_unambiguous {c d : Mapping} (hc : Json.isPlain (.dict c) = true)
    (hd : Json.isPlain (.dict d) = true) (salt salt' : String) :
    (fingerprintBytes (.dict c) salt.toList = fingerprintBytes (.dict d) salt'.toList ↔
      c = d ∧ salt = salt') ∧
    fingerprint (.dict c) salt =
      if Json.fault? (.dict c) = none then
        .ok (String.ofList (hexText (sha256 (fingerprintBytes (.dict c) salt.toList))))
      else if Json.fault? (.dict c) = some .tooDeep then .error .nesting
      else .error (.value .longNumber) := by
  refine ⟨⟨fun h => ?_, ?_⟩, fingerprint_of_isPlain hc salt⟩
  · obtain ⟨hcontext, hsalt⟩ := fingerprintBytes_cancel hc hd h
    exact ⟨Value.dict.inj hcontext, String.toList_inj.mp hsalt⟩
  · rintro ⟨rfl, rfl⟩
    rfl

/-- Two contexts that differ in where one number ends, and two salts that differ in where a zero stands. -/
theorem fingerprint_unambiguous_digits :
    let c : Mapping := [(.str "k\"", .list [.int 1, .int (-23)]), (.str "", .dict [(.str "k", .null)])]
    let d : Mapping := [(.str "k\"", .list [.int 12, .int (-3)]), (.str "", .dict [(.str "k", .null)])]
    Json.isPlain (.dict c) = true ∧ Json.isPlain (.dict d) = true ∧
      fingerprintBytes (.dict c) "".toList ≠ fingerprintBytes (.dict d) "".toList ∧
      fingerprintBytes (.dict c) "a\x00".toList ≠ fingerprintBytes (.dict c) "\x00a".toList ∧
      fingerprint (.dict c) "a\x00" =
        .ok (String.ofList (hexText (sha256 (fingerprintBytes (.dict c) "a\x00".toList)))) := by
  intro c d
  have hc : Json.isPlain (.dict c) = true := by decide
  have hd : Json.isPlain (.dict d) = true := by decide
  refine ⟨hc, hd, fun h => ?_, fun h => ?_, ?_⟩
  · exact absurd ((fingerprint_unambiguous hc hd "" "").1.mp h).1 (by simp [c, d])
  · exact absurd ((fingerprint_unambiguous hc hc "a\x00" "\x00a").1.mp h).2 (by decide)
  · exact (fingerprint_unambiguous hc hd "a\x00" "").2.trans (if_pos (by decide +kernel))

end Stencil.Cache
