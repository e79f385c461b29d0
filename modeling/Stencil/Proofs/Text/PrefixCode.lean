import Stencil.Text.Utf8

/-! Texts that are written word after word. If no word of the code is the beginning of another, what was
written can be told from the text. UTF-8 is such a code, because its bytes are read back. -/
namespace Stencil.Text

/-- No word of a code is empty, and none is the beginning of another. -/
structure PrefixCode {α β : Type} (code : α → List β) : Prop where
  ne_nil : ∀ a, code a ≠ []
  cancel : ∀ {a b x y}, code a ++ x = code b ++ y → a = b ∧ x = y

namespace PrefixCode

variable {α β : Type} {code : α → List β}

/-- The words in front of rests that begin with no word. -/
theorem flatMap_cancel (h : PrefixCode code) {s t : List α} {x y : List β}
    (hx : ∀ a z, x ≠ code a ++ z) (hy : ∀ a z, y ≠ code a ++ z)
    (hst : s.flatMap code ++ x = t.flatMap code ++ y) : s = t ∧ x = y := by
  induction s generalizing t with
  | nil =>
    cases t with
    | nil => exact ⟨rfl, hst⟩
    | cons b t =>
      rw [List.flatMap_nil, List.nil_append, List.flatMap_cons, List.append_assoc] at hst
      exact absurd hst (hx b _)
  | cons a s ih =>
    cases t with
    | nil =>
      rw [List.flatMap_nil, List.nil_append, List.flatMap_cons, List.append_assoc] at hst
      exact absurd hst.symm (hy a _)
    | cons b t =>
      rw [List.flatMap_cons, List.flatMap_cons, List.append_assoc, List.append_assoc] at hst
      obtain ⟨rfl, hrest⟩ := h.cancel hst
      obtain ⟨rfl, hxy⟩ := ih hrest
      exact ⟨rfl, hxy⟩

theorem flatMap_injective (h : PrefixCode code) : Function.Injective (List.flatMap code) := by
  intro s t hst
  have hnil : ∀ a z, [] ≠ code a ++ z := fun a z he => h.ne_nil a (List.append_eq_nil_iff.mp he.symm).1
  exact (h.flatMap_cancel hnil hnil (by rw [hst])).1

/-- A code of which a reader gets each word back, together with what follows it. -/
theorem of_reader (read : List β → Option (α × List β)) (hnil : read [] = none)
    (hread : ∀ a x, read (code a ++ x) = some (a, x)) : PrefixCode code where
  ne_nil a ha := by
    have h := hread a []
    rw [ha, List.append_nil, hnil] at h
    cases h
  cancel {a b x y} he := by
    have h := hread a x
    rw [he, hread b y] at h
    cases h
    exact ⟨rfl, rfl⟩

end PrefixCode

namespace Utf8

/-- The number of a character is below the last code, and no half of a pair. -/
theorem toNat_range (c : Char) : c.toNat < 0xd800 ∨ 0xdfff < c.toNat ∧ c.toNat < 0x110000 := by
  have h := c.valid
  simpa [UInt32.isValidChar, Nat.isValidChar] using h

theorem toNat_byte {n : Nat} (h : n < 256) : (UInt8.ofNat n).toNat = n := UInt8.toNat_ofNat_of_lt' h

/-- A later byte gives its six bits. -/
theorem follow_byte {start more bits low high n : Nat} {seen rest : List UInt8} (hn : n < 0x40)
    (hlow : low ≤ 0x80 + n) (hhigh : 0x80 + n ≤ high) :
    follow start seen (more + 1) bits low high (UInt8.ofNat (0x80 + n) :: rest) =
      follow start (seen ++ [UInt8.ofNat (0x80 + n)]) more (bits * 0x40 + n) 0x80 0xbf rest := by
  have hb : (UInt8.ofNat (0x80 + n)).toNat = 0x80 + n := toNat_byte (by omega)
  rw [follow, hb, if_pos ⟨hlow, hhigh⟩, Nat.add_sub_cancel_left]

theorem lead?_one {n : Nat} (h : n < 0x80) : lead? (UInt8.ofNat n) = some ⟨0, n, 0x80, 0xbf⟩ := by
  have hb : (UInt8.ofNat n).toNat = n := toNat_byte (by omega)
  simp only [lead?, hb, if_pos h]

theorem lead?_two {n : Nat} (hlow : 2 ≤ n) (hhigh : n < 0x20) :
    lead? (UInt8.ofNat (0xc0 + n)) = some ⟨1, n, 0x80, 0xbf⟩ := by
  have hb : (UInt8.ofNat (0xc0 + n)).toNat = 0xc0 + n := toNat_byte (by omega)
  simp only [lead?, hb]
  rw [if_neg (by omega), if_neg (by omega), if_pos (by omega), Nat.add_sub_cancel_left]

theorem lead?_three {n : Nat} (h : n < 0x10) :
    lead? (UInt8.ofNat (0xe0 + n)) =
      some ⟨2, n, if 0xe0 + n = 0xe0 then 0xa0 else 0x80, if 0xe0 + n = 0xed then 0x9f else 0xbf⟩ := by
  have hb : (UInt8.ofNat (0xe0 + n)).toNat = 0xe0 + n := toNat_byte (by omega)
  simp only [lead?, hb]
  rw [if_neg (by omega), if_neg (by omega), if_neg (by omega), if_pos (by omega),
    Nat.add_sub_cancel_left]

theorem lead?_four {n : Nat} (h : n < 5) :
    lead? (UInt8.ofNat (0xf0 + n)) =
      some ⟨3, n, if 0xf0 + n = 0xf0 then 0x90 else 0x80, if 0xf0 + n = 0xf4 then 0x8f else 0xbf⟩ := by
  have hb : (UInt8.ofNat (0xf0 + n)).toNat = 0xf0 + n := toNat_byte (by omega)
  simp only [lead?, hb]
  rw [if_neg (by omega), if_neg (by omega), if_neg (by omega), if_neg (by omega), if_pos (by omega),
    Nat.add_sub_cancel_left]

theorem decodeChar_of_lead {start : Nat} {b : UInt8} {rest x : List UInt8} {l : Lead} {c : Char}
    (hlead : lead? b = some l)
    (hrest : follow start [b] l.more l.bits l.low l.high rest = .ok (c.toNat, x)) :
    decodeChar start b rest = .ok (c, x) := by
  simp only [decodeChar, hlead, hrest, Char.ofNat_toNat]

/-- The bytes of a character are read back as that character. -/
theorem decodeChar_encodeChar (start : Nat) (c : Char) (x : List UInt8) :
    ∃ b rest, encodeChar c ++ x = b :: rest ∧ decodeChar start b rest = .ok (c, x) := by
  have hc := toNat_range c
  unfold encodeChar
  dsimp only
  by_cases h₁ : c.toNat < 0x80
  · rw [if_pos h₁]
    refine ⟨_, x, rfl, decodeChar_of_lead (lead?_one h₁) ?_⟩
    rw [follow]
  rw [if_neg h₁]
  by_cases h₂ : c.toNat < 0x800
  · rw [if_pos h₂]
    refine ⟨_, _ :: x, rfl, decodeChar_of_lead (lead?_two (by omega) (by omega)) ?_⟩
    dsimp only
    rw [follow_byte (by omega) (by omega) (by omega), follow]
    congr 2
    omega
  rw [if_neg h₂]
  by_cases h₃ : c.toNat < 0x10000
  · rw [if_pos h₃]
    refine ⟨_, _ :: _ :: x, rfl, decodeChar_of_lead (lead?_three (by omega)) ?_⟩
    have hlow : (if 0xe0 + c.toNat / 0x1000 = 0xe0 then 0xa0 else 0x80)
        ≤ 0x80 + c.toNat / 0x40 % 0x40 := by split <;> omega
    have hhigh : 0x80 + c.toNat / 0x40 % 0x40
        ≤ if 0xe0 + c.toNat / 0x1000 = 0xed then 0x9f else 0xbf := by split <;> omega
    dsimp only
    rw [follow_byte (by omega) hlow hhigh, follow_byte (by omega) (by omega) (by omega), follow]
    congr 2
    omega
  · rw [if_neg h₃]
    refine ⟨_, _ :: _ :: _ :: x, rfl, decodeChar_of_lead (lead?_four (by omega)) ?_⟩
    have hlow : (if 0xf0 + c.toNat / 0x40000 = 0xf0 then 0x90 else 0x80)
        ≤ 0x80 + c.toNat / 0x1000 % 0x40 := by split <;> omega
    have hhigh : 0x80 + c.toNat / 0x1000 % 0x40
        ≤ if 0xf0 + c.toNat / 0x40000 = 0xf4 then 0x8f else 0xbf := by split <;> omega
    dsimp only
    rw [follow_byte (by omega) hlow hhigh, follow_byte (by omega) (by omega) (by omega),
      follow_byte (by omega) (by omega) (by omega), follow]
    congr 2
    omega

/-- The character at the start of bytes. -/
def readChar : List UInt8 → Option (Char × List UInt8)
  | [] => none
  | b :: rest => (decodeChar 0 b rest).toOption

theorem prefixCode_encodeChar : PrefixCode encodeChar := by
  refine PrefixCode.of_reader readChar rfl fun c x => ?_
  obtain ⟨b, rest, hx, hread⟩ := decodeChar_encodeChar 0 c x
  rw [hx, readChar, hread]
  rfl

theorem decodeFrom_encode {fuel : Nat} {s : List Char} (h : (encode s).length ≤ fuel) (start : Nat) :
    decodeFrom fuel start (encode s) = .ok s := by
  induction s generalizing fuel start with
  | nil => simp [encode, decodeFrom]
  | cons c s ih =>
    obtain ⟨b, rest, hbytes, hchar⟩ := decodeChar_encodeChar start c (encode s)
    have hcons : encode (c :: s) = b :: rest := by rw [← hbytes, encode, encode, List.flatMap_cons]
    have hlength := congrArg List.length hbytes
    rw [List.length_append] at hlength
    rw [hcons] at h ⊢
    obtain ⟨fuel, rfl⟩ : ∃ n, fuel = n + 1 := ⟨fuel - 1, by simp only [List.length_cons] at h; omega⟩
    have hless : 0 < (encodeChar c).length := List.length_pos_iff.mpr (prefixCode_encodeChar.ne_nil c)
    rw [decodeFrom, hchar]
    dsimp only
    rw [ih (by omega)]

/-- A text is read back from its bytes. -/
theorem decode_encode (s : List Char) : decode (encode s) = .ok s :=
  decodeFrom_encode (Nat.le_refl _) 0

theorem encode_injective : Function.Injective encode := prefixCode_encodeChar.flatMap_injective

/-- The byte zero stands for the character zero only. -/
theorem toNat_eq_zero_of_mem {c : Char} (h : 0 ∈ encodeChar c) : c.toNat = 0 := by
  have hrange := toNat_range c
  have hbyte {n : Nat} (hn : n < 256) (he : 0 = UInt8.ofNat n) : 0 = n := by
    rw [← toNat_byte hn, ← he]
    rfl
  unfold encodeChar at h
  dsimp only at h
  split at h
  · have hzero := hbyte (by omega) (List.mem_singleton.mp h)
    exact hzero.symm
  split at h
  · simp only [List.mem_cons, List.not_mem_nil, or_false] at h
    rcases h with he | he <;> have hzero := hbyte (by omega) he <;> omega
  split at h
  · simp only [List.mem_cons, List.not_mem_nil, or_false] at h
    rcases h with he | he | he <;> have hzero := hbyte (by omega) he <;> omega
  · simp only [List.mem_cons, List.not_mem_nil, or_false] at h
    rcases h with he | he | he | he <;> have hzero := hbyte (by omega) he <;> omega

theorem zero_notMem_encode {s : List Char} (h : ∀ c ∈ s, c.toNat ≠ 0) : 0 ∉ encode s := by
  intro hzero
  obtain ⟨c, hc, hmem⟩ := List.mem_flatMap.mp hzero
  exact h c hc (toNat_eq_zero_of_mem hmem)

/-- Text without carriage returns keeps its line ends. -/
theorem foldNewlines_eq_self {s : List Char} (h : '\r' ∉ s) : foldNewlines s = s := by
  induction s with
  | nil => rfl
  | cons c s ih =>
    rw [List.mem_cons, not_or] at h
    have hc : c ≠ '\r' := Ne.symm h.1
    unfold foldNewlines
    split
    · cases ‹_›
    · next heq => exact absurd (List.cons.inj heq).1 hc
    · next heq =>
      obtain ⟨rfl, rfl⟩ := List.cons.inj heq
      rw [if_neg hc, ih h.2]

end Utf8

end Stencil.Text
