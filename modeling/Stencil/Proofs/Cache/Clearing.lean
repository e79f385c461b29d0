import Stencil.Proofs.Cache.Key
import Stencil.Proofs.Cache.Memory
import Stencil.Proofs.Cache.Renders

/-! What clearing one template takes away. A key is a namespace, what keys keep of a name, and a digest,
joined by underscores; since names may hold underscores themselves, the keys of a longer name can begin like
those of a shorter one. A digest holds none, so that there is no other way. -/
namespace Stencil.Cache

/-- Whether clearing a template reaches the renders of another one: keys keep the same of both names, or
they keep more of the other one, set off by an underscore. -/
def Reaches (name other : String) : Prop :=
  sanitize other.toList = sanitize name.toList ∨ sanitize name.toList ++ ['_'] <+: sanitize other.toList

instance (name other : String) : Decidable (Reaches name other) :=
  inferInstanceAs (Decidable (_ ∨ _))

/-- Whether a character is a hexadecimal digit. -/
def isHexDigit (c : Char) : Bool :=
  c.isDigit || (decide ('a' ≤ c) && decide (c ≤ 'f')) || (decide ('A' ≤ c) && decide (c ≤ 'F'))

/-- The text of a digest: 64 hexadecimal digits. -/
structure IsFingerprint (fp : String) : Prop where
  length : fp.toList.length = 64
  digits : fp.toList.all isHexDigit = true

theorem isKeyChar_of_isHexDigit {c : Char} (h : isHexDigit c = true) : isKeyChar c = true := by
  simp only [isHexDigit, isKeyChar, Char.isAlphanum, Char.isAlpha, Char.isUpper, Char.isLower, Bool.or_eq_true,
    Bool.and_eq_true, decide_eq_true_eq, ge_iff_le] at h ⊢
  rcases h with (h | ⟨hlow, hhigh⟩) | ⟨hlow, hhigh⟩
  · exact .inl (.inl (.inl (.inr h)))
  · exact .inl (.inl (.inl (.inl (.inr ⟨hlow, Nat.le_trans hhigh (by decide)⟩))))
  · exact .inl (.inl (.inl (.inl (.inl ⟨hlow, Nat.le_trans hhigh (by decide)⟩))))

/-- Keys keep a digest as it is. -/
theorem IsFingerprint.sanitize_eq {fp : String} (h : IsFingerprint fp) : sanitize fp.toList = fp.toList :=
  sanitize_of_forall fun c hc => isKeyChar_of_isHexDigit (List.all_eq_true.mp h.digits c hc)

theorem IsFingerprint.underscore_notMem {fp : String} (h : IsFingerprint fp) : '_' ∉ sanitize fp.toList := by
  rw [h.sanitize_eq]
  intro hmem
  exact absurd (List.all_eq_true.mp h.digits '_' hmem) (by decide)

/-- A word and a sign begin two words joined by the sign, of which the second one is without it, exactly if
the word is the first one or if they begin the first one. -/
theorem append_prefix_append_cons_iff {α : Type} {a b c : List α} {sign : α} (hc : sign ∉ c) :
    a ++ [sign] <+: b ++ sign :: c ↔ b = a ∨ a ++ [sign] <+: b := by
  constructor
  · rintro ⟨rest, hrest⟩
    rcases List.append_eq_append_iff.mp hrest with ⟨more, hb, -⟩ | ⟨more, ha, hmore⟩
    · exact .inr ⟨more, hb.symm⟩
    · -- the sign behind `a` is the one behind `b`, for there is none further on
      cases more with
      | nil => exact .inr ⟨[], by rw [List.append_nil, ha, List.append_nil]⟩
      | cons d more =>
        obtain ⟨rfl, rfl⟩ := List.cons.inj hmore
        rcases List.eq_nil_or_concat more with rfl | ⟨front, last, rfl⟩
        · exact .inl (List.append_cancel_right ha).symm
        · rw [List.concat_eq_append, ← List.cons_append, ← List.append_assoc] at ha
          obtain rfl := List.singleton_inj.mp (List.append_inj_right' ha rfl)
          exact absurd (by simp) hc
  · rintro (rfl | ⟨rest, rfl⟩)
    · exact ⟨c, by simp⟩
    · exact ⟨rest ++ sign :: c, by simp⟩

variable {space name other fp : String}

theorem toList_templatePrefix (space name : String) :
    (templatePrefix space name).toList = sanitize space.toList ++ '_' :: (sanitize name.toList ++ ['_']) := by
  simp [templatePrefix, sanitize_underscore]
  rfl

/-- The key of a render begins like those of a template exactly if clearing the template reaches it. -/
theorem startsWith_renderKey (h : IsFingerprint fp) :
    (renderKey space other fp).startsWith (templatePrefix space name) = true ↔ Reaches name other := by
  rw [String.startsWith_string_iff, toList_renderKey, toList_templatePrefix, List.append_assoc,
    List.prefix_append_right_inj, List.cons_append, List.cons_prefix_cons]
  exact (and_iff_right rfl).trans (append_prefix_append_cons_iff h.underscore_notMem)

namespace Renders

theorem clear_some (m : Memory) (space name : String) (lifetime : Option Lifetime) (s : Session) :
    clear ⟨.memory m, space, lifetime⟩ (some name) s =
      .ok ((m.removeLike (templatePrefix space name)).1,
          ⟨.memory (m.removeLike (templatePrefix space name)).2, space, lifetime⟩)
        (s.log (record s!"Clearing render cache for template {name}")) := rfl

/-- Clearing a template takes away the renders of just those templates that it reaches. All else that is kept
stays as it is, with its value and its time of expiry: the renders of other templates, and whatever else has
another beginning. The answer tells whether anything was taken away. -/
theorem clear_reaches (m : Memory) (space name : String) (lifetime : Option Lifetime) (s : Session) :
    ∃ found m', clear ⟨.memory m, space, lifetime⟩ (some name) s =
        .ok (found, ⟨.memory m', space, lifetime⟩)
          (s.log (record s!"Clearing render cache for template {name}")) ∧
      (∀ other fp, IsFingerprint fp → m'.entries.lookup (renderKey space other fp) =
        if Reaches name other then none else m.entries.lookup (renderKey space other fp)) ∧
      (∀ key, key.startsWith (templatePrefix space name) = false →
        m'.entries.lookup key = m.entries.lookup key) ∧
      (found = true ↔ ∃ key kept, m.entries.lookup key = some kept ∧ m'.entries.lookup key = none) := by
  refine ⟨_, _, clear_some m space name lifetime s, fun other fp hfp => ?_, fun key hkey => ?_, ?_⟩
  · rw [Memory.lookup_removeLike]
    exact if_congr (startsWith_renderKey hfp) rfl rfl
  · rw [Memory.lookup_removeLike, hkey]
    rfl
  · rw [Memory.removeLike_fst]
    refine exists_congr fun key => exists_congr fun kept => and_congr_right fun hkept => ?_
    rw [Memory.lookup_removeLike, hkept]
    simp

/-- A digest for examples. -/
def someDigest : String := "0123456789abcdefABCDEF0123456789abcdefABCDEF0123456789abcdef0123"

/-- Renders of a page, and of pages whose names go on with an underscore, without one, and with a slash, for
which keys have an underscore. -/
def someRenders : Memory :=
  ⟨["page", "page_admin", "pages", "page/part"].map fun name =>
    (renderKey "template" name someDigest, ⟨name, some 60⟩)⟩

/-- Clearing the page leaves only the render of the name that goes on without an underscore. -/
theorem clear_reaches_page :
    IsFingerprint someDigest ∧
      ∃ m', clear ⟨.memory someRenders, "template", none⟩ (some "page") {} =
          .ok (true, ⟨.memory m', "template", none⟩)
            (Session.log {} (record "Clearing render cache for template page")) ∧
        m'.entries.lookup (renderKey "template" "page" someDigest) = none ∧
        m'.entries.lookup (renderKey "template" "page_admin" someDigest) = none ∧
        m'.entries.lookup (renderKey "template" "page/part" someDigest) = none ∧
        m'.entries.lookup (renderKey "template" "pages" someDigest) = some ⟨"pages", some 60⟩ := by
  have hdigest : IsFingerprint someDigest := ⟨by decide, by decide⟩
  obtain ⟨found, m', hclear, hrenders, -, hfound⟩ := clear_reaches someRenders "template" "page" none {}
  have hgone {other : String} (h : Reaches "page" other) :
      m'.entries.lookup (renderKey "template" other someDigest) = none :=
    (hrenders other someDigest hdigest).trans (if_pos h)
  have hfirst : someRenders.entries.lookup (renderKey "template" "page" someDigest) =
      some ⟨"page", some 60⟩ := by decide +kernel
  have hpages : someRenders.entries.lookup (renderKey "template" "pages" someDigest) =
      some ⟨"pages", some 60⟩ := by decide +kernel
  obtain rfl : found = true := hfound.mpr ⟨_, _, hfirst, hgone (by decide)⟩
  refine ⟨hdigest, m', hclear, hgone (by decide), hgone (by decide), hgone (by decide), ?_⟩
  rw [hrenders "pages" someDigest hdigest, if_neg (by decide), hpages]

end Renders

end Stencil.Cache
