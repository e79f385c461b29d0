import Mathlib.Data.List.Basic
import Stencil.Proofs.Target.Tiling

/-! How often a text stands in another one. A tag closes with two characters that no tag holds before its end,
so a text that begins a tag and does not close it reaches across no end of a tag, and in a tiled text it is
found inside of tags only. -/
namespace Stencil.Target

open Template (isRenderable)

/-- At how many places a text stands in another one. -/
def occurrences (p : List Char) : List Char → Nat
  | [] => 0
  | c :: s => (if p.isPrefixOf (c :: s) then 1 else 0) + occurrences p s

section

variable {p s x y : List Char}

/-- A text stands in another one at some place or is no part of it. -/
theorem occurrences_pos_iff (hp : p ≠ []) : 0 < occurrences p s ↔ p <:+: s := by
  induction s with
  | nil => simp [occurrences, hp]
  | cons c s ih =>
    rw [occurrences, List.infix_cons_iff, ← ih]
    simp only [List.isPrefixOf_iff_prefix]
    by_cases hfront : p <+: c :: s
    · exact iff_of_true (by rw [if_pos hfront]; omega) (.inl hfront)
    · rw [if_neg hfront, Nat.zero_add, or_iff_right hfront]

theorem occurrences_eq_zero (hp : p ≠ []) (h : ¬ p <:+: s) : occurrences p s = 0 := by
  by_cases hpos : 0 < occurrences p s
  · exact absurd ((occurrences_pos_iff hp).mp hpos) h
  · omega

theorem occurrences_of_notMem {c : Char} (hc : c ∈ p) (h : c ∉ s) : occurrences p s = 0 :=
  occurrences_eq_zero (List.ne_nil_of_mem hc) fun hp => h (hp.subset hc)

theorem occurrences_of_part (hp : p ≠ []) (hx : x <:+: s) (h : occurrences p s = 0) :
    occurrences p x = 0 := by
  refine occurrences_eq_zero hp fun hin => ?_
  have := (occurrences_pos_iff hp).mpr (hin.trans hx)
  omega

/-- Where a text does not go on from a first text into a second one, it stands in either of them. -/
theorem occurrences_append (h : ∀ m, m <:+ x → m ≠ [] → p <+: m ++ y → p <+: m) :
    occurrences p (x ++ y) = occurrences p x + occurrences p y := by
  induction x with
  | nil => simp [occurrences]
  | cons c x ih =>
    have hfront : p <+: c :: (x ++ y) ↔ p <+: c :: x :=
      ⟨h (c :: x) List.suffix_rfl (by simp), fun h => h.trans (List.prefix_append (c :: x) y)⟩
    have hrest := ih fun m hm => h m (hm.trans (List.suffix_cons c x))
    rw [List.cons_append, occurrences, occurrences, hrest]
    simp only [List.isPrefixOf_iff_prefix, hfront]
    omega

end

/-! ### Texts that begin a tag -/

/-- Whether the end of a tag stands in a text. -/
def Closes (s : List Char) : Prop := ['}', '}'] <:+: s ∨ ['%', '}'] <:+: s

theorem Closes.mono {s t : List Char} (h : Closes s) (hst : s <:+: t) : Closes t :=
  h.imp (fun h => h.trans hst) fun h => h.trans hst

/-- Whether a text begins with a brace and closes no tag in front of its last character. -/
structure Begins (p : List Char) : Prop where
  head : p.head? = some '{'
  unclosed : ¬ Closes p.dropLast

theorem Begins.ne_nil {p : List Char} (h : Begins p) : p ≠ [] := by
  rintro rfl
  cases h.head

theorem Begins.mem {p : List Char} (h : Begins p) : '{' ∈ p := List.mem_of_head? h.head

/-- A tag ends with its second brace, or with a percent sign and a brace. -/
theorem Construct.exists_end_text (k : Construct) :
    ∃ t, k.text = t ++ ['}', '}'] ∨ k.text = t ++ ['%', '}'] := by
  cases k with
  | brace => exact ⟨"\x7b\x7b __lb ".toList, .inl (by decide)⟩
  | «show» n => exact ⟨"\x7b\x7b ".toList ++ n.toList ++ "|display ".toList, .inl (by simp [text_show])⟩
  | openLoop index item collection =>
    exact ⟨"\x7b% for ".toList ++ index.toList ++ ", ".toList ++ item.toList ++ " in ".toList
      ++ collection.toList ++ "|entries ".toList, .inr (by simp [text_openLoop])⟩
  | closeLoop => exact ⟨"\x7b% endfor ".toList, .inr (by decide)⟩
  | openWith bindings =>
    exact ⟨"\x7b% with ".toList ++ bindingsText bindings ++ " ".toList, .inr (by simp [text_openWith])⟩
  | closeWith => exact ⟨"\x7b% endwith ".toList, .inr (by decide)⟩

/-- A text that begins with another character than the last one of a tag, and is the end of it, holds two
characters of it. -/
theorem suffix_of_suffix_end {t : List Char} {a b c : Char} {m : List Char}
    (h : c :: m <:+ t ++ [a, b]) (hc : c ≠ b) : [a, b] <:+ c :: m := by
  cases m with
  | nil =>
    obtain ⟨front, hfront⟩ := h
    have := congrArg List.getLast? hfront
    exact absurd (by simpa using this) hc
  | cons d m => exact List.suffix_of_suffix_length_le (List.suffix_append t [a, b]) h (by simp)

/-- From any of its braces on, a tiled text holds the end of a tag. -/
theorem Tiled.closes {s : List Char} (h : Tiled s) {m : List Char} (hm : '{' :: m <:+ s) :
    Closes ('{' :: m) := by
  induction h with
  | nil => simp at hm
  | char hc _ ih =>
    rcases List.suffix_cons_iff.mp hm with he | hm
    · exact absurd (List.cons.inj he).1.symm hc
    · exact ih hm
  | @tag k s hk _ ih =>
    obtain ⟨before, hbefore⟩ := hm
    rcases List.append_eq_append_iff.mp hbefore with ⟨r, hr, hrest⟩ | ⟨r, -, hrest⟩
    · cases r with
      | nil => exact ih (hrest ▸ List.suffix_rfl)
      | cons c r =>
        -- the brace is one of the tag, and the end of the tag is behind it
        obtain ⟨rfl, rfl⟩ := List.cons.inj hrest
        have hin : '{' :: r <:+: '{' :: (r ++ s) := (List.prefix_append ('{' :: r) s).isInfix
        have htag : '{' :: r <:+ k.text := ⟨before, hr.symm⟩
        obtain ⟨t, ht | ht⟩ := k.exists_end_text
        · rw [ht] at htag
          exact .inl ((suffix_of_suffix_end htag (by decide)).isInfix.trans hin)
        · rw [ht] at htag
          exact .inr ((suffix_of_suffix_end htag (by decide)).isInfix.trans hin)
    · exact ih ⟨r, hrest.symm⟩

/-- No text that begins a tag reaches from a tiled text into what follows. -/
theorem Tiled.occurrences_append {p x : List Char} (hx : Tiled x) (hp : Begins p) (y : List Char) :
    occurrences p (x ++ y) = occurrences p x + occurrences p y := by
  refine Target.occurrences_append fun m hm hne h => ?_
  rcases List.prefix_or_prefix_of_prefix h (List.prefix_append m y) with h | ⟨r, hr⟩
  · exact h
  by_cases hnil : r = []
  · subst hnil
    rw [List.append_nil] at hr
    subst hr
    exact List.prefix_rfl
  exfalso
  obtain ⟨q, rfl⟩ := List.head?_eq_some_iff.mp hp.head
  obtain ⟨c, m, rfl⟩ := List.exists_cons_of_ne_nil hne
  obtain ⟨rfl, rfl⟩ := List.cons.inj hr
  refine hp.unclosed ((hx.closes hm).mono ?_)
  rw [← hr, List.dropLast_append_of_ne_nil hnil]
  exact (List.prefix_append ('{' :: m) _).isInfix

/-! ### Tags of one kind -/

/-- How every loop begins: `{% for`. -/
def loopLead : List Char := ['{', '%', ' ', 'f', 'o', 'r']

theorem begins_loopLead : Begins loopLead where
  head := rfl
  unclosed := by
    have hbrace : '}' ∉ loopLead.dropLast := by decide
    rintro (h | h) <;> exact hbrace (h.subset (by simp))

/-- In a tag that shows a name, only the last two characters close it. -/
theorem begins_show {n : String} (hn : '}' ∉ n.toList) : Begins (Construct.show n).text where
  head := rfl
  unclosed := by
    have hfront : '}' ∉ "\x7b\x7b ".toList ++ n.toList ++ "|display".toList :=
      List.not_mem_append (List.not_mem_append (by decide) hn) (by decide)
    generalize hlead : "\x7b\x7b ".toList ++ n.toList ++ "|display".toList = lead at hfront
    have htext : (Construct.show n).text.dropLast = lead ++ [' ', '}'] := by
      have : (Construct.show n).text = lead ++ [' ', '}', '}'] := by
        rw [← hlead, Construct.text_show]
        simp
      rw [this, List.dropLast_append_of_ne_nil (by simp)]
      rfl
    rw [htext]
    -- the only brace that closes something is the last character, and a blank stands in front of it
    have hend {a : Char} (ha : a ≠ ' ') : ¬ [a, '}'] <:+: lead ++ [' ', '}'] := by
      rintro ⟨before, after, h⟩
      have hsplit : (lead ++ [' ']) ++ '}' :: [] = (before ++ [a]) ++ '}' :: after := by simpa using h.symm
      have hsame := (List.append_cons_inj_of_notMem (List.not_mem_append hfront (by decide))
        List.not_mem_nil).mp hsplit
      exact ha (List.cons.inj (List.append_inj' hsame.1 rfl).2).1.symm
    rintro (h | h)
    · exact hend (by decide) h
    · exact hend (by decide) h

/-- A text stands in none that has fewer of some character. -/
theorem occurrences_of_count_lt {p s : List Char} {c : Char} (h : s.count c < p.count c) :
    occurrences p s = 0 := by
  refine occurrences_eq_zero ?_ fun hp => ?_
  · rintro rfl
    exact absurd h (by simp)
  · have := hp.sublist.count_le c
    omega

section

variable {n m index item collection : String}

theorem brace_notMem_name (hn : isRenderable n = true) : '{' ∉ n.toList :=
  notMem_name (by decide) (by decide) hn

theorem exists_text_openLoop (h : (Construct.openLoop index item collection).IsSound) :
    ∃ s, (Construct.openLoop index item collection).text = loopLead ++ s ∧ '{' ∉ s := by
  refine ⟨' ' :: (index.toList ++ (", ".toList ++ (item.toList ++ (" in ".toList ++
    (collection.toList ++ "|entries %\x7d".toList))))), ?_, ?_⟩
  · rw [Construct.text_openLoop]
    simp only [List.append_assoc]
    rfl
  · have hcollection := List.not_mem_append (brace_notMem_name h.2.2)
      (show '{' ∉ "|entries %\x7d".toList by decide)
    have hitem := List.not_mem_append (brace_notMem_name h.2.1)
      (List.not_mem_append (show '{' ∉ " in ".toList by decide) hcollection)
    have hindex := List.not_mem_append (brace_notMem_name h.1)
      (List.not_mem_append (show '{' ∉ ", ".toList by decide) hitem)
    exact List.not_mem_append (show '{' ∉ [' '] by decide) hindex

/-- A tag that opens a loop begins one. -/
theorem occurrences_loopLead_openLoop (h : (Construct.openLoop index item collection).IsSound) :
    occurrences loopLead (Construct.openLoop index item collection).text = 1 := by
  obtain ⟨s, hs, hbrace⟩ := exists_text_openLoop h
  have hrest : '{' ∉ ['%', ' ', 'f', 'o', 'r'] ++ s := List.not_mem_append (by decide) hbrace
  have hlead : loopLead.isPrefixOf (loopLead ++ s) = true :=
    List.isPrefixOf_iff_prefix.mpr (List.prefix_append loopLead s)
  change loopLead.isPrefixOf ('{' :: (['%', ' ', 'f', 'o', 'r'] ++ s)) = true at hlead
  rw [hs]
  change occurrences loopLead ('{' :: (['%', ' ', 'f', 'o', 'r'] ++ s)) = 1
  rw [occurrences, if_pos hlead, occurrences_of_notMem begins_loopLead.mem hrest]

theorem occurrences_loopLead_show (h : (Construct.show n).IsSound) :
    occurrences loopLead (Construct.show n).text = 0 := by
  have hn : '%' ∉ n.toList := notMem_name (by decide) (by decide) h
  refine occurrences_of_notMem (c := '%') (by decide) ?_
  exact List.not_mem_append (List.not_mem_append (by decide) hn) (by decide)

theorem text_show_cons (n : String) :
    (Construct.show n).text = '{' :: '{' :: ' ' :: (n.toList ++ '|' :: "display \x7d\x7d".toList) := by
  rw [Construct.text_show, List.append_assoc]
  rfl

theorem two_le_count_show (n : String) : 2 ≤ (Construct.show n).text.count '{' := by
  rw [text_show_cons, List.count_cons_self, List.count_cons_self]
  omega

theorem occurrences_show_openLoop (h : (Construct.openLoop index item collection).IsSound) :
    occurrences (Construct.show n).text (Construct.openLoop index item collection).text = 0 := by
  obtain ⟨s, hs, hbrace⟩ := exists_text_openLoop h
  refine occurrences_of_count_lt (c := '{') ?_
  rw [hs, List.count_append, List.count_eq_zero.mpr hbrace]
  exact two_le_count_show n

/-- A tag that shows one name shows no other one. -/
theorem show_infix_show_iff (h : (Construct.show m).IsSound) :
    (Construct.show n).text <:+: (Construct.show m).text ↔ n = m := by
  refine ⟨fun hin => ?_, fun he => he ▸ List.infix_rfl⟩
  have hbar : '|' ∉ m.toList := notMem_name (by decide) (by decide) h
  have hfew := two_le_count_show n
  rw [text_show_cons m] at hin
  rcases List.infix_cons_iff.mp hin with ⟨z, hz⟩ | hin
  · rw [text_show_cons n] at hz
    have hnames : m.toList ++ '|' :: "display \x7d\x7d".toList =
        n.toList ++ '|' :: ("display \x7d\x7d".toList ++ z) := by
      simpa only [List.cons_append, List.append_assoc, List.cons.injEq, true_and] using hz.symm
    have hsame := ((List.append_cons_inj_of_notMem hbar (by decide)).mp hnames).1
    exact (String.toList_inj.mp hsame).symm
  · -- only one brace is left behind the first one
    have hcount := hin.sublist.count_le '{'
    have hrest : '{' ∉ ' ' :: (m.toList ++ '|' :: "display \x7d\x7d".toList) := by
      rw [List.mem_cons, List.mem_append]
      rintro (hc | hc | hc)
      · exact absurd hc (by decide)
      · exact brace_notMem_name h hc
      · exact absurd hc (by decide)
    rw [List.count_cons_self, List.count_eq_zero.mpr hrest] at hcount
    omega

end

end Stencil.Target
