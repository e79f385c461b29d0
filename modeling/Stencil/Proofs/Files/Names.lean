import Mathlib.Logic.Basic
import Stencil.Proofs.Files.Directory

/-! Texts as paths. A slash in a text only puts names in a row, so that what stands in front of the first name
and behind the last one changes no name between them. -/
namespace Stencil

namespace Text

variable {sep : Char} {s : List Char}

theorem splitOn_cons_sep (sep : Char) (s : List Char) : splitOn sep (sep :: s) = [] :: splitOn sep s := by
  rw [splitOn, if_pos rfl]

theorem splitOn_cons_of_ne {c : Char} (hc : c ≠ sep) {part : List Char} {parts : List (List Char)}
    (h : splitOn sep s = part :: parts) : splitOn sep (c :: s) = (c :: part) :: parts := by
  rw [splitOn, if_neg hc, h]

/-- The parts of a text that goes on behind a separator. -/
theorem splitOn_append_sep (sep : Char) (s t : List Char) :
    splitOn sep (s ++ sep :: t) = splitOn sep s ++ splitOn sep t := by
  induction s with
  | nil => exact splitOn_cons_sep sep t
  | cons c s ih =>
    by_cases hc : c = sep
    · subst hc
      rw [List.cons_append, splitOn_cons_sep, splitOn_cons_sep, ih, List.cons_append]
    · obtain ⟨part, parts, h⟩ := List.exists_cons_of_ne_nil (splitOn_ne_nil sep s)
      rw [h, List.cons_append] at ih
      rw [List.cons_append, splitOn_cons_of_ne hc ih, splitOn_cons_of_ne hc h, List.cons_append]

/-- What stands in front of a text becomes part of its first part. -/
theorem exists_first_part (sep : Char) (s : List Char) :
    ∃ first rest, splitOn sep s = first :: rest ∧
      ∀ b, sep ∉ b → splitOn sep (b ++ s) = (b ++ first) :: rest := by
  obtain ⟨first, rest, h⟩ := List.exists_cons_of_ne_nil (splitOn_ne_nil sep s)
  refine ⟨first, rest, h, fun b hb => ?_⟩
  induction b with
  | nil => exact h
  | cons c b ih =>
    rw [List.mem_cons, not_or] at hb
    exact splitOn_cons_of_ne (Ne.symm hb.1) (ih hb.2)

/-- What stands behind a text becomes part of its last part. -/
theorem exists_last_part (sep : Char) (s : List Char) :
    ∃ front last, splitOn sep s = front ++ [last] ∧
      ∀ e, sep ∉ e → splitOn sep (s ++ e) = front ++ [last ++ e] := by
  induction s with
  | nil => exact ⟨[], [], rfl, fun e he => splitOn_of_notMem he⟩
  | cons c s ih =>
    obtain ⟨front, last, h, hbehind⟩ := ih
    by_cases hc : c = sep
    · subst hc
      refine ⟨[] :: front, last, by rw [splitOn_cons_sep, h, List.cons_append], fun e he => ?_⟩
      rw [List.cons_append, splitOn_cons_sep, hbehind e he, List.cons_append]
    · cases front with
      | nil =>
        refine ⟨[], c :: last, splitOn_cons_of_ne hc h, fun e he => ?_⟩
        exact splitOn_cons_of_ne hc (hbehind e he)
      | cons first front =>
        refine ⟨(c :: first) :: front, last, splitOn_cons_of_ne hc h, fun e he => ?_⟩
        exact splitOn_cons_of_ne hc (hbehind e he)

/-- Every character but a separator stands in some part. -/
theorem exists_part_of_mem {c : Char} (hc : c ≠ sep) (h : c ∈ s) : ∃ part ∈ splitOn sep s, c ∈ part := by
  induction s with
  | nil => cases h
  | cons d s ih =>
    by_cases hd : d = sep
    · subst hd
      obtain ⟨part, hpart, hmem⟩ := ih ((List.mem_cons.mp h).resolve_left hc)
      exact ⟨part, splitOn_cons_sep d s ▸ List.mem_cons_of_mem _ hpart, hmem⟩
    · obtain ⟨first, rest, hsplit⟩ := List.exists_cons_of_ne_nil (splitOn_ne_nil sep s)
      rw [splitOn_cons_of_ne hd hsplit]
      rcases List.mem_cons.mp h with rfl | h
      · exact ⟨c :: first, List.mem_cons_self, List.mem_cons_self⟩
      obtain ⟨part, hpart, hmem⟩ := ih h
      rw [hsplit] at hpart
      rcases List.mem_cons.mp hpart with rfl | hpart
      · exact ⟨d :: part, List.mem_cons_self, List.mem_cons_of_mem d hmem⟩
      · exact ⟨part, List.mem_cons_of_mem _ hpart, hmem⟩

/-- Parts without separators are read back from the text that they make up. -/
theorem splitOn_intercalate {parts : List (List Char)} (hne : parts ≠ []) (h : ∀ part ∈ parts, sep ∉ part) :
    splitOn sep ([sep].intercalate parts) = parts := by
  induction parts with
  | nil => exact absurd rfl hne
  | cons part parts ih =>
    obtain ⟨hpart, hparts⟩ := List.forall_mem_cons.mp h
    cases parts with
    | nil =>
      rw [List.intercalate_singleton]
      exact splitOn_of_notMem hpart
    | cons next parts =>
      rw [List.intercalate_cons_cons, List.append_assoc, List.singleton_append, splitOn_append_sep,
        splitOn_of_notMem hpart, ih (List.cons_ne_nil _ _) hparts, List.singleton_append]

theorem splitOn_intercalate_append {front : List (List Char)} {last e : List Char}
    (h : ∀ part ∈ front ++ [last], sep ∉ part) (he : sep ∉ e) :
    splitOn sep ([sep].intercalate (front ++ [last]) ++ e) = front ++ [last ++ e] := by
  obtain ⟨front', last', hsplit, hbehind⟩ := exists_last_part sep ([sep].intercalate (front ++ [last]))
  rw [splitOn_intercalate (List.append_ne_nil_of_right_ne_nil front (List.cons_ne_nil last [])) h] at hsplit
  obtain ⟨rfl, hlast⟩ := List.append_inj' hsplit rfl
  obtain rfl : last = last' := List.cons.inj hlast |>.1
  exact hbehind e he

end Text

namespace Path

variable {s : List Char}

/-! ### The names of a text -/

theorem anchorOf_eq_empty_iff : anchorOf s = "" ↔ s.head? ≠ some '/' := by
  rcases s with _ | ⟨c, s⟩
  · simp [anchorOf]
  by_cases hc : c = '/'
  · subst hc
    unfold anchorOf
    split <;> simp_all
  · simp [anchorOf, hc]

theorem isAbsolute_ofList : (ofList s).isAbsolute = true ↔ s.head? = some '/' := by
  have h := not_congr (anchorOf_eq_empty_iff (s := s))
  rw [not_not] at h
  rw [isAbsolute, ofList, bne_iff_ne]
  exact h

/-- The names are the parts between slashes that say something. -/
theorem mem_partsOf {name : String} :
    name ∈ partsOf s ↔ name.toList ∈ Text.splitOn '/' s ∧ name ≠ "" ∧ name ≠ "." := by
  have hempty : name.toList = [] ↔ name = "" := by simp
  have hdot : name.toList = ['.'] ↔ name = "." := by rw [← String.toList_inj]; rfl
  simp only [partsOf, List.mem_map, List.mem_filter, decide_eq_true_eq]
  constructor
  · rintro ⟨part, ⟨hpart, hsays⟩, rfl⟩
    rw [ne_eq, ne_eq, ← hempty, ← hdot, String.toList_ofList]
    exact ⟨hpart, hsays⟩
  · rintro ⟨hpart, hsays⟩
    rw [ne_eq, ne_eq, ← hempty, ← hdot] at hsays
    exact ⟨name.toList, ⟨hpart, hsays⟩, String.ofList_toList⟩

theorem partsOf_append_slash (s t : List Char) : partsOf (s ++ '/' :: t) = partsOf s ++ partsOf t := by
  rw [partsOf, Text.splitOn_append_sep, List.filter_append, List.map_append]
  rfl

theorem partsOf_slash (s : List Char) : partsOf ('/' :: s) = partsOf s := partsOf_append_slash [] s

/-- What begins with a slash adds names of its own. -/
theorem partsOf_append_of_head? {t : List Char} (h : t.head? = some '/' ∨ t = []) :
    partsOf (s ++ t) = partsOf s ++ partsOf t := by
  rcases h with h | rfl
  · obtain ⟨t, rfl⟩ := List.head?_eq_some_iff.mp h
    rw [partsOf_append_slash, partsOf_slash]
  · have hnil : partsOf [] = [] := rfl
    rw [List.append_nil, hnil, List.append_nil]

theorem partsOf_eq_nil_iff : partsOf s = [] ↔ ∀ part ∈ Text.splitOn '/' s, part = [] ∨ part = ['.'] := by
  simp [partsOf, or_iff_not_imp_left]

theorem up_mem_partsOf : ".." ∈ partsOf s ↔ ['.', '.'] ∈ Text.splitOn '/' s := by
  rw [mem_partsOf]
  exact and_iff_left (by decide)

/-- Whether a text is one name of a path. -/
structure IsName (name : String) : Prop where
  slash : '/' ∉ name.toList
  nonempty : name ≠ ""
  dot : name ≠ "."

theorem isName_of_mem_partsOf {name : String} (h : name ∈ partsOf s) : IsName name := by
  obtain ⟨hpart, hnonempty, hdot⟩ := mem_partsOf.mp h
  exact ⟨Text.notMem_of_mem_splitOn '/' s _ hpart, hnonempty, hdot⟩

theorem IsName.append {name : String} (h : IsName name) {e : List Char} (he : '/' ∉ e) :
    IsName (name ++ String.ofList e) where
  slash := by
    rw [String.toList_append, String.toList_ofList, List.mem_append, not_or]
    exact ⟨h.slash, he⟩
  nonempty := fun hempty => h.nonempty (by simp_all)
  dot := fun hdot => by
    have hlist : name.toList ++ e = ['.'] := by
      simpa using congrArg String.toList hdot
    rcases List.append_eq_singleton_iff.mp hlist with ⟨hname, -⟩ | ⟨hname, -⟩
    · exact h.nonempty (String.toList_inj.mp hname)
    · exact h.dot (String.toList_inj.mp hname)

/-- A name that leads up is not made by putting something behind another name. -/
theorem IsName.append_ne_up {name : String} (h : IsName name) (hup : name ≠ "..") (e : List Char) :
    name ++ String.ofList e ≠ ".." := by
  intro heq
  have hbegins : name.toList <+: ['.', '.'] := ⟨e, by simpa using congrArg String.toList heq⟩
  rcases List.prefix_cons_iff.mp hbegins with hempty | ⟨t, ht, hrest⟩
  · exact h.nonempty (String.toList_inj.mp hempty)
  rcases List.prefix_cons_iff.mp hrest with rfl | ⟨u, rfl, hnil⟩
  · exact h.dot (String.toList_inj.mp ht)
  · rw [List.prefix_nil.mp hnil] at ht
    exact hup (String.toList_inj.mp ht)

theorem partsOf_of_splitOn {names : List String} (hnames : ∀ name ∈ names, IsName name)
    (h : Text.splitOn '/' s = names.map String.toList) : partsOf s = names := by
  rw [partsOf, h, List.filter_eq_self.mpr, List.map_map]
  · simp [Function.comp_def]
  · intro part hpart
    obtain ⟨name, hname, rfl⟩ := List.mem_map.mp hpart
    have hdot : name.toList ≠ ['.'] := fun hdot => (hnames name hname).dot (String.toList_inj.mp hdot)
    simpa [(hnames name hname).nonempty] using hdot

theorem head?_text_append {p : Path} (hanchor : p.anchor = "") (hne : p.parts ≠ [])
    (h : ∀ name ∈ p.parts, IsName name) (e : List Char) : (p.text.toList ++ e).head? ≠ some '/' := by
  obtain ⟨first, rest, hparts⟩ := List.exists_cons_of_ne_nil hne
  have hfirst : IsName first := h first (by simp [hparts])
  obtain ⟨t, ht⟩ : ∃ t, p.text.toList = first.toList ++ t := by
    cases rest with
    | nil => exact ⟨[], by simp [text, hanchor, hparts]⟩
    | cons next rest =>
      exact ⟨_, by simp [text, hanchor, hparts]; rfl⟩
  cases hchars : first.toList with
  | nil => exact absurd (String.toList_inj.mp hchars) hfirst.nonempty
  | cons c chars =>
    have hc : c ≠ '/' := by
      rintro rfl
      exact hfirst.slash (by simp [hchars])
    simpa [ht, hchars] using hc

/-- The names of a text that is written from names go on with what is put behind it: up to a slash this
belongs to the last name. -/
theorem partsOf_text_append {p : Path} {front : List String} {last : String} (hanchor : p.anchor = "")
    (hparts : p.parts = front ++ [last]) (h : ∀ name ∈ p.parts, IsName name) {e : List Char} (he : '/' ∉ e) :
    partsOf (p.text.toList ++ e) = front ++ [last ++ String.ofList e] := by
  rw [hparts] at h
  have htext : p.text.toList = ['/'].intercalate (front.map String.toList ++ [last.toList]) := by
    simp [text, hanchor, hparts]
  refine partsOf_of_splitOn (fun name hname => ?_) ?_
  · rcases List.mem_append.mp hname with hfront | hlast
    · exact h name (List.mem_append_left _ hfront)
    · rw [List.mem_singleton.mp hlast]
      exact (h last (by simp)).append he
  · rw [htext, Text.splitOn_intercalate_append _ he]
    · simp
    · intro part hpart
      have hmem : part ∈ (front ++ [last]).map String.toList := by simpa using hpart
      obtain ⟨name, hname, rfl⟩ := List.mem_map.mp hmem
      exact (h name hname).slash

/-! ### Paths below a directory -/

/-- Whether a path is that of a directory with names of its own behind it, none of which leads back up. -/
def IsBelow (directory p : Path) : Prop :=
  p.anchor = directory.anchor ∧ ∃ down, down ≠ [] ∧ ".." ∉ down ∧ p.parts = directory.parts ++ down

theorem child_of_head? {name : String} (h : name.toList.head? ≠ some '/') (p : Path) :
    p.child name = ⟨p.anchor, p.parts ++ partsOf name.toList⟩ := by
  have hrelative : (ofString name).isAbsolute = false := by
    rw [← Bool.not_eq_true]
    exact isAbsolute_ofList.not.mpr h
  exact join_relative hrelative

theorem isBelow_child {name : String} (habsolute : name.toList.head? ≠ some '/')
    (hne : partsOf name.toList ≠ []) (hup : ".." ∉ partsOf name.toList) (directory : Path) :
    IsBelow directory (directory.child name) := by
  rw [child_of_head? habsolute]
  exact ⟨rfl, partsOf name.toList, hne, hup, rfl⟩

end Path

end Stencil
