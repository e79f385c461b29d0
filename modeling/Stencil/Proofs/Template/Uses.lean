import Stencil.Proofs.Template.OpenMarks
import Stencil.Proofs.Template.Passes

/-! Uses of components in printed texts: each is read up to its own end, whatever follows it, and nothing
else than a use is read at its opener. -/
namespace Stencil.Template

open Text (IsName Piece Recogniser skipSpace)

/-- A text of the characters of template names, at least one. -/
structure IsTemplateName (w : List Char) : Prop where
  ne_nil : w ≠ []
  chars : w.all Directive.isNameChar = true

/-- `<: component name props>`. -/
def useText (name props : List Char) : List Char :=
  Directive.opener "component".toList (name ++ ' ' :: (props ++ ['>']))

/-- Whether a use with these props ends behind them: every quote in them is closed, no end stands outside
of quotes, and no colon in front of the end. -/
structure ClosedProps (props : List Char) : Prop where
  splitEnd : ∀ rest, Directive.splitEnd none (props ++ '>' :: rest) = some (props, rest)
  noColon : props.getLast? ≠ some ':'

theorem isName_component : IsName "component".toList :=
  Text.isName_of_all (by decide) (by decide +kernel)

namespace Directive

theorem useText_append (name props s : List Char) :
    useText name props ++ s =
      opener "component".toList (name ++ ' ' :: (props ++ '>' :: s)) := by
  simp only [useText, opener, List.cons_append, List.append_assoc, List.nil_append]

/-! ### Ends -/

/-- Nothing ends a use where neither an end nor a quote stands. -/
theorem splitEnd_append {front : List Char} (h : ∀ c ∈ front, c ≠ '>' ∧ isQuote c = false)
    (s : List Char) :
    splitEnd none (front ++ s) = (splitEnd none s).map fun r => (front ++ r.1, r.2) := by
  induction front with
  | nil => simp
  | cons c front ih =>
    obtain ⟨hend, hquote⟩ := h c List.mem_cons_self
    have hrest := ih fun d hd => h d (List.mem_cons_of_mem _ hd)
    simp [splitEnd, hend, quoteAfter, hquote, hrest, Function.comp_def]

/-- A quoted stretch goes on to its closing quote. -/
theorem splitEnd_quoted {quote : Char} {front : List Char} (h : quote ∉ front) (s : List Char) :
    splitEnd (some quote) (front ++ quote :: s) =
      (splitEnd none s).map fun r => (front ++ quote :: r.1, r.2) := by
  induction front with
  | nil => simp [splitEnd, quoteAfter]
  | cons c front ih =>
    rw [List.mem_cons, not_or] at h
    simp [splitEnd, quoteAfter, Ne.symm h.1, ih h.2, Function.comp_def]

/-- The characters of names neither end a use nor open a quoted stretch. -/
theorem plain_of_isNameChar {c : Char} (h : isNameChar c = true) : c ≠ '>' ∧ isQuote c = false := by
  have hne {d : Char} (hd : isNameChar d = false) : c ≠ d := by
    rintro rfl
    rw [hd] at h
    cases h
  simp [isQuote, hne (d := '>') (by decide), hne (d := '"') (by decide),
    hne (d := '\'') (by decide)]

theorem isSpace_of_isNameChar {c : Char} (h : isNameChar c = true) : Text.isSpace c = false := by
  simp only [isNameChar, Bool.or_eq_true, beq_iff_eq] at h
  rcases h with ((h | rfl) | rfl) | rfl
  · exact Text.isSpace_of_isWord h
  · decide
  · decide
  · decide

end Directive

namespace IsTemplateName

open Directive

variable {w : List Char}

theorem char (hw : IsTemplateName w) {c : Char} (hc : c ∈ w) : isNameChar c = true :=
  List.all_eq_true.mp hw.chars c hc

theorem notMem (hw : IsTemplateName w) {c : Char} (hc : isNameChar c = false) : c ∉ w :=
  Text.notMem_of_all hw.chars hc

theorem skipSpace (hw : IsTemplateName w) (s : List Char) : Text.skipSpace (w ++ s) = w ++ s := by
  cases hl : w with
  | nil => exact absurd hl hw.ne_nil
  | cons c v =>
    have hc : isNameChar c = true := hw.char (by rw [hl]; exact List.mem_cons_self)
    exact Text.skipSpace_cons_of_not_space _ (isSpace_of_isNameChar hc)

/-- A name is read up to the first character that belongs to no name. -/
theorem takeName_append (hw : IsTemplateName w) {c : Char} (hc : isNameChar c = false) (s : List Char) :
    Directive.takeName (w ++ c :: s) = some (w, c :: s) := by
  have hall : ∀ c ∈ w, isNameChar c = true := fun _ => hw.char
  have htake : (w ++ c :: s).takeWhile isNameChar = w := by
    rw [List.takeWhile_append_of_pos hall, List.takeWhile_cons, hc]
    simp
  have hdrop : (w ++ c :: s).dropWhile isNameChar = c :: s := by
    rw [List.dropWhile_append_of_pos hall, List.dropWhile_cons, hc]
    simp
  unfold Directive.takeName
  rw [htake, hdrop]
  split
  · exact absurd rfl hw.ne_nil
  · rfl

theorem takeName (hw : IsTemplateName w) (s : List Char) :
    Directive.takeName (w ++ ' ' :: s) = some (w, ' ' :: s) := hw.takeName_append (by decide) s

end IsTemplateName

namespace Directive

variable {name prps : List Char}

/-- The name and the props of a use without a colon at its end. -/
theorem readHead_of_dropColon (hname : IsTemplateName name) {inner : List Char}
    (hinner : dropColon inner = ' ' :: (name ++ ' ' :: prps)) :
    readHead inner = some ⟨String.ofList name, skipSpace prps⟩ := by
  unfold readHead
  rw [hinner, Text.needSpace_space, hname.skipSpace]
  simp [hname.takeName, Text.needSpace_space]

/-- No colon is at the end of a use if none is at the end of its props. -/
theorem dropColon_use (hcolon : prps.getLast? ≠ some ':') :
    dropColon (' ' :: (name ++ ' ' :: prps)) = ' ' :: (name ++ ' ' :: prps) := by
  have hlast : (' ' :: prps).getLast? ≠ some ':' := by
    cases prps with
    | nil => nofun
    | cons c s => rwa [List.getLast?_cons_cons]
  have hsplit : (' ' :: (name ++ ' ' :: prps)).getLast? = (' ' :: prps).getLast? := by
    rw [← List.cons_append, List.getLast?_append, List.getLast?_cons]
    rfl
  rw [dropColon, hsplit, if_neg hlast]

theorem readHead_use (hname : IsTemplateName name) (hprops : ClosedProps prps) :
    readHead (' ' :: (name ++ ' ' :: prps)) =
      some ⟨String.ofList name, skipSpace prps⟩ :=
  readHead_of_dropColon hname (dropColon_use hprops.noColon)

/-- A use is read up to the first end behind its name. -/
theorem readComponent_useText (hname : IsTemplateName name) {s : List Char}
    (hend : splitEnd none (prps ++ '>' :: s) = some (prps, s)) :
    component.read (useText name prps ++ s) = some (readHead (' ' :: (name ++ ' ' :: prps)), s) := by
  have hplain : ∀ c ∈ ' ' :: (name ++ [' ']), c ≠ '>' ∧ isQuote c = false := by
    intro c hc
    simp only [List.mem_cons, List.mem_append, List.not_mem_nil, or_false] at hc
    rcases hc with rfl | hc | rfl
    · decide
    · exact plain_of_isNameChar (hname.char hc)
    · decide
  have hinner : splitEnd none (' ' :: (name ++ ' ' :: (prps ++ '>' :: s))) =
      some (' ' :: (name ++ ' ' :: prps), s) := by
    have := splitEnd_append hplain (prps ++ '>' :: s)
    rw [hend] at this
    simpa using this
  have hopen : componentOpener (useText name prps ++ s) =
      some (' ' :: (name ++ ' ' :: (prps ++ '>' :: s))) := by
    unfold componentOpener
    rw [useText_append, openKeyword_opener isName_component, Text.expect_append]
    simp [Unicode.isWord_space]
  change readComponent (useText name prps ++ s) = _
  unfold readComponent
  rw [hopen]
  dsimp only
  rw [hinner]

/-- A use is read up to its own end. -/
theorem readComponent_use (hname : IsTemplateName name) (hprops : ClosedProps prps)
    (s : List Char) :
    component.read (useText name prps ++ s) =
      some (some ⟨String.ofList name, skipSpace prps⟩, s) := by
  rw [readComponent_useText hname (hprops.splitEnd s), readHead_use hname hprops]

end Directive

theorem ClosedProps.nil : ClosedProps [] := ⟨fun _ => rfl, nofun⟩

/-- Between quotes may stand everything but a quote. -/
theorem ClosedProps.quoted {front : List Char}
    (hfront : ∀ c ∈ front, c ≠ '>' ∧ Directive.isQuote c = false) {value : List Char}
    (hvalue : '"' ∉ value) : ClosedProps (front ++ '"' :: (value ++ ['"', ' '])) := by
  constructor
  · intro rest
    have hend : Directive.splitEnd none (' ' :: '>' :: rest) = some ([' '], rest) := rfl
    have hquote (s : List Char) : Directive.splitEnd none ('"' :: s) =
        (Directive.splitEnd (some '"') s).map fun r => ('"' :: r.1, r.2) := rfl
    have hinner := Directive.splitEnd_quoted hvalue (' ' :: '>' :: rest)
    rw [hend] at hinner
    have hsplit : front ++ '"' :: (value ++ ['"', ' ']) ++ '>' :: rest =
        front ++ '"' :: (value ++ '"' :: ' ' :: '>' :: rest) := by simp
    rw [hsplit, Directive.splitEnd_append hfront, hquote, hinner]
    rfl
  · simp [List.getLast?_append, List.getLast?_cons]

/-- What stands behind the first character of an opener. -/
theorem notMem_tail_opener {c : Char} (hc : Directive.isNameChar c = false) (hsigns : c ∉ [':', ' '])
    {s : List Char} (hs : c ∉ s) : c ∉ (Directive.opener "component".toList s).tail := by
  have hkeyword : c ∉ "component".toList := by
    refine Text.notMem_of_all (p := Directive.isNameChar) ?_ hc
    decide +kernel
  simp only [List.mem_cons, List.not_mem_nil, or_false, not_or] at hsigns
  simp only [Directive.opener, List.tail_cons, List.mem_cons, List.mem_append, hsigns, hkeyword, hs,
    or_self, not_false_eq_true]

theorem notMem_tail_useText {c : Char} (hc : Directive.isNameChar c = false)
    (hsigns : c ∉ [':', ' ', '>']) {name prps : List Char} (hname : IsTemplateName name)
    (hprops : c ∉ prps) : c ∉ (useText name prps).tail := by
  have hname := hname.notMem hc
  simp only [List.mem_cons, List.not_mem_nil, or_false, not_or] at hsigns
  refine notMem_tail_opener hc (by simp [hsigns]) ?_
  simp [hname, hprops, hsigns]

theorem useText_eq_cons (name prps : List Char) :
    useText name prps = '<' :: (useText name prps).tail := rfl

theorem notMem_useText {c : Char} (hc : Directive.isNameChar c = false)
    (hsigns : c ∉ ['<', ':', ' ', '>']) {name prps : List Char} (hname : IsTemplateName name)
    (hprops : c ∉ prps) : c ∉ useText name prps := by
  rw [List.mem_cons, not_or] at hsigns
  rw [useText_eq_cons, List.mem_cons, not_or]
  exact ⟨hsigns.1, notMem_tail_useText hc hsigns.2 hname hprops⟩

/-- A recogniser that needs an opening mark and reads nothing at the front of a use skips it, up to the
next mark. -/
theorem skips_opener {α : Type} {p : Recogniser α} (hp : NeedsMark p) {u s : List Char}
    (hread : p.read (Directive.opener "component".toList (u ++ s)) = none) (hangle : '<' ∉ u) :
    p.Skips (Directive.opener "component".toList u) s := by
  have htail : '<' ∉ ':' :: ' ' :: ("component".toList ++ ' ' :: u) := by
    have hkeyword : '<' ∉ "component".toList :=
      Text.notMem_of_all (p := Unicode.isWord) (by decide +kernel) (by decide)
    simp only [List.mem_cons, List.mem_append, hkeyword, hangle]
    decide
  refine hp.skips_cons ?_ htail
  simpa only [Directive.opener, List.cons_append, List.append_assoc] using hread

/-! ### Texts with uses -/

/-- Part of a text: characters, or a use of a component without props. -/
inductive Part where
  | text (s : List Char)
  | use (name : List Char)

namespace Part

def print : Part → List Char
  | text s => s
  | use name => useText name []

/-- The text of a part, with `put` in the place of a use. -/
def fill (put : List Char → List Char) : Part → List Char
  | text s => s
  | use name => put name

/-- What a part is read as. -/
def pieces : Part → List (Piece (Option Directive.ComponentUse))
  | text s => s.map .char
  | use name => [.mark (some ⟨String.ofList name, []⟩) (useText name [])]

/-- Whether a part is read as what it is: no angle stands in its text, and its component has a name. -/
def IsPlain : Part → Prop
  | text s => '<' ∉ s
  | use name => IsTemplateName name

/-- A part of a protected text. -/
def guarded : Part → Part
  | text s => text (protect s)
  | use name => use name

theorem IsPlain.guarded {part : Part} (h : part.IsPlain) : part.guarded.IsPlain := by
  cases part with
  | text s => exact List.count_eq_zero.mp ((count_protect (by decide) s).trans (List.count_eq_zero.mpr h))
  | use name => exact h

theorem IsPlain.protect_print {part : Part} (h : part.IsPlain) :
    protect part.print = part.guarded.print := by
  cases part with
  | text s => rfl
  | use name => exact protect_eq_self (notMem_useText (by decide) (by decide) h List.not_mem_nil)

end Part

variable {parts : List Part}

theorem isPlain_guarded (h : ∀ part ∈ parts, part.IsPlain) :
    ∀ part ∈ parts.map Part.guarded, part.IsPlain := by
  intro part hpart
  obtain ⟨bare, hbare, rfl⟩ := List.mem_map.mp hpart
  exact (h bare hbare).guarded

theorem protect_parts (h : ∀ part ∈ parts, part.IsPlain) :
    protect (parts.flatMap Part.print) = (parts.map Part.guarded).flatMap Part.print := by
  induction parts with
  | nil => rfl
  | cons part parts ih =>
    have hpart := h part List.mem_cons_self
    rw [List.flatMap_cons, protect_append, hpart.protect_print,
      ih fun q hq => h q (List.mem_cons_of_mem _ hq)]
    rfl

theorem pieces_parts (h : ∀ part ∈ parts, part.IsPlain) :
    Directive.component.pieces (parts.flatMap Part.print) = parts.flatMap Part.pieces := by
  induction parts with
  | nil => exact Recogniser.pieces_nil _
  | cons part parts ih =>
    have hpart := h part List.mem_cons_self
    have hrest := ih fun q hq => h q (List.mem_cons_of_mem _ hq)
    rw [List.flatMap_cons, List.flatMap_cons, ← hrest]
    cases part with
    | text t =>
      exact Recogniser.pieces_append_of_skips
        ((Unmarked.of_notMem hpart _).skips Directive.component_needsMark)
    | use name =>
      exact Recogniser.pieces_append_of_read (Directive.readComponent_use hpart .nil _)

theorem skips_parts {α : Type} {p : Recogniser α} (hp : NeedsMark p)
    (hread : ∀ s, p.read (Directive.opener "component".toList s) = none)
    (h : ∀ part ∈ parts, part.IsPlain) (s : List Char) :
    p.Skips (parts.flatMap Part.print) s := by
  induction parts with
  | nil => exact Recogniser.skips_nil s
  | cons part parts ih =>
    have hpart := h part List.mem_cons_self
    rw [List.flatMap_cons]
    refine Recogniser.skips_append ?_ (ih fun q hq => h q (List.mem_cons_of_mem _ hq))
    cases part with
    | text t => exact (Unmarked.of_notMem hpart _).skips hp
    | use name =>
      have hangle : '<' ∉ name ++ ' ' :: ([] ++ ['>']) := by
        simp [hpart.notMem (c := '<') (by decide)]
      exact skips_opener hp (hread _) hangle

/-- No loop stands in a text of plain parts. -/
theorem loopRound_parts (h : ∀ part ∈ parts, part.IsPlain) :
    loopRound (parts.flatMap Part.print) = parts.flatMap Part.print :=
  Recogniser.replace_of_skips <| skips_parts Directive.loop_needsMark
    (Directive.readLoop_opener isName_component (by decide +kernel)) h []

/-- Such a text declares no layout. -/
theorem search_layout_parts (h : ∀ part ∈ parts, part.IsPlain) :
    Directive.layout.search (parts.flatMap Part.print) = none :=
  Recogniser.search_of_skips <| skips_parts Directive.layout_needsMark
    (fun _ => Directive.readLayout_opener isName_component (.inl (by decide +kernel))) h []

section

variable {lib : Library} {expand : Scope → List Char → Expansion (List Char)} {scope : Scope}

/-- Every use becomes the text that its component yields. -/
theorem yields_includeComponents_parts {put : List Char → List Char}
    (h : ∀ name, .use name ∈ parts →
      (includeComponent lib expand scope ⟨String.ofList name, []⟩).Yields
        fun out => out = put name) :
    (includeComponents lib expand scope (parts.flatMap Part.pieces)).Yields
      fun out => out = parts.flatMap (Part.fill put) := by
  induction parts with
  | nil => exact Expansion.yields_pure rfl
  | cons part parts ih =>
    have hlater := ih fun name hq => h name (List.mem_cons_of_mem _ hq)
    rw [List.flatMap_cons, List.flatMap_cons]
    cases part with
    | text t => exact yields_includeComponents_chars hlater t
    | use name => exact yields_includeComponents_use (h name List.mem_cons_self) hlater

/-- A pass over plain parts without number signs puts the components in place. -/
theorem yields_pass_parts {limit : Nat} {put : List Char → List Char}
    (hplain : ∀ part ∈ parts, part.IsPlain) (hsign : '#' ∉ parts.flatMap Part.print)
    (hput : ∀ s, scope.Beside s → ∀ name, .use name ∈ parts →
      (includeComponent lib expand s ⟨String.ofList name, []⟩).Yields fun out => out = put name)
    (hdone : Unmarked (parts.flatMap (Part.fill put)) []) :
    (runStages (Compiler.stages { library := lib, limit := limit } expand) scope
      (parts.flatMap Part.print)).Yields
      fun r => scope.Beside r.1 ∧ r.2 = parts.flatMap (Part.fill put) := by
  have hrounds : loopRoundsText ((parts.flatMap Part.print).length + 1)
      (parts.flatMap Part.print) = parts.flatMap Part.print := by
    rw [loopRoundsText, if_pos (loopRound_parts hplain)]
  refine yields_pass hrounds (convertedComments_eq_self hsign) (fun s hs => ?_) fun s _ =>
    Recogniser.replace_of_skips (hdone.skips Directive.placeholder_needsMark)
  rw [pieces_parts hplain]
  exact yields_includeComponents_parts (hput s hs)

/-- Plain parts of which all components come back still need no further pass than one. -/
theorem yields_expandWithin_parts {lib : Library} {limit nesting : Nat} (hlimit : 2 ≤ limit)
    {put : List Char → List Char} (hplain : ∀ part ∈ parts, part.IsPlain)
    (hsign : '#' ∉ parts.flatMap Part.print)
    (hput : ∀ s, scope.Beside s → ∀ name, .use name ∈ parts →
      (includeComponent lib (Compiler.expandBody { library := lib, limit := limit } nesting) s
        ⟨String.ofList name, []⟩).Yields fun out => out = put name)
    (hstill : Still (parts.flatMap (Part.fill put))) :
    (Compiler.expandWithin { library := lib, limit := limit } (nesting + 1) scope
      (parts.flatMap Part.print)).Yields fun r => r.2 = parts.flatMap (Part.fill put) := by
  obtain ⟨left, rfl⟩ : ∃ left, limit = left + 2 := ⟨limit - 2, by omega⟩
  exact yields_settle_once (yields_pass_parts hplain hsign hput hstill.unmarked)
    (fun s _ => yields_pass_still _ hstill s) left

end

end Stencil.Template
