import Mathlib.Data.List.Infix
import Stencil.Proofs.Target.Literals
import Stencil.Proofs.Template.OpenMarks
import Stencil.Proofs.Template.PropQuotes

/-! Literals in a text that is still worked on. A literal is read back by the run of the page, and until then
no stage takes a part of it for its own: it holds none of the characters at which stretches begin and end,
and as many of its quotes are opened in it as closed. -/
namespace Stencil.Template

open Directive (isQuote quoteAfter splitEnd)
open Target (isEdge isPlainInLiteral literalChar literalText)
open Text (Recogniser)

/-! ### Texts that no stretch begins or ends in -/

section

variable {α : Type} {p : Recogniser α}

/-- Whether stretches begin at a character of a class and end behind one, unless they take in all of the
text. -/
structure BoundedBy (p : Recogniser α) (sign : Char → Bool) : Prop where
  begins : ∀ {c s a rest}, p.read (c :: s) = some (a, rest) → sign c = true
  ends : ∀ {s a rest}, p.read s = some (a, rest) → rest ≠ [] →
    ∃ front c, sign c = true ∧ s = front ++ c :: rest

/-- Whether no stretch begins in a text, and none ends in it or right behind it, wherever the text stands. -/
structure Spares (p : Recogniser α) (x : List Char) : Prop where
  begins : ∀ back, p.Skips x back
  ends : ∀ {front before after back a}, x = before ++ after → before ≠ [] → after ++ back ≠ [] →
    p.read (front ++ (x ++ back)) ≠ some (a, after ++ back)

/-- A text without the characters that bound stretches. -/
theorem BoundedBy.spares {sign : Char → Bool} (hp : BoundedBy p sign) {x : List Char}
    (hx : ∀ c ∈ x, sign c = false) : Spares p x where
  begins back := by
    rintro c before after rfl
    refine Option.eq_none_iff_forall_ne_some.mpr fun ⟨_, _⟩ hread => ?_
    have hc := hx c (by simp)
    rw [hp.begins hread] at hc
    cases hc
  ends {front before after back a} he hne hrest hread := by
    obtain ⟨init, last, rfl⟩ := (List.eq_nil_or_concat' before).resolve_left hne
    obtain ⟨front', c, hc, hs⟩ := hp.ends hread hrest
    -- the last character of the stretch is the last one of the text in front of what is left
    have hwhole : (front ++ init) ++ [last] ++ (after ++ back) = (front' ++ [c]) ++ (after ++ back) := by
      rw [he] at hs
      simpa using hs
    obtain ⟨-, hlast⟩ := List.append_inj' (List.append_cancel_right hwhole) rfl
    obtain rfl := (List.cons.inj hlast).1
    rw [hx last (by simp [he])] at hc
    cases hc

end

namespace Directive

theorem loop_boundedBy : BoundedBy loop isEdge where
  begins := loop_tiles.edge_of_read
  ends h _ := by
    obtain ⟨_, _, _, _, hedge⟩ := exists_body_of_readLoop h
    exact hedge

theorem comment_boundedBy : BoundedBy comment isEdge where
  begins := comment_tiles.edge_of_read
  ends h _ := behindEdge_of_readComment h

theorem component_boundedBy : BoundedBy component isEdge where
  begins := component_tiles.edge_of_read
  ends h hrest := by
    rcases behindEdge_of_readComponent h with ⟨_, rfl⟩ | ⟨hedge, _⟩
    · exact absurd rfl hrest
    · exact hedge

theorem placeholder_boundedBy : BoundedBy placeholder isEdge where
  begins := placeholder_tiles.edge_of_read
  ends h _ := (exists_word_of_readPlaceholder h).1

theorem layout_boundedBy : BoundedBy layout isEdge where
  begins := layout_tiles.edge_of_read
  ends h _ := behindEdge_of_readLayout h

theorem content_boundedBy : BoundedBy content isEdge where
  begins := content_tiles.edge_of_read
  ends h _ := behindEdge_of_readContent h

end Directive

/-- Whether a character bounds the tokens of braces. -/
def isBrace (c : Char) : Bool := c == '{' || c == '}'

theorem braceToken_boundedBy : BoundedBy braceTokenRecogniser isBrace where
  begins {c s a rest} h := by
    by_cases hc : c = '{'
    · rw [hc]
      rfl
    · rw [read_braceToken_of_ne hc] at h
      cases h
  ends {s a rest} h _ := by
    obtain ⟨source, rfl⟩ := Recogniser.exists_source h
    rw [source_eq_braceToken h]
    exact ⟨"\x7b\x7b __lb \x7d".toList, '}', rfl, rfl⟩

/-! ### Literals -/

section

variable {v : List Char} {c : Char}

/-- The characters of a literal are the two quotes around it, backslashes, and what it holds as it is. -/
theorem mem_literalText (h : c ∈ literalText v) :
    c = '"' ∨ c = '\\' ∨ isPlainInLiteral c = true := by
  rcases List.mem_cons.mp h with rfl | h
  · exact .inl rfl
  rcases List.mem_append.mp h with h | h
  · obtain ⟨d, -, hd⟩ := List.mem_flatMap.mp h
    by_cases hslash : c = '\\'
    · exact .inr (.inl hslash)
    · exact .inr (.inr (Target.isPlainInLiteral_of_mem hd hslash))
  · exact .inl (List.mem_singleton.mp h)

/-- A character of a class that holds neither these two signs nor what stands in a literal as it is. -/
theorem sign_of_mem_literalText {sign : Char → Bool} (hquote : sign '"' = false)
    (hslash : sign '\\' = false) (hplain : ∀ c, sign c = true → isPlainInLiteral c = false)
    (h : c ∈ literalText v) : sign c = false := by
  rcases mem_literalText h with rfl | rfl | h
  · exact hquote
  · exact hslash
  · refine Bool.eq_false_iff.mpr fun hc => ?_
    rw [hplain c hc] at h
    cases h

theorem isEdge_of_mem_literalText (h : c ∈ literalText v) : isEdge c = false := by
  refine sign_of_mem_literalText (by decide) (by decide) (fun c hc => ?_) h
  have hedge : (c = '<' ∨ c = '>') ∨ c = '#' := by simpa [isEdge] using hc
  rcases hedge with (rfl | rfl) | rfl <;> decide

theorem isBrace_of_mem_literalText (h : c ∈ literalText v) : isBrace c = false := by
  refine sign_of_mem_literalText (by decide) (by decide) (fun c hc => ?_) h
  have hbrace : c = '{' ∨ c = '}' := by simpa [isBrace] using hc
  rcases hbrace with rfl | rfl <;> decide

theorem isQuote_of_mem_literalChar {d : Char} (h : c ∈ literalChar d) : isQuote c = false := by
  refine Bool.eq_false_iff.mpr fun hc => ?_
  have hquote : c = '"' ∨ c = '\'' := by simpa [isQuote] using hc
  rcases hquote with rfl | rfl <;>
    exact absurd (Target.isPlainInLiteral_of_mem h (by decide)) (by decide)

/-- Behind a literal the same quote is open as in front of it. -/
theorem quoteBehind_literalText (v : List Char) {quote : Option Char}
    (hquote : ∀ q, quote = some q → isQuote q = true) :
    quoteBehind quote (literalText v) = quote := by
  have hbody (q : Option Char) (hq : ∀ x, q = some x → isQuote x = true) :
      quoteBehind q (v.flatMap literalChar) = q := by
    refine quoteBehind_of_unquoted (fun c hc => ?_) hq
    obtain ⟨d, -, hd⟩ := List.mem_flatMap.mp hc
    exact isQuote_of_mem_literalChar hd
  have hafter : ∀ q, quoteAfter quote '"' = some q → isQuote q = true :=
    isQuote_of_quoteBehind (s := ['"']) hquote
  -- the second quote undoes what the first one does
  have htwice : quoteAfter (quoteAfter quote '"') '"' = quote := by
    cases quote with
    | none => rfl
    | some q =>
      have hq : q = '"' ∨ q = '\'' := by simpa [isQuote] using hquote q rfl
      rcases hq with rfl | rfl <;> rfl
  have hwhole : literalText v = ['"'] ++ (v.flatMap literalChar ++ ['"']) := rfl
  rw [hwhole, quoteBehind_append, quoteBehind_append]
  change quoteAfter (quoteBehind (quoteAfter quote '"') (v.flatMap literalChar)) '"' = quote
  rw [hbody _ hafter, htwice]

/-- The end scan passes over a literal. -/
theorem splitEnd_literalText (v : List Char) {quote : Option Char}
    (hquote : ∀ q, quote = some q → isQuote q = true) (s : List Char) :
    splitEnd quote (literalText v ++ s) =
      (splitEnd quote s).map fun r => (literalText v ++ r.1, r.2) := by
  have hend : '>' ∉ literalText v := fun h => absurd (isEdge_of_mem_literalText h) (by decide)
  rw [splitEnd_behind hend, quoteBehind_literalText v hquote]

end

/-- Whether no stage, no search for a layout or its content, and no restored brace has an end in a text, and
the scan for the end of a use goes on behind the text as it came to it. -/
structure IsInert (x : List Char) : Prop where
  loop : Spares Directive.loop x
  comment : Spares Directive.comment x
  component : Spares Directive.component x
  placeholder : Spares Directive.placeholder x
  layout : Spares Directive.layout x
  content : Spares Directive.content x
  brace : Spares braceTokenRecogniser x
  scan : ∀ quote : Option Char, (∀ q, quote = some q → isQuote q = true) → ∀ s,
    splitEnd quote (x ++ s) = (splitEnd quote s).map fun r => (x ++ r.1, r.2)

theorem isInert_literalText (v : List Char) : IsInert (literalText v) := by
  have hedge : ∀ c ∈ literalText v, isEdge c = false := fun _ => isEdge_of_mem_literalText
  exact {
    loop := Directive.loop_boundedBy.spares hedge
    comment := Directive.comment_boundedBy.spares hedge
    component := Directive.component_boundedBy.spares hedge
    placeholder := Directive.placeholder_boundedBy.spares hedge
    layout := Directive.layout_boundedBy.spares hedge
    content := Directive.content_boundedBy.spares hedge
    brace := braceToken_boundedBy.spares fun _ => isBrace_of_mem_literalText
    scan := fun _ hquote s => splitEnd_literalText v hquote s }

/-- A page that binds a name to a literal and shows it has the text of the literal for its output, whatever the
data, all keys of which must be names, if the name holds no mark that is too new; if it does, the page is refused at
the first such mark. The literal is made of parts that each stand for one character, no other text has it, and
nothing in front of the run takes any of it for its own. -/
theorem execute_boundText {k : String} (hk : isRenderable k = true) (v : String) :
    (∀ (backend : Target.Backend) (data : Mapping) (name : Option String) (t : Trace),
      (Target.IsReadable k.toList →
        execute backend (Target.boundText k v) data name t = endOf (labelOf name) (warned data t)
          (if Target.hasOnlyNames data then .ok (Value.display (.str v)) else .error .badName)) ∧
      ∀ front c back, k.toList = front ++ c :: back → Target.IsReadable front →
        Unicode.isLateMark c = true →
        execute backend (Target.boundText k v) data name t = endOf (labelOf name) (warned data t)
          (.error (.unreadable ⟨c, "\x7b% with ".toList.length + front.length⟩))) ∧
    (∃ parts : List (List Char), literalText v.toList = '"' :: (parts.flatten ++ ['"']) ∧
      parts.length = v.toList.length ∧ ∀ x ∈ parts, Target.IsLiteralPart x) ∧
    (∀ w : String, literalText w.toList = literalText v.toList → w = v) ∧
    IsInert (literalText v.toList) := by
  refine ⟨fun backend data name t => ⟨fun hread => ?_, fun front c back hname hfront hc => ?_⟩,
    ⟨v.toList.map literalChar, ?_, List.length_map _, ?_⟩, fun w h => ?_, isInert_literalText v.toList⟩
  · rw [execute_eq_endOf, Target.run_boundText backend hk hread, hasOnlyNames_visible]
  · rw [execute_eq_endOf, Target.run_boundText_of_isLateMark backend hk hname hfront hc]
  · rw [literalText, List.flatMap_def]
  · intro x hx
    obtain ⟨c, -, rfl⟩ := List.mem_map.mp hx
    exact Target.isLiteralPart_literalChar c
  · exact String.ext (Target.literalText_injective h)

theorem execute_boundText_middle_dot :
    (isRenderable "a·b" = true ∧ Target.IsReadable "a·b".toList) ∧ ∀ backend name t,
      execute backend (Target.boundText "a·b" "# \"<é😀") [] name t = .ok "# &#34;&lt;é😀".toList t := by
  have hk : isRenderable "a·b" = true := by decide +kernel
  have hread : Target.IsReadable "a·b".toList := by decide +kernel
  exact ⟨⟨hk, hread⟩, fun backend name t => ((execute_boundText hk "# \"<é😀").1 backend [] name t).1 hread⟩

/-- A name with a mark that is too new can be given to a placeholder, but no backend reads it. -/
theorem execute_boundText_lateMark :
    isRenderable "aૺ" = true ∧ ∀ backend t,
      execute backend (Target.boundText "aૺ" "v") [] none t =
        .error (.execution namelessLabel (.unreadable ⟨'ૺ', 9⟩)) t := by
  have hk : isRenderable "aૺ" = true := by decide +kernel
  refine ⟨hk, fun backend t => ?_⟩
  have hname : "aૺ".toList = ['a'] ++ 'ૺ' :: [] := rfl
  rw [execute_eq_endOf, Target.run_boundText_of_isLateMark backend hk hname (by decide +kernel) (by decide +kernel)]
  rfl

end Stencil.Template
