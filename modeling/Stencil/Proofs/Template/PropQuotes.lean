import Stencil.Proofs.Template.PropItems
import Stencil.Proofs.Template.TiledStretches

/-! Quotes in the use of a component. The scan for its end, the reader of values and the splitter of fragments
each keep track of quotes by themselves. They agree: the end is found where no quote is open, so all that
stands in front of it closes the quotes that it opens, and every prop and every fragment does so too. -/
namespace Stencil.Template

open Directive (findEnd isQuote quoteAfter readHead splitEnd)
open Text (IsName isSpace skipSpace)

/-! ### The quote behind a text -/

section

variable {quote : Option Char} {s x : List Char}

theorem quoteBehind_append (quote : Option Char) (x y : List Char) :
    quoteBehind quote (x ++ y) = quoteBehind (quoteBehind quote x) y := List.foldl_append

theorem isQuote_of_quoteBehind {quote : Option Char} (hquote : ∀ q, quote = some q → isQuote q = true) :
    ∀ q, quoteBehind quote s = some q → isQuote q = true := by
  induction s generalizing quote with
  | nil => exact hquote
  | cons c s ih => exact ih (Directive.isQuote_quoteAfter hquote c)

/-- A text without quotes opens none and closes none. -/
theorem quoteBehind_of_unquoted (hx : ∀ c ∈ x, isQuote c = false)
    (hquote : ∀ q, quote = some q → isQuote q = true) : quoteBehind quote x = quote := by
  induction x with
  | nil => rfl
  | cons c x ih =>
    have hc : quoteAfter quote c = quote := by
      have hplain := hx c List.mem_cons_self
      cases quote with
      | none => simp [quoteAfter, hplain]
      | some q =>
        have hne : c ≠ q := by
          rintro rfl
          rw [hquote c rfl] at hplain
          cases hplain
        simp [quoteAfter, hne]
    rw [quoteBehind, List.foldl_cons, hc]
    exact ih fun d hd => hx d (List.mem_cons_of_mem c hd)

theorem quoteBehind_none_of_unquoted (hx : ∀ c ∈ x, isQuote c = false) : quoteBehind none x = none :=
  quoteBehind_of_unquoted hx fun _ h => nomatch h

theorem isQuote_of_isWord {c : Char} (h : Unicode.isWord c = true) : isQuote c = false := by
  refine Bool.eq_false_iff.mpr fun hc => ?_
  have hquote : c = '"' ∨ c = '\'' := by simpa [isQuote] using hc
  rcases hquote with rfl | rfl <;> exact absurd h (by decide)

theorem isQuote_of_isSpace {c : Char} (h : isSpace c = true) : isQuote c = false := by
  refine Bool.eq_false_iff.mpr fun hc => ?_
  rw [isSpace_of_isQuote hc] at h
  cases h

theorem quoteBehind_blanks (hx : x.all isSpace = true) : quoteBehind none x = none :=
  quoteBehind_none_of_unquoted fun c hc => isQuote_of_isSpace (List.all_eq_true.mp hx c hc)

/-- The quote that is open stays open up to the next one of its kind. -/
theorem quoteBehind_inside {q : Char} (hx : q ∉ x) : quoteBehind (some q) x = some q := by
  induction x with
  | nil => rfl
  | cons c x ih =>
    rw [List.mem_cons, not_or] at hx
    have hc : quoteAfter (some q) c = some q := by simp [quoteAfter, Ne.symm hx.1]
    rw [quoteBehind, List.foldl_cons, hc]
    exact ih hx.2

/-- If an open quote is closed, the text has a first one of its kind. -/
theorem exists_value_of_quoteBehind {q : Char} (h : quoteBehind (some q) s = none) :
    ∃ value rest, s = value ++ q :: rest ∧ q ∉ value := by
  by_cases hs : q ∈ s
  · obtain ⟨value, rest, rfl, hvalue⟩ := List.eq_append_cons_of_mem hs
    exact ⟨value, rest, rfl, hvalue⟩
  · rw [quoteBehind_inside hs] at h
    cases h

end

/-! ### The end scan -/

/-- A text without a closing sign is scanned through for its quotes. -/
theorem splitEnd_behind {x : List Char} (hx : '>' ∉ x) (quote : Option Char) (s : List Char) :
    splitEnd quote (x ++ s) = (splitEnd (quoteBehind quote x) s).map fun r => (x ++ r.1, r.2) := by
  induction x generalizing quote with
  | nil => simp [quoteBehind]
  | cons c x ih =>
    rw [List.mem_cons, not_or] at hx
    rw [List.cons_append, splitEnd, if_neg fun h => hx.1 h.2.symm, ih hx.2, Option.map_map]
    rfl

/-- Whether a text with `quote` open in front of it leaves none open, and holds no closing sign outside
quotes. -/
structure Settles (quote : Option Char) (s : List Char) : Prop where
  closed : quoteBehind quote s = none
  quoted : ∀ before after, s = before ++ '>' :: after → quoteBehind quote before ≠ none

/-- What stands in front of the end settles. -/
theorem settles_of_splitEnd {quote : Option Char} {s inner rest : List Char}
    (h : splitEnd quote s = some (inner, rest)) : Settles quote inner := by
  induction s generalizing quote inner with
  | nil => cases h
  | cons c s ih =>
    simp only [splitEnd] at h
    split at h
    · next hend =>
      cases h
      exact ⟨hend.1, by simp⟩
    · next hend =>
      obtain ⟨r, hr, he⟩ := Option.map_eq_some_iff.mp h
      cases he
      have hrest := ih hr
      refine ⟨hrest.closed, fun before after hinner hquote => ?_⟩
      cases before with
      | nil => exact hend ⟨hquote, (List.cons.inj hinner).1⟩
      | cons b before =>
        obtain ⟨rfl, hmore⟩ := List.cons.inj hinner
        exact hrest.quoted before after hmore hquote

/-! ### Props and fragments -/

/-- No quote stands in front of a value. -/
theorem quoteBehind_key {key before after : List Char} (bound : Bool) (hkey : IsName key)
    (hbefore : before.all isSpace = true) (hafter : after.all isSpace = true) (s : List Char) :
    quoteBehind none (bindMark bound ++ (key ++ (before ++ '=' :: (after ++ s)))) =
      quoteBehind none s := by
  have hmark : quoteBehind none (bindMark bound) = none := by cases bound <;> rfl
  have hname : quoteBehind none key = none :=
    quoteBehind_none_of_unquoted fun c hc => isQuote_of_isWord (hkey.word c hc)
  rw [quoteBehind_append, hmark, quoteBehind_append, hname, quoteBehind_append,
    quoteBehind_blanks hbefore]
  change quoteBehind none (after ++ s) = _
  rw [quoteBehind_append, quoteBehind_blanks hafter]

/-- A prop closes the quote around its value. -/
theorem PropToken.Spelled.quoteBehind_eq {p : PropToken} {source : List Char} (h : p.Spelled source) :
    quoteBehind none source = none := by
  cases h with
  | @intro key before after value quote bound hkey hbefore hafter hquote hvalue =>
    have hopen : quoteAfter none quote = some quote := by simp [quoteAfter, hquote]
    have hclose : quoteAfter (some quote) quote = none := by simp [quoteAfter]
    rw [quoteBehind_key bound hkey hbefore hafter]
    change quoteBehind (quoteAfter none quote) (value ++ [quote]) = none
    rw [hopen, quoteBehind_append, quoteBehind_inside hvalue]
    exact hclose

/-- Whether a text begins like a prop up to the quote that opens the value. -/
inductive OpensValue : List Char → Prop
  | intro {key before after rest : List Char} {quote : Char} (bound : Bool) (hkey : IsName key)
      (hbefore : before.all isSpace = true) (hafter : after.all isSpace = true)
      (hquote : isQuote quote = true) :
      OpensValue (bindMark bound ++ (key ++ (before ++ '=' :: (after ++ quote :: rest))))

/-- In a text that closes its quotes a value that is opened is closed too, so a prop is read. -/
theorem OpensValue.isSome_readProp {t : List Char} (h : OpensValue t)
    (hclosed : quoteBehind none t = none) : (readProp t).isSome = true := by
  cases h with
  | @intro key before after rest quote bound hkey hbefore hafter hquote =>
    have hopen : quoteAfter none quote = some quote := by simp [quoteAfter, hquote]
    rw [quoteBehind_key bound hkey hbefore hafter] at hclosed
    change quoteBehind (quoteAfter none quote) rest = none at hclosed
    rw [hopen] at hclosed
    obtain ⟨value, rest, rfl, hvalue⟩ := exists_value_of_quoteBehind hclosed
    have htext :
        bindMark bound ++ (key ++ (before ++ '=' :: (after ++ quote :: (value ++ quote :: rest)))) =
          bindMark bound ++ (key ++ (before ++ '=' :: (after ++ quote :: (value ++ [quote])))) ++ rest := by
      simp
    rw [htext, readProp_eq_some_iff.mpr ⟨_, .intro bound hkey hbefore hafter hquote hvalue, rfl⟩]
    rfl

/-- In a text that closes its quotes, so does what is set aside of it. -/
theorem quoteBehind_splitFragment {t : List Char} (h : quoteBehind none t = none) :
    quoteBehind none (splitFragment none t).1 = none := by
  rcases (runsOn_splitFragment none t).ends with hrest | ⟨hclosed, -⟩
  · have hwhole := splitFragment_append none t
    rw [hrest, List.append_nil] at hwhole
    rwa [hwhole]
  · exact hclosed

/-! ### Where props are tried -/

/-- The texts at whose start a prop is tried, in order: behind blanks, props and fragments. -/
def tries (s : List Char) : List (List Char) :=
  match h : skipSpace s with
  | [] => []
  | c :: t =>
    have hle : (c :: t).length ≤ s.length := h ▸ (Text.skipSpace_suffix s).length_le
    match hp : readProp (c :: t) with
    | some (_, rest) =>
      have : rest.length < s.length := Nat.lt_of_lt_of_le (readProp_suffix hp).2 hle
      (c :: t) :: tries rest
    | none =>
      let rest := (splitFragment (quoteAfter none c) t).2
      have : rest.length < s.length :=
        Nat.lt_of_le_of_lt (splitFragment_rest_length (quoteAfter none c) t) hle
      (c :: t) :: tries rest
termination_by s.length

/-- The item that a try makes: a prop, or else a fragment. -/
def itemAt (t : List Char) : PropItem :=
  match readProp t with
  | some (p, _) => .pair p
  | none => .fragment (splitFragment none t).1

theorem splitFragment_cons {c : Char} (h : isSpace c = false) (t : List Char) :
    splitFragment none (c :: t) =
      (c :: (splitFragment (quoteAfter none c) t).1, (splitFragment (quoteAfter none c) t).2) := by
  rw [splitFragment, if_neg fun hc => by rw [h] at hc; cases hc.2]

/-- Each item of a text is made by a try. -/
theorem lexProps_eq_map_itemAt (s : List Char) : lexProps s = (tries s).map itemAt := by
  fun_induction tries s with
  | case1 s h => rw [lexProps_of_blank h, List.map_nil]
  | case2 s c t h _ p rest hread _ ih =>
    have hitem : itemAt (c :: t) = .pair p := by rw [itemAt, hread]
    rw [lexProps_of_readProp h hread, List.map_cons, hitem, ih]
  | case3 s c t h _ hread rest _ ih =>
    have hitem : itemAt (c :: t) = .fragment (c :: (splitFragment (quoteAfter none c) t).1) := by
      rw [itemAt, hread, splitFragment_cons (Text.isSpace_of_skipSpace h)]
    rw [lexProps_of_readProp_none h hread rfl, List.map_cons, hitem, ih]

/-- A try behind blanks, and those behind the item that it makes, are outside quotes if the blanks and the
source of the item close theirs. -/
theorem quoteBehind_of_mem_tries_cons {blanks source rest : List Char}
    (hblanks : quoteBehind none blanks = none) (hsource : quoteBehind none source = none)
    (hs : quoteBehind none (blanks ++ (source ++ rest)) = none)
    (ih : quoteBehind none rest = none →
      ∀ t ∈ tries rest, ∃ before, rest = before ++ t ∧ quoteBehind none before = none) :
    ∀ t ∈ (source ++ rest) :: tries rest, ∃ before,
      blanks ++ (source ++ rest) = before ++ t ∧ quoteBehind none before = none := by
  have hfront : quoteBehind none (blanks ++ source) = none := by
    rw [quoteBehind_append, hblanks, hsource]
  rw [← List.append_assoc, quoteBehind_append, hfront] at hs
  refine List.forall_mem_cons.mpr ⟨⟨blanks, rfl, hblanks⟩, fun t ht => ?_⟩
  obtain ⟨before, rfl, hbefore⟩ := ih hs t ht
  exact ⟨blanks ++ source ++ before, by simp, by rw [quoteBehind_append, hfront, hbefore]⟩

/-- In a text that closes its quotes, props are tried outside quotes only. -/
theorem quoteBehind_of_mem_tries {s : List Char} (hs : quoteBehind none s = none) :
    ∀ t ∈ tries s, ∃ before, s = before ++ t ∧ quoteBehind none before = none := by
  fun_induction tries s with
  | case1 => simp
  | case2 s c t h _ p rest hread _ ih =>
    obtain ⟨blanks, hblanks, he⟩ := Text.exists_blanks s
    obtain ⟨source, hp, hsource⟩ := readProp_eq_some_iff.mp hread
    rw [he, h, hsource] at hs ⊢
    exact quoteBehind_of_mem_tries_cons (quoteBehind_blanks hblanks) hp.quoteBehind_eq hs ih
  | case3 s c t h _ hread rest _ ih =>
    obtain ⟨blanks, hblanks, he⟩ := Text.exists_blanks s
    have hblanks := quoteBehind_blanks hblanks
    -- the fragment closes its quotes because all that stands behind the blanks does
    have hbehind : quoteBehind none (c :: t) = none := by
      rwa [he, h, quoteBehind_append, hblanks] at hs
    have hfragment := quoteBehind_splitFragment hbehind
    have hsplit := splitFragment_append none (c :: t)
    rw [splitFragment_cons (Text.isSpace_of_skipSpace h)] at hfragment hsplit
    rw [he, h, ← hsplit] at hs ⊢
    exact quoteBehind_of_mem_tries_cons hblanks hfragment hs ih

/-! ### The head of a use -/

theorem exists_tail_of_dropColon (s : List Char) :
    ∃ tail, s = Directive.dropColon s ++ tail ∧ (tail = [] ∨ tail = [':']) := by
  unfold Directive.dropColon
  split
  · next h =>
    obtain ⟨front, rfl⟩ := List.getLast?_eq_some_iff.mp h
    exact ⟨[':'], by simp, .inr rfl⟩
  · exact ⟨[], (List.append_nil s).symm, .inl rfl⟩

theorem exists_blanks_of_needSpace {s rest : List Char} (h : Text.needSpace s = some rest) :
    ∃ blanks, blanks.all isSpace = true ∧ s = blanks ++ rest := by
  cases s with
  | nil => cases h
  | cons c s =>
    simp only [Text.needSpace] at h
    split at h
    · next hc =>
      cases h
      obtain ⟨blanks, hblanks, hs⟩ := Text.exists_blanks s
      exact ⟨c :: blanks, by simp [hc, hblanks], congrArg (c :: ·) hs⟩
    · cases h

theorem exists_name_of_takeName {s name rest : List Char}
    (h : Directive.takeName s = some (name, rest)) :
    s = name ++ rest ∧ quoteBehind none name = none := by
  unfold Directive.takeName at h
  split at h
  · cases h
  · cases h
    refine ⟨List.takeWhile_append_dropWhile.symm, quoteBehind_none_of_unquoted fun c hc => ?_⟩
    have hname := List.all_eq_true.mp List.all_takeWhile c hc
    refine Bool.eq_false_iff.mpr fun hquote => ?_
    have hc : c = '"' ∨ c = '\'' := by simpa [isQuote] using hquote
    rcases hc with rfl | rfl <;> exact absurd hname (by decide)

/-- The props of a use stand behind blanks, its name and blanks, up to its end or a colon there. -/
theorem exists_lead_of_readHead {inner : List Char} {use : Directive.ComponentUse}
    (h : readHead inner = some use) :
    ∃ lead tail, inner = lead ++ (use.props ++ tail) ∧ quoteBehind none lead = none ∧
      (tail = [] ∨ tail = [':']) := by
  obtain ⟨tail, hinner, htail⟩ := exists_tail_of_dropColon inner
  obtain ⟨s₁, hblanks, h₁⟩ := Option.bind_eq_some_iff.mp h
  obtain ⟨⟨name, s₂⟩, hname, h₂⟩ := Option.bind_eq_some_iff.mp h₁
  obtain ⟨blanks, hall, hs⟩ := exists_blanks_of_needSpace hblanks
  obtain ⟨hs₁, hclosed⟩ := exists_name_of_takeName hname
  have hlead : quoteBehind none (blanks ++ name) = none := by
    rw [quoteBehind_append, quoteBehind_blanks hall, hclosed]
  rw [hs, hs₁] at hinner
  dsimp only at h₂
  split at h₂
  · cases h₂
    exact ⟨blanks ++ name, tail, by simpa using hinner, hlead, htail⟩
  · obtain ⟨props, hprops, he⟩ := Option.map_eq_some_iff.mp h₂
    cases he
    obtain ⟨gap, hgap, rfl⟩ := exists_blanks_of_needSpace hprops
    refine ⟨blanks ++ name ++ gap, tail, by simpa using hinner, ?_, htail⟩
    rw [quoteBehind_append, hlead, quoteBehind_blanks hgap]

/-! ### A use in a page -/

/-- The scan for the end of a use and the reading of its props agree on quotes, wherever the scan starts. At
each place where a prop is tried the scan has no quote open; where a value is opened, a prop is read; behind
each fragment the scan has no quote open; and no closing sign stands in the props where it has none open. -/
theorem findEnd_agrees_lexProps {content : List Char} {start stop : Nat}
    {use : Directive.ComponentUse} (hend : findEnd content start = some stop)
    (hhead : readHead ((content.take stop).drop start) = some use) :
    ∃ lead tail, (content.take stop).drop start = lead ++ (use.props ++ tail) ∧
      (tail = [] ∨ tail = [':']) ∧ lexProps use.props = (tries use.props).map itemAt ∧
      (∀ t ∈ tries use.props, ∃ before, use.props = before ++ t ∧
        quoteBehind none (lead ++ before) = none ∧
        (OpensValue t → (readProp t).isSome = true) ∧
        (readProp t = none →
          quoteBehind none (lead ++ before ++ (splitFragment none t).1) = none)) ∧
      ∀ before after, use.props = before ++ '>' :: after → quoteBehind none (lead ++ before) ≠ none := by
  have hsettles : Settles none ((content.take stop).drop start) := by
    obtain ⟨r, hr, rfl⟩ := Option.map_eq_some_iff.mp hend
    have hinner : (content.take (start + r.1.length)).drop start = r.1 := by
      rw [List.drop_take, Nat.add_sub_cancel_left, Directive.splitEnd_eq_some hr, List.take_left]
    rw [hinner]
    exact settles_of_splitEnd hr
  obtain ⟨lead, tail, hinner, hlead, htail⟩ := exists_lead_of_readHead hhead
  rw [hinner] at hsettles ⊢
  -- a colon at the end opens and closes no quote
  have htail' : ∀ c ∈ tail, isQuote c = false := by
    rcases htail with rfl | rfl
    · simp
    · simp [isQuote]
  have hprops : quoteBehind none use.props = none := by
    have hvalid : ∀ q, quoteBehind none use.props = some q → isQuote q = true :=
      isQuote_of_quoteBehind (by simp)
    have hclosed := hsettles.closed
    rw [quoteBehind_append, hlead, quoteBehind_append] at hclosed
    rwa [quoteBehind_of_unquoted htail' hvalid] at hclosed
  refine ⟨lead, tail, rfl, htail, lexProps_eq_map_itemAt use.props, fun t ht => ?_,
    fun before after hprops => ?_⟩
  · obtain ⟨before, hbefore, hclosed⟩ := quoteBehind_of_mem_tries hprops t ht
    have hfront : quoteBehind none (lead ++ before) = none := by
      rw [quoteBehind_append, hlead, hclosed]
    have ht : quoteBehind none t = none := by
      rwa [hbefore, quoteBehind_append, hclosed] at hprops
    refine ⟨before, hbefore, hfront, fun h => h.isSome_readProp ht, fun _ => ?_⟩
    rw [quoteBehind_append, hfront, quoteBehind_splitFragment ht]
  · exact hsettles.quoted (lead ++ before) (after ++ tail) (by simp [hprops])

theorem findEnd_agrees_lexProps_card :
    findEnd "<: component card t=\"a > b\" x'>' :>".toList 12 = some 34 ∧
    readHead (("<: component card t=\"a > b\" x'>' :>".toList.take 34).drop 12) =
      some ⟨"card", "t=\"a > b\" x'>' ".toList⟩ ∧
    ∀ t ∈ tries "t=\"a > b\" x'>' ".toList, OpensValue t → (readProp t).isSome = true := by
  have hend : findEnd "<: component card t=\"a > b\" x'>' :>".toList 12 = some 34 := by decide
  have hhead : readHead (("<: component card t=\"a > b\" x'>' :>".toList.take 34).drop 12) =
      some ⟨"card", "t=\"a > b\" x'>' ".toList⟩ := by decide +kernel
  obtain ⟨_, _, _, _, _, htries, _⟩ := findEnd_agrees_lexProps hend hhead
  refine ⟨hend, hhead, fun t ht => ?_⟩
  obtain ⟨_, _, _, hread, _⟩ := htries t ht
  exact hread

end Stencil.Template
