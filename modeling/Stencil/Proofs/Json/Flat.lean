import Stencil.Proofs.Json.Numbers

/-! Mappings of names to scalars are read back from their JSON text, one item a line: strings character by
character, then scalars, then the pairs. -/
namespace Stencil.Json

open Number (digits floatText zeros placePoint placeExponent twoDigits FloatStyle)

/-! ### Strings -/

/-- A character that fits into one unit is read back from its code. -/
theorem readString_unitEscape (fuel : ℕ) {c : Char} (hc : c.toNat < 0x10000) (s : List Char) :
    readString (fuel + 1) (unitEscape c.toNat ++ s) =
      (readString fuel s).map fun r => (c :: r.1, r.2) := by
  have hunit := readUnit_hex hc s
  have hvalid : c.toNat < 0xd800 ∨ 0xe000 ≤ c.toNat := by
    rcases c.valid with h | h
    · exact .inl h
    · exact .inr (by have := h.1; change 0xdfff < c.toNat at this; omega)
  have hhalf : ¬(0xd800 ≤ c.toNat ∧ c.toNat < 0xdc00) := by omega
  have hchar : charOfUnit c.toNat = c := by rw [charOfUnit, if_neg (by omega), Char.ofNat_toNat]
  rw [unitEscape, List.cons_append, List.cons_append]
  simp [readString, hunit, hhalf, hchar]

/-- A pair of units is read as one character. -/
theorem readString_pair (fuel : ℕ) {high low : ℕ} (hhigh : 0xd800 ≤ high ∧ high < 0xdc00)
    (hlow : 0xdc00 ≤ low ∧ low < 0xe000) (s : List Char) :
    readString (fuel + 1) (unitEscape high ++ (unitEscape low ++ s)) =
      (readString fuel s).map fun r =>
        (Char.ofNat (0x10000 + (high - 0xd800) * 0x400 + (low - 0xdc00)) :: r.1, r.2) := by
  have hfirst := readUnit_hex (n := high) (by omega) (unitEscape low ++ s)
  have hsecond : readLowUnit (unitEscape low ++ s) = some (low, s) := by
    have hread := readUnit_hex (n := low) (by omega) s
    simp only [unitEscape, List.cons_append, readLowUnit, hread, if_pos hlow]
  rw [unitEscape, List.cons_append, List.cons_append]
  simp only [readString, hfirst, if_pos hhigh, hsecond]
  rfl

/-- A character beyond one unit is read back from its code. -/
theorem readString_pairEscape (fuel : ℕ) {c : Char} (hc : 0x10000 ≤ c.toNat) (s : List Char) :
    readString (fuel + 1) (unitEscape (0xd800 + (c.toNat - 0x10000) / 0x400) ++
        (unitEscape (0xdc00 + (c.toNat - 0x10000) % 0x400) ++ s)) =
      (readString fuel s).map fun r => (c :: r.1, r.2) := by
  have hmost : c.toNat < 0x110000 := by
    rcases c.valid with h | h
    · exact Nat.lt_trans h (by decide)
    · exact h.2
  rw [readString_pair fuel ⟨by omega, by omega⟩ ⟨by omega, by omega⟩,
    show 0x10000 + (0xd800 + (c.toNat - 0x10000) / 0x400 - 0xd800) * 0x400 +
      (0xdc00 + (c.toNat - 0x10000) % 0x400 - 0xdc00) = c.toNat by omega, Char.ofNat_toNat]

/-- One character of a string is read back. -/
theorem readString_escapeChar {ascii : Bool} (fuel : ℕ) (c : Char) (s : List Char) :
    readString (fuel + 1) (escapeChar ascii c ++ s) =
      (readString fuel s).map fun r => (c :: r.1, r.2) := by
  have hback : Char.ofNat c.toNat = c := Char.ofNat_toNat c
  unfold escapeChar
  by_cases h₁ : c = '"'
  · subst h₁; rfl
  by_cases h₂ : c = '\\'
  · subst h₂; rfl
  by_cases h₃ : c = '\n'
  · subst h₃; rfl
  by_cases h₄ : c = '\r'
  · subst h₄; rfl
  by_cases h₅ : c = '\t'
  · subst h₅; rfl
  rw [if_neg h₁, if_neg h₂, if_neg h₃, if_neg h₄, if_neg h₅]
  by_cases h₆ : c.toNat = 8
  · rw [if_pos h₆, ← hback, h₆]; rfl
  by_cases h₇ : c.toNat = 12
  · rw [if_neg h₆, if_pos h₇, ← hback, h₇]; rfl
  rw [if_neg h₆, if_neg h₇]
  split
  · unfold escapeCode
    split
    · next hsmall => exact readString_unitEscape fuel hsmall s
    · next hlarge =>
      rw [List.append_assoc]
      exact readString_pairEscape fuel (Nat.not_lt.mp hlarge) s
  · next hplain =>
    have h₈ : ¬ c.toNat < 32 := by
      simp only [Bool.or_eq_true, decide_eq_true_eq, not_or] at hplain
      exact hplain.1
    rw [List.singleton_append]
    simp [readString, h₁, h₂, h₈]

/-- A string is read up to its closing quote. -/
theorem readString_stringText (ascii : Bool) {fuel : ℕ} {cs : List Char} (hfuel : cs.length < fuel)
    (rest : List Char) :
    readString fuel (cs.flatMap (escapeChar ascii) ++ '"' :: rest) = some (cs, rest) := by
  induction cs generalizing fuel with
  | nil =>
    obtain ⟨fuel, rfl⟩ := Nat.exists_eq_add_one_of_ne_zero (Nat.ne_zero_of_lt hfuel)
    rfl
  | cons c cs ih =>
    obtain ⟨fuel, rfl⟩ := Nat.exists_eq_add_one_of_ne_zero (Nat.ne_zero_of_lt hfuel)
    rw [List.flatMap_cons, List.append_assoc, readString_escapeChar,
      ih (Nat.lt_of_succ_lt_succ hfuel)]
    rfl

theorem length_le_flatMap {α β : Type} {f : α → List β} {l : List α} (h : ∀ a ∈ l, f a ≠ []) :
    l.length ≤ (l.flatMap f).length := by
  induction l with
  | nil => exact le_rfl
  | cons a l ih =>
    have ha := List.length_pos_iff.mpr (h a List.mem_cons_self)
    have hl := ih fun b hb => h b (List.mem_cons_of_mem a hb)
    rw [List.flatMap_cons, List.length_append, List.length_cons]
    omega

theorem escapeChar_ne_nil (ascii : Bool) (c : Char) : escapeChar ascii c ≠ [] := by
  intro h
  have hread : readString 2 (escapeChar ascii c ++ ['"']) = _ := readString_escapeChar 1 c ['"']
  rw [h] at hread
  cases hread

/-- A string has fuel enough for all its characters in its own text. -/
theorem length_lt_of_stringText (ascii : Bool) (cs rest : List Char) :
    cs.length < (cs.flatMap (escapeChar ascii) ++ '"' :: rest).length + 1 := by
  have := length_le_flatMap fun c (_ : c ∈ cs) => escapeChar_ne_nil ascii c
  rw [List.length_append]
  omega

/-! ### Scalars -/

/-- Whether a scalar is nothing, a truth value, a floating-point number or a string: one that every text of
its kind is read for, however long it is. -/
def isUnbounded : Scalar → Bool
  | .null | .bool _ | .float _ | .str _ => true
  | _ => false

/-- The marks of strings, lists and mappings, and blanks. -/
def otherStarts : List Char := ['"', '[', '{', ' ', '\t', '\n', '\r']

theorem readValue_scalar {fuel room : ℕ} {c : Char} {s : List Char} (hc : c ∉ otherStarts) :
    readValue (fuel + 1) room (c :: s) = readScalar (c :: s) := by
  simp only [otherStarts, List.mem_cons, not_or] at hc
  simp [readValue, hc]

/-- What is read as a scalar begins with none of these. -/
theorem exists_cons_of_readScalar {s : List Char} {r : Value × List Char} (h : readScalar s = .ok r) :
    ∃ c t, s = c :: t ∧ c ∉ otherStarts := by
  cases s with
  | nil => cases h
  | cons c t =>
    refine ⟨c, t, rfl, fun hc => ?_⟩
    simp only [otherStarts, List.mem_cons, List.not_mem_nil, or_false] at hc
    have hnumber : readNumber false (c :: t) = .ok r := by
      rcases hc with rfl | rfl | rfl | rfl | rfl | rfl | rfl <;> exact h
    obtain ⟨d, t', hd, hdigit⟩ := exists_cons_of_readNumber hnumber
    obtain ⟨rfl, -⟩ := List.cons.inj hd
    rcases hc with rfl | rfl | rfl | rfl | rfl | rfl | rfl <;> cases hdigit

theorem readValue_stringText {ascii : Bool} {fuel room : ℕ} (cs rest : List Char) :
    readValue (fuel + 1) room (stringText ascii cs ++ rest) = .ok (.str (String.ofList cs), rest) := by
  have hread := readString_stringText ascii (length_lt_of_stringText ascii cs rest) rest
  have htext : stringText ascii cs ++ rest = '"' :: (cs.flatMap (escapeChar ascii) ++ '"' :: rest) := by
    simp [stringText]
  rw [htext]
  simp only [readValue, hread]

/-- A scalar is read back from its text. -/
theorem readValue_scalarText {s : Scalar} (hs : isUnbounded s = true) {fuel room : ℕ} {rest : List Char}
    (hrest : AfterNumber rest) :
    readValue (fuel + 1) room (scalarText false s ++ rest) = .ok (.scalar s, rest) := by
  cases s with
  | null => exact readValue_scalar (s := 'u' :: 'l' :: 'l' :: rest) (by decide)
  | bool b =>
    cases b with
    | true => exact readValue_scalar (s := 'r' :: 'u' :: 'e' :: rest) (by decide)
    | false => exact readValue_scalar (s := 'a' :: 'l' :: 's' :: 'e' :: rest) (by decide)
  | float x =>
    have hread := readScalar_floatText x hrest
    obtain ⟨c, t, hct, hc⟩ := exists_cons_of_readScalar hread
    rw [scalarText]
    rw [hct] at hread ⊢
    rw [readValue_scalar hc, hread]
  | str s =>
    rw [scalarText, readValue_stringText, String.ofList_toList]
  | int _ => cases hs
  | bytes _ => cases hs
  | date _ => cases hs
  | moment _ => cases hs

/-! ### Mappings -/

/-- Whether a pair is a name with such a scalar. -/
def isFlatPair : Scalar × Value → Bool
  | (.str _, .scalar s) => isUnbounded s
  | _ => false

theorem skipBlank_cons {c : Char} (hc : isBlank c = false) (s : List Char) : skipBlank (c :: s) = c :: s := by
  rw [skipBlank, List.dropWhile_cons_of_neg (by simpa using hc)]

theorem skipBlank_newline (depth : ℕ) {c : Char} (hc : isBlank c = false) (s : List Char) :
    skipBlank (Style.block.newline depth ++ c :: s) = c :: s := by
  change skipBlank ('\n' :: (List.replicate (2 * depth) ' ' ++ c :: s)) = c :: s
  rw [skipBlank, List.dropWhile_cons_of_pos rfl, List.dropWhile_append_of_pos fun d hd => ?_]
  · exact skipBlank_cons hc s
  · rw [List.eq_of_mem_replicate hd]
    rfl

theorem isBlank_of_notMem {c : Char} (hc : c ∉ otherStarts) : isBlank c = false := by
  simp only [otherStarts, List.mem_cons, not_or] at hc
  simp [isBlank, hc]

theorem skipBlank_scalarText {s : Scalar} (hs : isUnbounded s = true) {rest : List Char} (hrest : AfterNumber rest) :
    skipBlank (' ' :: (scalarText false s ++ rest)) = scalarText false s ++ rest := by
  rw [skipBlank, List.dropWhile_cons_of_pos rfl]
  change skipBlank _ = _
  cases s with
  | null => rfl
  | bool b => cases b <;> rfl
  | float x =>
    obtain ⟨c, t, hct, hc⟩ := exists_cons_of_readScalar (readScalar_floatText x hrest)
    rw [scalarText, hct, skipBlank_cons (isBlank_of_notMem hc)]
  | str s => rfl
  | int _ => cases hs
  | bytes _ => cases hs
  | date _ => cases hs
  | moment _ => cases hs

/-- A pair is read back, and then what follows it. -/
theorem readPairs_pair (name : List Char) {s : Scalar} (hs : isUnbounded s = true) (fuel room : ℕ)
    {more : List Char} (hmore : AfterNumber more) :
    readPairs (fuel + 2) room (stringText false name ++ ':' :: ' ' :: (scalarText false s ++ more)) =
      match skipBlank more with
      | '}' :: r => .ok ([(.str (String.ofList name), .scalar s)], r)
      | ',' :: r => do
        let (pairs, r) ← readPairs (fuel + 1) room (skipBlank r)
        .ok ((.str (String.ofList name), .scalar s) :: pairs, r)
      | _ => .error .malformed := by
  have hname := readString_stringText false
    (length_lt_of_stringText false name (':' :: ' ' :: (scalarText false s ++ more)))
    (':' :: ' ' :: (scalarText false s ++ more))
  have htext : stringText false name ++ ':' :: ' ' :: (scalarText false s ++ more) =
      '"' :: (name.flatMap (escapeChar false) ++ '"' :: ':' :: ' ' :: (scalarText false s ++ more)) := by
    simp [stringText]
  rw [htext, readPairs]
  simp only [hname, skipBlank_cons (c := ':') rfl, skipBlank_scalarText hs hmore,
    readValue_scalarText hs hmore]
  rfl

theorem afterNumber_newline (depth : ℕ) (s : List Char) : AfterNumber (Style.block.newline depth ++ s) :=
  afterNumber_cons (by decide) _

theorem renderPairs_cons (depth : ℕ) (name : String) (s : Scalar) (pairs : List (Scalar × Value)) :
    renderPairs .block depth ((.str name, .scalar s) :: pairs) =
      (stringText false name.toList ++ ':' :: ' ' :: scalarText false s) :: renderPairs .block depth pairs := by
  rw [renderPairs, render]
  rfl

theorem exists_quote_cons (depth : ℕ) (p : Scalar × Value) (pairs : List (Scalar × Value)) (rest : List Char) :
    ∃ t, (Style.block.comma depth).intercalate (renderPairs .block depth (p :: pairs)) ++ rest = '"' :: t := by
  rw [renderPairs, intercalate_cons]
  exact ⟨_, rfl⟩

theorem comma_block (depth : ℕ) : Style.block.comma depth = ',' :: Style.block.newline depth := rfl

theorem intercalate_renderPairs (sep a : List Char) (depth : ℕ) (p : Scalar × Value)
    (pairs : List (Scalar × Value)) :
    sep.intercalate (a :: renderPairs .block depth (p :: pairs)) =
      a ++ (sep ++ sep.intercalate (renderPairs .block depth (p :: pairs))) := by
  rw [renderPairs]
  rfl

theorem length_le_intercalate (sep : List Char) (depth : ℕ) (pairs : List (Scalar × Value)) :
    pairs.length ≤ (sep.intercalate (renderPairs .block depth pairs)).length := by
  induction pairs with
  | nil => exact Nat.zero_le _
  | cons p pairs ih =>
    cases pairs with
    | nil =>
      rw [renderPairs, intercalate_cons]
      simp [stringText]
    | cons q pairs =>
      rw [renderPairs, intercalate_renderPairs]
      simp only [List.length_append, List.length_cons, stringText] at ih ⊢
      omega

/-- Pairs up to the closing brace are read back. -/
theorem readPairs_renderPairs {pairs : List (Scalar × Value)} (hne : pairs ≠ [])
    (hflat : ∀ p ∈ pairs, isFlatPair p = true) (room depth : ℕ) {fuel : ℕ} (hfuel : pairs.length < fuel)
    (rest : List Char) :
    readPairs fuel room ((Style.block.comma depth).intercalate (renderPairs .block depth pairs) ++
      (Style.block.newline (depth - 1) ++ '}' :: rest)) = .ok (pairs, rest) := by
  induction pairs generalizing fuel with
  | nil => exact absurd rfl hne
  | cons p pairs ih =>
    obtain ⟨fuel, rfl⟩ : ∃ n, fuel = n + 2 := ⟨fuel - 2, by rw [List.length_cons] at hfuel; omega⟩
    have hp := hflat p List.mem_cons_self
    obtain ⟨k, v⟩ := p
    cases k <;> cases v <;> simp only [isFlatPair, Bool.false_eq_true] at hp
    case str.scalar name s =>
    cases pairs with
    | nil =>
      have hpair := readPairs_pair name.toList hp fuel room
        (afterNumber_newline (depth - 1) ('}' :: rest))
      rw [skipBlank_newline _ rfl, String.ofList_toList] at hpair
      rw [renderPairs_cons]
      simpa [renderPairs, intercalate_cons] using hpair
    | cons q pairs =>
      obtain ⟨t, ht⟩ := exists_quote_cons depth q pairs (Style.block.newline (depth - 1) ++ '}' :: rest)
      have hfuel : (q :: pairs).length < fuel + 1 := by simpa using hfuel
      have hrest := ih (List.cons_ne_nil _ _) (fun r hr => hflat r (List.mem_cons_of_mem _ hr)) hfuel
      have hpair := readPairs_pair name.toList hp fuel room
        (afterNumber_cons (c := ',') (by decide) (Style.block.newline depth ++ '"' :: t))
      rw [skipBlank_cons rfl, String.ofList_toList] at hpair
      simp only [skipBlank_newline depth (c := '"') rfl] at hpair
      rw [← ht, hrest] at hpair
      rw [renderPairs_cons, intercalate_renderPairs, comma_block]
      rw [comma_block] at hpair
      change _ = Except.ok ((Scalar.str name, Value.scalar s) :: q :: pairs, rest) at hpair
      simpa using hpair

theorem readValue_brace (fuel room depth : ℕ) (t : List Char) :
    readValue (fuel + 1) (room + 1) ('{' :: (Style.block.newline depth ++ '"' :: t)) =
      (readPairs fuel room ('"' :: t)).map fun r => (.dict (Mapping.ofPairs r.1), r.2) := by
  simp only [readValue, skipBlank_newline depth (c := '"') rfl]
  rfl

/-- A flat mapping is read back from its text; of two pairs with one key the later counts. -/
theorem parse_render_flat {pairs : List (Scalar × Value)} (hflat : ∀ p ∈ pairs, isFlatPair p = true) :
    parse (render .block 0 (.dict pairs)) = .ok (.dict (Mapping.ofPairs pairs)) := by
  cases pairs with
  | nil => rfl
  | cons p pairs =>
    set inside := (Style.block.comma 1).intercalate (renderPairs .block 1 (p :: pairs)) with hinside
    have hlength : (p :: pairs).length ≤ inside.length := length_le_intercalate _ 1 (p :: pairs)
    obtain ⟨t, ht⟩ := exists_quote_cons 1 p pairs (Style.block.newline 0 ++ ['}'])
    have htext : render .block 0 (.dict (p :: pairs)) =
        '{' :: (Style.block.newline 1 ++ (inside ++ (Style.block.newline 0 ++ ['}']))) := by
      rw [render, renderPairs, Style.bracket, hinside, renderPairs]
      · simp
      · exact List.cons_ne_nil _ _
    have hfuel : (p :: pairs).length < (render .block 0 (.dict (p :: pairs))).length := by
      rw [htext]
      simp only [List.length_cons, List.length_append] at hlength ⊢
      omega
    have hread := readPairs_renderPairs (List.cons_ne_nil p pairs) hflat (depthLimit - 1) 1 hfuel []
    have hblank : skipBlank (render .block 0 (.dict (p :: pairs))) =
        '{' :: (Style.block.newline 1 ++ '"' :: t) := by
      rw [htext, skipBlank_cons rfl, ht]
    have hvalue : readValue ((render .block 0 (.dict (p :: pairs))).length + 1) depthLimit
        ('{' :: (Style.block.newline 1 ++ '"' :: t)) =
          .ok (.dict (Mapping.ofPairs (p :: pairs)), []) := by
      refine (readValue_brace _ (depthLimit - 1) 1 t).trans ?_
      rw [← ht, hread]
      rfl
    unfold parse
    rw [hblank, hvalue]
    rfl

/-! ### Characters -/

theorem isVisible_of_subset {s t : List Char} (hst : s ⊆ t) (ht : isVisible t = true) :
    isVisible s = true :=
  List.all_eq_true.mpr fun c hc => List.all_eq_true.mp ht c (hst hc)

theorem isVisible_zeros (n : ℕ) : isVisible (zeros n) = true :=
  List.all_eq_true.mpr fun c hc => by rw [List.eq_of_mem_replicate hc]; rfl

theorem isVisible_placePoint {ds : List Char} (hds : isVisible ds = true) (lead : ℤ) :
    isVisible (placePoint ds lead) = true := by
  have htake := isVisible_of_subset (List.take_subset (lead.toNat + 1) ds) hds
  have hdrop := isVisible_of_subset (List.drop_subset (lead.toNat + 1) ds) hds
  unfold placePoint
  split
  · simp [isVisible_zeros, hds]
  · dsimp only
    split
    · simp [isVisible_zeros, hds]
    · simp [htake, hdrop]

theorem isVisible_placeExponent {ds : List Char} (hds : isVisible ds = true) (lead : ℤ) :
    isVisible (placeExponent .json ds lead) = true := by
  have hexponent : isVisible (twoDigits lead.natAbs) = true := by
    unfold twoDigits
    split <;> simp [isVisible_digits]
  have hsign : 32 ≤ (if lead < 0 then '-' else '+').toNat := by split <;> decide
  unfold placeExponent
  match ds, hds with
  | [], _ => simp [hexponent, hsign]
  | [d], hds => simpa [hexponent, hsign, FloatStyle.json] using hds
  | d :: e :: rest, hds => simpa [hexponent, hsign] using hds

/-- The text of a number holds no control characters. -/
theorem isVisible_floatText (x : Float) : isVisible (floatText .json x) = true := by
  unfold floatText
  split
  · rfl
  · next negative _ => cases negative <;> rfl
  · next negative m e _ =>
    rw [isVisible_append, Bool.and_eq_true]
    constructor
    · cases negative <;> rfl
    · have hds := isVisible_digits (Number.shortest m e).1
      dsimp only
      split
      · rfl
      · split
        · exact isVisible_placePoint hds _
        · exact isVisible_placeExponent hds _

theorem isVisible_of_isUnbounded {s : Scalar} (hs : isUnbounded s = true) :
    isVisible (scalarText false s) = true := by
  cases s with
  | null => rfl
  | bool b => cases b <;> rfl
  | float x => exact isVisible_floatText x
  | str s => exact isVisible_stringText s.toList
  | int _ => cases hs
  | bytes _ => cases hs
  | date _ => cases hs
  | moment _ => cases hs

theorem return_notMem_of_isVisible {s : List Char} (h : isVisible s = true) : '\r' ∉ s :=
  fun hmem => absurd (List.all_eq_true.mp h _ hmem) (by decide)

theorem return_notMem_newline (depth : ℕ) : '\r' ∉ Style.block.newline depth := by
  intro h
  rcases List.mem_cons.mp h with h | h
  · cases h
  · cases List.eq_of_mem_replicate h

/-- The lines of the text of a flat mapping end in line feeds. -/
theorem return_notMem_render_flat {pairs : List (Scalar × Value)}
    (hflat : ∀ p ∈ pairs, isFlatPair p = true) :
    '\r' ∉ render .block 0 (.dict pairs) := by
  have hitems : ∀ item ∈ renderPairs .block 1 pairs, '\r' ∉ item := by
    induction pairs with
    | nil => exact fun _ h => nomatch h
    | cons p pairs ih =>
      have hp := hflat p List.mem_cons_self
      obtain ⟨k, v⟩ := p
      cases k <;> cases v <;> simp only [isFlatPair, Bool.false_eq_true] at hp
      case str.scalar name s =>
        rw [renderPairs_cons]
        refine List.forall_mem_cons.mpr ⟨return_notMem_of_isVisible ?_,
          ih fun q hq => hflat q (List.mem_cons_of_mem _ hq)⟩
        simp [isVisible_stringText, isVisible_of_isUnbounded hp]
  rw [render]
  change '\r' ∉ Style.block.bracket '{' '}' 0 (renderPairs .block 1 pairs)
  cases hcases : renderPairs .block 1 pairs with
  | nil => decide
  | cons item items =>
    rw [hcases] at hitems
    have hlater : '\r' ∉ items.flatMap (Style.block.comma 1 ++ ·) := by
      intro h
      obtain ⟨later, hlater, h⟩ := List.mem_flatMap.mp h
      rcases List.mem_append.mp h with h | h
      · rcases List.mem_cons.mp h with h | h
        · cases h
        · exact return_notMem_newline 1 h
      · exact hitems later (List.mem_cons_of_mem _ hlater) h
    rw [Style.bracket, intercalate_cons]
    · simp [return_notMem_newline, hitems item List.mem_cons_self, hlater]
    · exact List.cons_ne_nil _ _
end Stencil.Json
