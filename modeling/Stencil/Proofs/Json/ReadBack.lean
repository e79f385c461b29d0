import Stencil.Proofs.Json.Flat
import Stencil.Proofs.Mapping
import Stencil.Proofs.Number.Scientific

/-! Values are read back from their JSON text, in every style: each part from the text that begins with its
own, item by item. The only values that are not are those whose lists and mappings stand too deep in one
another. -/
namespace Stencil

/-! ### Mappings of different names -/

theorem Json.exists_of_isName {k : Scalar} (h : isName k = true) : ∃ name, k = .str name := by
  cases k with
  | str name => exact ⟨name, rfl⟩
  | _ => cases h

namespace Mapping

/-- Pairs of different names are put behind one another. -/
theorem ofPairs_eq_self {pairs : List (Scalar × Value)} (hnames : ∀ p ∈ pairs, Json.isName p.1 = true)
    (honce : (names pairs).Nodup) : ofPairs pairs = pairs := by
  suffices h : ∀ m : Mapping, (∀ name ∈ names pairs, Mapping.contains m (.str name) = false) →
      overlay m pairs = m ++ pairs from h [] fun _ _ => rfl
  induction pairs with
  | nil => exact fun m _ => (List.append_nil m).symm
  | cons p pairs ih =>
    obtain ⟨k, v⟩ := p
    intro m hm
    have hk := hnames (k, v) List.mem_cons_self
    obtain ⟨name, rfl⟩ := Json.exists_of_isName hk
    rw [names_cons_name] at honce hm
    obtain ⟨hfresh, honce⟩ := List.nodup_cons.mp honce
    change overlay (insert m (.str name) v) pairs = m ++ (.str name, v) :: pairs
    rw [insert_of_not_contains (hm name List.mem_cons_self),
      ih (fun p hp => hnames p (List.mem_cons_of_mem _ hp)) honce _ fun other hother => ?_,
      List.append_assoc, List.singleton_append]
    have hne : name ≠ other := fun h => hfresh (h ▸ hother)
    rw [Mapping.contains, List.any_append, ← Mapping.contains, hm other (List.mem_cons_of_mem _ hother)]
    simpa using hne

end Mapping

namespace Json

open Number (digits digitLimit intText)

/-- Whether a value is no more than what its JSON text says: nothing, a truth value, a string, a whole number that
is not too long, a list of such values, or a mapping of different names to such values. -/
inductive IsExact : Value → Prop
  | scalar {s : Scalar} (plain : isPlainScalar s = true) (short : s.isTooLong = false) : IsExact (.scalar s)
  | list {items : List Value} (parts : ∀ v ∈ items, IsExact v) : IsExact (.list items)
  | dict {pairs : Mapping} (named : ∀ p ∈ pairs, isName p.1 = true) (once : (Mapping.names pairs).Nodup)
      (parts : ∀ p ∈ pairs, IsExact p.2) : IsExact (.dict pairs)

mutual

/-- How deep lists and mappings stand in one another in a value. -/
def nesting : Value → ℕ
  | .list items | .tuple items => nestingItems items + 1
  | .dict pairs => nestingPairs pairs + 1
  | _ => 0

def nestingItems : List Value → ℕ
  | [] => 0
  | v :: items => max (nesting v) (nestingItems items)

def nestingPairs : List (Scalar × Value) → ℕ
  | [] => 0
  | (_, v) :: pairs => max (nesting v) (nestingPairs pairs)

end

/-! ### Blanks -/

theorem skipBlank_append {b : List Char} (hb : b.all isBlank = true) {c : Char} (hc : isBlank c = false)
    (s : List Char) : skipBlank (b ++ c :: s) = c :: s := by
  rw [skipBlank, List.dropWhile_append_of_pos (List.all_eq_true.mp hb)]
  exact skipBlank_cons hc s

theorem all_isBlank_newline (style : Style) (depth : ℕ) : (style.newline depth).all isBlank = true := by
  unfold Style.newline
  split
  · rfl
  · rw [List.all_cons, List.all_eq_true.mpr fun c hc => by rw [List.eq_of_mem_replicate hc]; rfl]
    rfl

/-- A separator is a comma and blanks. -/
theorem exists_comma (style : Style) (depth : ℕ) :
    ∃ b, style.comma depth = ',' :: b ∧ b.all isBlank = true := by
  have hbreak := all_isBlank_newline style depth
  unfold Style.comma
  split
  · exact ⟨[' '], rfl, rfl⟩
  · exact ⟨_, rfl, hbreak⟩

/-- No number goes on behind blanks, or into a closing bracket or brace. -/
theorem afterNumber_append {b : List Char} (hb : b.all isBlank = true) {c : Char}
    (hc : c.isDigit = false ∧ c ≠ '.' ∧ c ≠ 'e' ∧ c ≠ 'E') (s : List Char) :
    AfterNumber (b ++ c :: s) := by
  cases b with
  | nil => exact afterNumber_cons hc s
  | cons d b =>
    rw [List.all_cons, Bool.and_eq_true] at hb
    have hd : ((d = ' ' ∨ d = '\t') ∨ d = '\n') ∨ d = '\r' := by simpa [isBlank] using hb.1
    refine afterNumber_cons ?_ _
    rcases hd with ((rfl | rfl) | rfl) | rfl <;> decide

/-! ### Scalars -/

/-- A number of few digits is below a power of ten. -/
theorem length_digits_le_of_lt {limit m : ℕ} (hlimit : 0 < limit) (h : decide (Nat.pow 10 limit ≤ m) = false) :
    (digits m).length ≤ limit := by
  rw [decide_eq_false_iff_not] at h
  exact (Number.length_digits_le_iff hlimit).mpr (Nat.not_le.mp h)

theorem length_digits_le {n : ℤ} (h : (Scalar.int n).isTooLong = false) :
    (digits n.natAbs).length ≤ digitLimit :=
  length_digits_le_of_lt (by decide) h

/-- A whole number of few digits is read back. -/
theorem readNumber_digits_of_short {k : ℕ} (hk : (digits k).length ≤ digitLimit) (negative : Bool)
    {rest : List Char} (hrest : AfterNumber rest) :
    readNumber negative (digits k ++ rest) =
      .ok (.int (if negative then -Int.ofNat k else Int.ofNat k), rest) := by
  have hfraction : readFraction rest = ([], rest) :=
    readFraction_none fun t ht => (hrest '.' t ht).2.1 rfl
  have hspan := spanDigits_append (isDigits_digits k).digit hrest.numberEnds
  have hvalue := natOf_digits k
  obtain ⟨c, ds, hds, -⟩ := exists_digits_cons k
  by_cases hzero : c = '0'
  · obtain rfl : k = 0 := by
      by_contra hne
      exact head_digits_ne (Nat.pos_of_ne_zero hne) hds hzero
    change readNumber negative ('0' :: rest) = _
    simp [readNumber, hfraction, readExponent_none hrest, digitLimit, natOf]
  · rw [hds] at hspan hvalue hk ⊢
    rw [List.cons_append] at hspan ⊢
    have hfew : ds.length < digitLimit := hk
    simp [readNumber, hzero, hspan, hfraction, readExponent_none hrest, hvalue, hfew]

theorem readScalar_intText {n : ℤ} (hn : (Scalar.int n).isTooLong = false) {rest : List Char}
    (hrest : AfterNumber rest) : readScalar (intText n ++ rest) = .ok (.int n, rest) := by
  have hlength := length_digits_le hn
  cases n with
  | ofNat k =>
    have hread := readNumber_digits_of_short hlength false hrest
    obtain ⟨c, ds, hds, hc⟩ := exists_digits_cons k
    change readScalar (digits k ++ rest) = _
    unfold readScalar
    change readNumber false (digits k ++ rest) = _ at hread
    rw [hds, List.cons_append] at hread ⊢
    rw [findWord_digit hc]
    dsimp only
    split
    · next heq => exact absurd (List.cons.inj heq).1.symm (ne_of_isDigit hc rfl)
    · exact hread
  | negSucc k =>
    have hread := readNumber_digits_of_short hlength true hrest
    obtain ⟨c, ds, hds, hc⟩ := exists_digits_cons (k + 1)
    change readScalar ('-' :: (digits (k + 1) ++ rest)) = _
    unfold readScalar
    change readNumber true (digits (k + 1) ++ rest) = _ at hread
    rw [hds, List.cons_append] at hread ⊢
    rw [findWord_minus hc]
    exact hread

/-- What a value begins with. -/
theorem exists_scalarText_start {s : Scalar} (hs : isPlainScalar s = true) (ascii : Bool) :
    ∃ c t, scalarText ascii s = c :: t ∧ isBlank c = false ∧ c ≠ ']' := by
  cases s with
  | null => exact ⟨'n', _, rfl, by decide⟩
  | bool b => cases b <;> exact ⟨_, _, rfl, by decide⟩
  | int n =>
    cases n with
    | ofNat k =>
      obtain ⟨c, ds, hds, hc⟩ := exists_digits_cons k
      refine ⟨c, ds, hds, ?_, ?_⟩
      · have hne {d : Char} (hd : d.isDigit = false) : c ≠ d := (ne_of_isDigit hc hd).symm
        simp [isBlank, hne (d := ' ') rfl, hne (d := '\t') rfl, hne (d := '\n') rfl, hne (d := '\r') rfl]
      · exact (ne_of_isDigit hc rfl).symm
    | negSucc k => exact ⟨'-', _, rfl, by decide⟩
  | str s => exact ⟨'"', _, rfl, by decide⟩
  | _ => cases hs

theorem readValue_plainScalar {s : Scalar} (hs : isPlainScalar s = true) (hshort : s.isTooLong = false)
    {ascii : Bool} {fuel room : ℕ} {rest : List Char} (hrest : AfterNumber rest) :
    readValue (fuel + 1) room (scalarText ascii s ++ rest) = .ok (.scalar s, rest) := by
  cases s with
  | null => exact readValue_scalar (s := 'u' :: 'l' :: 'l' :: rest) (by decide)
  | bool b =>
    cases b with
    | true => exact readValue_scalar (s := 'r' :: 'u' :: 'e' :: rest) (by decide)
    | false => exact readValue_scalar (s := 'a' :: 'l' :: 's' :: 'e' :: rest) (by decide)
  | int n =>
    have hread := readScalar_intText hshort hrest
    obtain ⟨c, t, hct, hc⟩ := exists_cons_of_readScalar hread
    rw [scalarText]
    rw [hct] at hread ⊢
    rw [readValue_scalar hc, hread]
  | str s => rw [scalarText, readValue_stringText, String.ofList_toList]
  | _ => cases hs

/-! ### Values -/

/-- Whether a value is read back from its text, in front of anything that no number goes on into, with as much fuel
as the text is long. It is refused if its lists and mappings stand deeper in one another than there is room. -/
def ReadsBack (style : Style) (v : Value) : Prop :=
  ∀ depth fuel room rest, (render style depth v).length ≤ fuel → AfterNumber rest →
    readValue fuel room (render style depth v ++ rest) =
      if nesting v ≤ room then .ok (v, rest) else .error .tooDeep

section

variable {style : Style} {v : Value} {items : List Value} {pairs : List (Scalar × Value)}
  {depth fuel room : ℕ} {b : List Char}

theorem IsExact.exists_start (hv : IsExact v) (style : Style) (depth : ℕ) :
    ∃ c t, render style depth v = c :: t ∧ isBlank c = false ∧ c ≠ ']' := by
  cases hv with
  | scalar plain short => exact exists_scalarText_start plain style.ascii
  | list parts =>
    rw [render]
    unfold Style.bracket
    split <;> exact ⟨'[', _, rfl, by decide⟩
  | dict named once parts =>
    rw [render]
    unfold Style.bracket
    split <;> exact ⟨'\x7b', _, rfl, by decide⟩

theorem IsExact.skipBlank_render (hv : IsExact v) (hb : b.all isBlank = true) (rest : List Char) :
    skipBlank (b ++ (render style depth v ++ rest)) = render style depth v ++ rest := by
  obtain ⟨c, t, hct, hc, -⟩ := hv.exists_start style depth
  rw [hct, List.cons_append, skipBlank_append hb hc]

theorem IsExact.length_pos (hv : IsExact v) (style : Style) (depth : ℕ) :
    0 < (render style depth v).length := by
  obtain ⟨c, t, hct, -⟩ := hv.exists_start style depth
  rw [hct]
  exact Nat.succ_pos _

/-- The text of the items of a list. -/
def itemsText (style : Style) (depth : ℕ) (items : List Value) : List Char :=
  (style.comma depth).intercalate (renderItems style depth items)

theorem itemsText_cons_cons (style : Style) (depth : ℕ) (v w : Value) (items : List Value) :
    itemsText style depth (v :: w :: items) =
      render style depth v ++ (style.comma depth ++ itemsText style depth (w :: items)) := rfl

theorem itemsText_singleton (style : Style) (depth : ℕ) (v : Value) :
    itemsText style depth [v] = render style depth v := by
  simp [itemsText, renderItems]

/-- Two readings in a row, each of which there is room for or not. -/
theorem ite_map_ite {ε α β : Type} {p q : Prop} [Decidable p] [Decidable q] (f : α → β) (a : α) (e : ε) :
    (if p then (if q then Except.ok a else .error e).map f else .error e) =
      if p ∧ q then .ok (f a) else .error e := by
  by_cases hp : p
  · by_cases hq : q <;> simp [hp, hq, Except.map]
  · simp [hp]

/-- The last item is read back with the closing bracket. -/
theorem readItems_last (hv : ReadsBack style v) (hfuel : (render style depth v).length ≤ fuel)
    (hb : b.all isBlank = true) (rest : List Char) :
    readItems (fuel + 1) room (render style depth v ++ (b ++ ']' :: rest)) =
      if nesting v ≤ room then .ok ([v], rest) else .error .tooDeep := by
  rw [readItems, hv depth fuel room _ hfuel (afterNumber_append hb (by decide) rest)]
  split
  · dsimp only [bind, Except.bind]
    rw [skipBlank_append hb rfl]
    rfl
  · rfl

/-- Any other item is read back, and then the items behind it. -/
theorem readItems_more (hv : ReadsBack style v) (hfuel : (render style depth v).length ≤ fuel)
    {next : List Char} (hnext : skipBlank (b ++ next) = next) :
    readItems (fuel + 1) room (render style depth v ++ ',' :: (b ++ next)) =
      if nesting v ≤ room then (readItems fuel room next).map fun r => (v :: r.1, r.2)
      else .error .tooDeep := by
  rw [readItems, hv depth fuel room _ hfuel (afterNumber_cons (by decide) _)]
  split
  · dsimp only [bind, Except.bind]
    rw [skipBlank_cons rfl]
    change (readItems fuel room (skipBlank (b ++ next)) >>= fun r => .ok (v :: r.1, r.2)) = _
    rw [hnext]
    cases readItems fuel room next <;> rfl
  · rfl

/-- Items of a list are read back up to the closing bracket. -/
theorem readItems_itemsText (hne : items ≠ []) (hexact : ∀ v ∈ items, IsExact v)
    (hread : ∀ v ∈ items, ReadsBack style v) (hfuel : (itemsText style depth items).length < fuel)
    (hb : b.all isBlank = true) (rest : List Char) :
    readItems fuel room (itemsText style depth items ++ (b ++ ']' :: rest)) =
      if nestingItems items ≤ room then .ok (items, rest) else .error .tooDeep := by
  induction items generalizing fuel with
  | nil => exact absurd rfl hne
  | cons v items ih =>
    obtain ⟨fuel, rfl⟩ := Nat.exists_eq_add_one_of_ne_zero (Nat.ne_zero_of_lt hfuel)
    have hv := hread v List.mem_cons_self
    cases items with
    | nil =>
      rw [itemsText_singleton] at hfuel ⊢
      rw [readItems_last hv (Nat.le_of_lt_succ hfuel) hb, nestingItems, nestingItems, Nat.max_zero]
    | cons w items =>
      obtain ⟨b', hcomma, hb'⟩ := exists_comma style depth
      have hw := hexact w (List.mem_cons_of_mem _ List.mem_cons_self)
      have hpos := (hexact v List.mem_cons_self).length_pos style depth
      have hnext : skipBlank (b' ++ (itemsText style depth (w :: items) ++ (b ++ ']' :: rest))) =
          itemsText style depth (w :: items) ++ (b ++ ']' :: rest) := by
        cases items with
        | nil => rw [itemsText_singleton, hw.skipBlank_render hb']
        | cons x items => rw [itemsText_cons_cons, List.append_assoc, hw.skipBlank_render hb']
      rw [itemsText_cons_cons, hcomma] at hfuel ⊢
      simp only [List.length_append, List.length_cons] at hfuel
      have hmore : (itemsText style depth (w :: items)).length < fuel := by omega
      have hrest := ih (List.cons_ne_nil w items) (fun v hv => hexact v (List.mem_cons_of_mem _ hv))
        (fun v hv => hread v (List.mem_cons_of_mem _ hv)) hmore
      rw [List.append_assoc, List.cons_append, List.cons_append, List.append_assoc,
        readItems_more hv (by omega) hnext, hrest, ite_map_ite]
      exact if_congr Nat.max_le.symm rfl rfl

/-- The text of the pairs of a mapping. -/
def pairsText (style : Style) (depth : ℕ) (pairs : List (Scalar × Value)) : List Char :=
  (style.comma depth).intercalate (renderPairs style depth pairs)

/-- The text of a pair. -/
def pairText (style : Style) (depth : ℕ) (name : String) (v : Value) : List Char :=
  stringText style.ascii name.toList ++ ':' :: ' ' :: render style depth v

theorem pairsText_cons_cons (style : Style) (depth : ℕ) (name : String) (v : Value) (q : Scalar × Value)
    (pairs : List (Scalar × Value)) :
    pairsText style depth ((.str name, v) :: q :: pairs) =
      pairText style depth name v ++ (style.comma depth ++ pairsText style depth (q :: pairs)) := rfl

theorem pairsText_singleton (style : Style) (depth : ℕ) (name : String) (v : Value) :
    pairsText style depth [(.str name, v)] = pairText style depth name v := by
  simp [pairsText, renderPairs, keyName, pairText]

theorem skipBlank_pairsText {p : Scalar × Value} (hb : b.all isBlank = true) (rest : List Char) :
    skipBlank (b ++ (pairsText style depth (p :: pairs) ++ rest)) =
      pairsText style depth (p :: pairs) ++ rest := by
  obtain ⟨t, ht⟩ : ∃ t, pairsText style depth (p :: pairs) = '"' :: t := by
    rw [pairsText, renderPairs, intercalate_cons]
    exact ⟨_, rfl⟩
  rw [ht, List.cons_append, skipBlank_append hb rfl]

/-- What is read behind the value of a pair. -/
def readPairsBehind (fuel room : ℕ) (name : String) (read : Value × List Char) :
    Except Fault (List (Scalar × Value) × List Char) :=
  match skipBlank read.2 with
  | '\x7d' :: t => .ok ([(.str name, read.1)], t)
  | ',' :: t => (readPairs fuel room (skipBlank t)).map fun r => ((.str name, read.1) :: r.1, r.2)
  | _ => .error .malformed

/-- A pair is read by its name and its value. -/
theorem readPairs_pairText {name : String} (hexact : IsExact v) (hv : ReadsBack style v)
    (hfuel : (pairText style depth name v).length ≤ fuel) {more : List Char} (hmore : AfterNumber more) :
    readPairs (fuel + 1) room (pairText style depth name v ++ more) =
      (if nesting v ≤ room then .ok (v, more) else .error .tooDeep) >>= readPairsBehind fuel room name := by
  have hlength : (render style depth v).length ≤ fuel := by
    simp only [pairText, List.length_append, List.length_cons] at hfuel
    omega
  have hname := readString_stringText style.ascii
    (length_lt_of_stringText style.ascii name.toList (':' :: ' ' :: (render style depth v ++ more)))
    (':' :: ' ' :: (render style depth v ++ more))
  have htext : pairText style depth name v ++ more = '"' ::
      (name.toList.flatMap (escapeChar style.ascii) ++ '"' :: ':' :: ' ' :: (render style depth v ++ more)) := by
    simp [stringText, pairText]
  have hskip : skipBlank (' ' :: (render style depth v ++ more)) = render style depth v ++ more :=
    hexact.skipBlank_render (b := [' ']) rfl more
  rw [htext, readPairs]
  simp only [hname, skipBlank_cons (c := ':') rfl, hskip, hv depth fuel room more hlength hmore,
    String.ofList_toList]
  refine congrArg (Except.bind _) (funext fun read => ?_)
  unfold readPairsBehind
  rcases skipBlank read.2 with _ | ⟨c, t⟩
  · rfl
  by_cases hclose : c = '\x7d'
  · subst hclose
    rfl
  by_cases hcomma : c = ','
  · subst hcomma
    change (readPairs fuel room (skipBlank t) >>= fun r => .ok ((.str name, read.1) :: r.1, r.2)) =
      (readPairs fuel room (skipBlank t)).map fun r => ((.str name, read.1) :: r.1, r.2)
    cases readPairs fuel room (skipBlank t) <;> rfl
  · simp [hclose, hcomma]

/-- The last pair is read back with the closing brace. -/
theorem readPairs_last {name : String} (hexact : IsExact v) (hv : ReadsBack style v)
    (hfuel : (pairText style depth name v).length ≤ fuel) (hb : b.all isBlank = true) (rest : List Char) :
    readPairs (fuel + 1) room (pairText style depth name v ++ (b ++ '\x7d' :: rest)) =
      if nesting v ≤ room then .ok ([(.str name, v)], rest) else .error .tooDeep := by
  rw [readPairs_pairText hexact hv hfuel (afterNumber_append hb (by decide) rest)]
  split
  · change readPairsBehind fuel room name (v, b ++ '\x7d' :: rest) = _
    simp only [readPairsBehind, skipBlank_append hb (c := '\x7d') rfl]
  · rfl

/-- Any other pair is read back, and then the pairs behind it. -/
theorem readPairs_more {name : String} (hexact : IsExact v) (hv : ReadsBack style v)
    (hfuel : (pairText style depth name v).length ≤ fuel) {next : List Char}
    (hnext : skipBlank (b ++ next) = next) :
    readPairs (fuel + 1) room (pairText style depth name v ++ ',' :: (b ++ next)) =
      if nesting v ≤ room then (readPairs fuel room next).map fun r => ((.str name, v) :: r.1, r.2)
      else .error .tooDeep := by
  rw [readPairs_pairText hexact hv hfuel (afterNumber_cons (by decide) _)]
  split
  · change readPairsBehind fuel room name (v, ',' :: (b ++ next)) = _
    simp only [readPairsBehind, skipBlank_cons (c := ',') rfl, hnext]
  · rfl

/-- Pairs of a mapping are read back up to the closing brace. -/
theorem readPairs_pairsText (hne : pairs ≠ []) (hnamed : ∀ p ∈ pairs, isName p.1 = true)
    (hexact : ∀ p ∈ pairs, IsExact p.2) (hread : ∀ p ∈ pairs, ReadsBack style p.2)
    (hfuel : (pairsText style depth pairs).length < fuel) (hb : b.all isBlank = true) (rest : List Char) :
    readPairs fuel room (pairsText style depth pairs ++ (b ++ '\x7d' :: rest)) =
      if nestingPairs pairs ≤ room then .ok (pairs, rest) else .error .tooDeep := by
  induction pairs generalizing fuel with
  | nil => exact absurd rfl hne
  | cons p pairs ih =>
    obtain ⟨k, v⟩ := p
    obtain ⟨fuel, rfl⟩ := Nat.exists_eq_add_one_of_ne_zero (Nat.ne_zero_of_lt hfuel)
    obtain ⟨name, rfl⟩ := exists_of_isName (hnamed (k, v) List.mem_cons_self)
    have hv : ReadsBack style v := hread (.str name, v) List.mem_cons_self
    have hmine : IsExact v := hexact (.str name, v) List.mem_cons_self
    cases pairs with
    | nil =>
      rw [pairsText_singleton] at hfuel ⊢
      rw [readPairs_last hmine hv (Nat.le_of_lt_succ hfuel) hb, nestingPairs, nestingPairs, Nat.max_zero]
    | cons q pairs =>
      obtain ⟨b', hcomma, hb'⟩ := exists_comma style depth
      rw [pairsText_cons_cons, hcomma] at hfuel ⊢
      have hpos : 0 < (pairText style depth name v).length := Nat.succ_pos _
      simp only [List.length_append, List.length_cons] at hfuel
      have hmore : (pairsText style depth (q :: pairs)).length < fuel := by omega
      have hrest := ih (List.cons_ne_nil q pairs) (fun p hp => hnamed p (List.mem_cons_of_mem _ hp))
        (fun p hp => hexact p (List.mem_cons_of_mem _ hp)) (fun p hp => hread p (List.mem_cons_of_mem _ hp))
        hmore
      rw [List.append_assoc, List.cons_append, List.cons_append, List.append_assoc,
        readPairs_more hmine hv (by omega) (skipBlank_pairsText hb' _), hrest, ite_map_ite]
      exact if_congr Nat.max_le.symm rfl rfl

/-! ### Whole values -/

theorem readsBack_scalar {s : Scalar} (plain : isPlainScalar s = true) (short : s.isTooLong = false) :
    ReadsBack style (.scalar s) := by
  intro depth fuel room rest hfuel hrest
  obtain ⟨fuel, rfl⟩ := Nat.exists_eq_add_one_of_ne_zero
    (Nat.ne_zero_of_lt (Nat.lt_of_lt_of_le ((IsExact.scalar plain short).length_pos style depth) hfuel))
  exact readValue_plainScalar plain short hrest

/-- A list that is not empty is read item by item. -/
theorem readValue_list {s next : List Char} {c : Char} (hs : skipBlank s = c :: next) (hc : c ≠ ']') :
    readValue (fuel + 1) (room + 1) ('[' :: s) =
      (readItems fuel room (c :: next)).map fun r => (.list r.1, r.2) := by
  rw [readValue.eq_def]
  simp only [hs]
  split
  · next heq => exact absurd (List.cons.inj heq).1 hc
  · cases readItems fuel room (c :: next) <;> rfl

/-- A mapping that is not empty is read pair by pair. -/
theorem readValue_dict {s next : List Char} (hs : skipBlank s = '"' :: next) :
    readValue (fuel + 1) (room + 1) ('\x7b' :: s) =
      (readPairs fuel room ('"' :: next)).map fun r => (.dict (Mapping.ofPairs r.1), r.2) := by
  rw [readValue.eq_def]
  simp only [hs]
  change (readPairs fuel room ('"' :: next) >>= fun r => .ok (Value.dict (Mapping.ofPairs r.1), r.2)) = _
  cases readPairs fuel room ('"' :: next) <;> rfl

/-- A list is read back if its items are. -/
theorem readsBack_list (hexact : ∀ v ∈ items, IsExact v) (hread : ∀ v ∈ items, ReadsBack style v) :
    ReadsBack style (.list items) := by
  intro depth fuel room rest hfuel hrest
  cases items with
  | nil =>
    obtain ⟨fuel, rfl⟩ := Nat.exists_eq_add_one_of_ne_zero (Nat.ne_zero_of_lt hfuel)
    cases room <;> rfl
  | cons v items =>
    have htext : render style depth (.list (v :: items)) = '[' :: (style.newline (depth + 1) ++
        (itemsText style (depth + 1) (v :: items) ++ (style.newline depth ++ [']']))) := by
      simp [render, renderItems, Style.bracket, itemsText]
    rw [htext] at hfuel ⊢
    simp only [List.length_cons, List.length_append] at hfuel
    obtain ⟨fuel, rfl⟩ := Nat.exists_eq_add_one_of_ne_zero (Nat.ne_zero_of_lt hfuel)
    cases room with
    | zero => rfl
    | succ room =>
      obtain ⟨c, t, hct, hc, hne⟩ : ∃ c t, itemsText style (depth + 1) (v :: items) = c :: t ∧
          isBlank c = false ∧ c ≠ ']' := by
        obtain ⟨c, t, hct, hc⟩ := (hexact v List.mem_cons_self).exists_start style (depth + 1)
        rw [itemsText, renderItems, intercalate_cons, hct]
        exact ⟨c, _, rfl, hc⟩
      have henough : (itemsText style (depth + 1) (v :: items)).length < fuel := by omega
      have hitems : readItems fuel room _ = _ := readItems_itemsText (List.cons_ne_nil v items) hexact hread
        henough (all_isBlank_newline style depth) rest
      rw [hct, List.cons_append] at hitems
      have hskip := skipBlank_append (all_isBlank_newline style (depth + 1)) hc
        (t ++ (style.newline depth ++ ']' :: rest))
      rw [hct]
      simp only [List.cons_append, List.append_assoc, List.nil_append]
      rw [readValue_list hskip hne, hitems]
      simp only [nesting, Nat.add_le_add_iff_right]
      split <;> rfl

/-- A mapping is read back if its values are. -/
theorem readsBack_dict (hnamed : ∀ p ∈ pairs, isName p.1 = true) (honce : (Mapping.names pairs).Nodup)
    (hexact : ∀ p ∈ pairs, IsExact p.2) (hread : ∀ p ∈ pairs, ReadsBack style p.2) :
    ReadsBack style (.dict pairs) := by
  intro depth fuel room rest hfuel hrest
  cases pairs with
  | nil =>
    obtain ⟨fuel, rfl⟩ := Nat.exists_eq_add_one_of_ne_zero (Nat.ne_zero_of_lt hfuel)
    cases room <;> rfl
  | cons p pairs =>
    have htext : render style depth (.dict (p :: pairs)) = '\x7b' :: (style.newline (depth + 1) ++
        (pairsText style (depth + 1) (p :: pairs) ++ (style.newline depth ++ ['\x7d']))) := by
      simp [render, renderPairs, Style.bracket, pairsText]
    rw [htext] at hfuel ⊢
    simp only [List.length_cons, List.length_append] at hfuel
    obtain ⟨fuel, rfl⟩ := Nat.exists_eq_add_one_of_ne_zero (Nat.ne_zero_of_lt hfuel)
    cases room with
    | zero => rfl
    | succ room =>
      obtain ⟨t, hct⟩ : ∃ t, pairsText style (depth + 1) (p :: pairs) = '"' :: t := by
        rw [pairsText, renderPairs, intercalate_cons]
        exact ⟨_, rfl⟩
      have henough : (pairsText style (depth + 1) (p :: pairs)).length < fuel := by omega
      have hpairs : readPairs fuel room _ = _ := readPairs_pairsText (List.cons_ne_nil p pairs) hnamed hexact
        hread henough (all_isBlank_newline style depth) rest
      rw [hct, List.cons_append] at hpairs
      have hskip := skipBlank_append (all_isBlank_newline style (depth + 1)) (c := '"') rfl
        (t ++ (style.newline depth ++ '\x7d' :: rest))
      rw [hct]
      simp only [List.cons_append, List.append_assoc, List.nil_append]
      rw [readValue_dict hskip, hpairs]
      simp only [nesting, Nat.add_le_add_iff_right]
      split
      · rw [Except.map, Mapping.ofPairs_eq_self hnamed honce]
      · rfl

theorem readsBack (hv : IsExact v) : ReadsBack style v := by
  induction hv with
  | scalar plain short => exact readsBack_scalar plain short
  | list parts ih => exact readsBack_list parts ih
  | dict named once parts ih => exact readsBack_dict named once parts ih

end

/-- The text of a value, with blanks around it, is read as that value, unless it stands too deep. -/
theorem parse_render {v : Value} (hv : IsExact v) (style : Style) :
    parse (render style 0 v) = if nesting v ≤ depthLimit then .ok v else .error .tooDeep := by
  have hstart : skipBlank (render style 0 v) = render style 0 v := by
    have h : skipBlank ([] ++ (render style 0 v ++ [])) = render style 0 v ++ [] := hv.skipBlank_render rfl []
    rwa [List.nil_append, List.append_nil] at h
  have hback : ReadsBack style v := readsBack hv
  have hread := hback 0 ((render style 0 v).length + 1) depthLimit [] (Nat.le_succ _) nofun
  rw [List.append_nil] at hread
  rw [parse, hstart, hread]
  by_cases hdeep : nesting v ≤ depthLimit
  · rw [if_pos hdeep, if_pos hdeep]
    rfl
  · rw [if_neg hdeep, if_neg hdeep]

end Json

end Stencil
