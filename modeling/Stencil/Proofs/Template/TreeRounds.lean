import Stencil.Proofs.Template.TreeStages

/-! The rounds over the loops of a tree. Each makes the next stage, and a stage that a round leaves as it is
has no loop left to convert. -/
namespace Stencil.Template

open Text (Piece)
open Target (Construct)

/-- The names that a piece binds when it is converted. -/
def boundNames : Piece Directive.Loop → List String
  | .char _ => []
  | .mark l _ => if l.isUsable then [l.item, l.indexName] else []

/-- The scopes that know some names besides those of `s`, and the data of `s`. -/
structure Scope.Gains (s s' : Scope) (names : List String) : Prop where
  data : s'.data = s.data
  loopNames : ∀ name, name ∈ s'.loopNames ↔ name ∈ s.loopNames ∨ name ∈ names

namespace Scope.Gains

variable {s s' s'' : Scope} {names names' : List String}

theorem refl (s : Scope) : s.Gains s [] := ⟨rfl, by simp⟩

theorem trans (h : s.Gains s' names) (h' : s'.Gains s'' names') :
    s.Gains s'' (names ++ names') := by
  refine ⟨h'.data.trans h.data, fun name => ?_⟩
  rw [h'.loopNames, h.loopNames, List.mem_append, or_assoc]

theorem congr (h : s.Gains s' names) (hmem : ∀ name, name ∈ names ↔ name ∈ names') :
    s.Gains s' names' :=
  ⟨h.data, fun name => by rw [h.loopNames, hmem]⟩

theorem isBound (h : s.Gains s' names) (name : String) :
    s'.isBound name = (names.contains name || s.isBound name) := by
  rw [Scope.isBound, Scope.isBound, h.data, ← Bool.or_assoc]
  congr 1
  rw [Bool.eq_iff_iff, Bool.or_eq_true, List.contains_iff_mem, List.contains_iff_mem,
    List.contains_iff_mem, h.loopNames, Or.comm]

end Scope.Gains

theorem bindLoop_gains (s : Scope) (item index : String) :
    s.Gains (s.bindLoop [item, index]) [item, index] := by
  refine ⟨rfl, fun name => ?_⟩
  simp only [Scope.bindLoop, List.foldl_cons, List.foldl_nil, mem_addName, List.mem_cons,
    List.not_mem_nil, or_false]
  rw [or_assoc]

theorem convertLoop_gains (s : Scope) (l : Directive.Loop) (source : List Char) (t : Trace) :
    s.Gains (convertLoop s l source t).1.1 (boundNames (.mark l source)) := by
  unfold convertLoop
  rw [boundNames]
  split
  · exact bindLoop_gains s l.item l.indexName
  · exact .refl s

theorem convertLoops_gains (s : Scope) (pieces : List (Piece Directive.Loop)) (t : Trace) :
    s.Gains (convertLoops s pieces t).1.1 (pieces.flatMap boundNames) := by
  induction pieces generalizing s t with
  | nil => exact .refl s
  | cons piece pieces ih =>
    cases piece with
    | char c => exact ih s t
    | mark l source =>
      have hmark := convertLoop_gains s l source t
      exact hmark.trans (ih (convertLoop s l source t).1.1 (convertLoop s l source t).2)

namespace Tree

variable {T : Tree} {k : Nat}

theorem isUsable_loop {item collection : String} {index : Option String} (body : List Char)
    (hitem : IsTreeName item) (hindex : IsTreeName (index.getD defaultIndex))
    (hcollection : IsTreeName collection) (hne : item ≠ index.getD defaultIndex) :
    (⟨item, index, collection, body⟩ : Directive.Loop).isUsable = true := by
  simp [Directive.Loop.isUsable, Directive.Loop.indexName, hitem.renderable, hindex.renderable,
    hcollection.renderable, hne]

/-- Round `k` makes the next stage. -/
theorem flatMap_put_marks (hT : T.Valid) :
    (T.marks k).flatMap (Piece.put Directive.Loop.put) = T.stage (k + 1) := by
  induction T with
  | done => rfl
  | text t rest ih =>
    rw [marks, stage, List.flatMap_append, Piece.flatMap_put_char, ih hT.2.2.2.2]
  | var name rest ih =>
    rw [marks, stage, List.flatMap_append, Piece.flatMap_put_char, ih hT.2]
  | loop item index collection body rest ihbody ih =>
    obtain ⟨hitem, hindex, hcollection, hne, hbody, hvalid⟩ := hT
    rw [marks, stage, List.flatMap_append, ih hvalid]
    congr 1
    split
    · rw [if_pos (by omega)]
      simp only [List.flatMap_append, Piece.flatMap_put_char, ihbody hbody]
    split
    · next heq =>
      -- the body has no loop left, so it is the same in the next stage
      have hsame : body.stage k = body.stage (k + 1) := by
        rw [stage_eq_tagged (Nat.le_of_eq heq), stage_eq_tagged (by omega)]
      rw [if_pos (by omega), ← hsame]
      simp [Piece.put, Directive.Loop.put, isUsable_loop _ hitem hindex hcollection hne,
        Directive.Loop.target, Directive.Loop.indexName]
    · rw [if_neg (by omega)]
      simp only [List.flatMap_append, Piece.flatMap_put_char, ihbody hbody]

/-- A stage is cut at its loops. -/
theorem pieces_of_stage (hT : T.Valid) : Directive.loop.pieces (T.stage k) = T.marks k := by
  have hpieces := pieces_stage (k := k) hT (s := []) (by simp)
  rwa [List.append_nil, Text.Recogniser.pieces_nil, List.append_nil] at hpieces

/-- A loop is longer as a tag. -/
theorem length_header_lt (item : String) (index : Option String) (collection : String) :
    (loopHeader item index collection).length + loopFooter.length <
      (Construct.openLoop (index.getD defaultIndex) item collection).text.length
        + Construct.closeLoop.text.length := by
  rw [Construct.text_openLoop, Construct.text_closeLoop]
  unfold loopHeader loopFooter
  cases index with
  | none => simp [indexPart, defaultIndex]; omega
  | some i => simp [indexPart]; omega

/-- Stages do not get shorter. -/
theorem length_stage_le (k : Nat) (T : Tree) : (T.stage k).length ≤ (T.stage (k + 1)).length := by
  induction T with
  | done => exact Nat.le_refl _
  | text t rest ih => simpa [stage] using ih
  | var name rest ih => simpa [stage] using ih
  | loop item index collection body rest ihbody ih =>
    have hlonger := length_header_lt item index collection
    rw [stage, stage, List.length_append, List.length_append]
    refine Nat.add_le_add ?_ ih
    -- a loop is a tag in both stages, or in the later one alone, or in neither
    rcases Nat.lt_trichotomy body.height k with hlt | heq | hgt
    · rw [if_pos hlt, if_pos (by omega)]
      simp only [List.length_append]
      omega
    · rw [if_neg (by omega), if_pos (by omega)]
      simp only [List.length_append]
      omega
    · rw [if_neg (by omega), if_neg (by omega)]
      simp only [List.length_append]
      omega

/-- Stages get longer as long as loops are left. -/
theorem length_stage_lt (h : k < T.height) : (T.stage k).length < (T.stage (k + 1)).length := by
  induction T with
  | done => cases h
  | text t rest ih => simpa [stage] using ih h
  | var name rest ih => simpa [stage] using ih h
  | loop item index collection body rest ihbody ih =>
    have hlonger := length_header_lt item index collection
    have hbody := length_stage_le k body
    have hrest := length_stage_le k rest
    rw [height] at h
    rw [stage, stage, List.length_append, List.length_append]
    rcases Nat.lt_trichotomy body.height k with hlt | heq | hgt
    · have hrest := ih (by omega)
      rw [if_pos hlt, if_pos (by omega)]
      simp only [List.length_append]
      omega
    · rw [if_neg (by omega), if_pos (by omega)]
      simp only [List.length_append]
      omega
    · have hbody := ihbody hgt
      rw [if_neg (by omega), if_neg (by omega)]
      simp only [List.length_append]
      omega

/-- A stage that the next round leaves as it is has no loop left. -/
theorem height_le_of_stage_eq (h : T.stage (k + 1) = T.stage k) : T.height ≤ k := by
  refine Nat.le_of_not_lt fun hlt => ?_
  have hlength := length_stage_lt hlt
  rw [h] at hlength
  exact Nat.lt_irrefl _ hlength

/-- Every stage is at least as long as its loops are deep. -/
theorem height_le_length (k : Nat) (T : Tree) : T.height ≤ (T.stage k).length := by
  induction T with
  | done => exact Nat.zero_le _
  | text t rest ih =>
    simp only [stage, height, List.length_append]
    omega
  | var name rest ih =>
    simp only [stage, height, List.length_append]
    omega
  | loop item index collection body rest ihbody ih =>
    have hfooter : loopFooter.length = 12 := rfl
    have hclose : Construct.closeLoop.text.length = 12 := rfl
    simp only [stage, height, List.length_append]
    split <;> simp only [List.length_append] <;> omega

/-- The names that the first `k` rounds bind. -/
def namesBefore (k : Nat) : Tree → List String
  | done => []
  | text _ rest | var _ rest => rest.namesBefore k
  | loop item index _ body rest =>
    (if body.height < k then [item, index.getD defaultIndex] else [])
      ++ (body.namesBefore k ++ rest.namesBefore k)

theorem namesBefore_zero (T : Tree) : T.namesBefore 0 = [] := by
  induction T with
  | done => rfl
  | text t rest ih => exact ih
  | var name rest ih => exact ih
  | loop item index collection body rest ihbody ih => simp [namesBefore, ihbody, ih]

theorem namesBefore_eq_loopNames (h : T.height ≤ k) : T.namesBefore k = T.loopNames := by
  induction T with
  | done => rfl
  | text t rest ih => exact ih h
  | var name rest ih => exact ih h
  | loop item index collection body rest ihbody ih =>
    rw [height, Nat.max_le] at h
    have hbody : body.height < k := h.1
    rw [namesBefore, loopNames, if_pos hbody, ihbody (Nat.le_of_lt hbody), ih h.2]
    rfl

theorem flatMap_boundNames_char (s : List Char) :
    (s.map Piece.char).flatMap boundNames = [] := by
  induction s with
  | nil => rfl
  | cons c s ih => exact ih

/-- Round `k` binds the names of the loops that it converts. -/
theorem mem_namesBefore_succ (hT : T.Valid) (name : String) :
    name ∈ T.namesBefore (k + 1) ↔
      name ∈ T.namesBefore k ∨ name ∈ (T.marks k).flatMap boundNames := by
  induction T with
  | done => simp [namesBefore, marks]
  | text t rest ih =>
    rw [namesBefore, namesBefore, marks, List.flatMap_append, flatMap_boundNames_char]
    exact ih hT.2.2.2.2
  | var x rest ih =>
    rw [namesBefore, namesBefore, marks, List.flatMap_append, flatMap_boundNames_char]
    exact ih hT.2
  | loop item index collection body rest ihbody ih =>
    obtain ⟨hitem, hindex, hcollection, hne, hbody, hvalid⟩ := hT
    have hbody := ihbody hbody
    have hrest := ih hvalid
    simp only [namesBefore, marks, List.flatMap_append, List.mem_append, hrest]
    rcases Nat.lt_trichotomy body.height k with hlt | heq | hgt
    · rw [if_pos (by omega), if_pos hlt, if_pos hlt]
      simp only [List.flatMap_append, flatMap_boundNames_char, List.mem_append, hbody,
        List.not_mem_nil, false_or, or_false]
      exact iff_of_eq (by ac_rfl)
    · have husable := isUsable_loop (body.stage k) hitem hindex hcollection hne
      have hall : body.namesBefore (k + 1) = body.namesBefore k := by
        rw [namesBefore_eq_loopNames (Nat.le_of_eq heq), namesBefore_eq_loopNames (by omega)]
      rw [if_pos (by omega), if_neg (by omega), if_neg (by omega), if_pos heq]
      simp only [List.flatMap_cons, List.flatMap_nil, boundNames, husable, if_true, hall,
        List.append_nil, List.not_mem_nil, false_or, Directive.Loop.indexName]
      exact iff_of_eq (by ac_rfl)
    · rw [if_neg (by omega), if_neg (by omega), if_neg (by omega), if_neg (by omega)]
      simp only [List.flatMap_append, flatMap_boundNames_char, List.mem_append, hbody,
        List.not_mem_nil, false_or, or_false]
      exact iff_of_eq (by ac_rfl)

/-- The rounds from a stage on make the last one, and bind the names of all loops. -/
theorem loopRounds_stage (hT : T.Valid) {s s₀ : Scope} {fuel : Nat} (hfuel : T.height ≤ k + fuel)
    (hs : s₀.Gains s (T.namesBefore k)) (t : Trace) :
    s₀.Gains (loopRounds fuel s (T.stage k) t).1.1 T.loopNames ∧
      (loopRounds fuel s (T.stage k) t).1.2 = T.tagged placeholderFor := by
  induction fuel generalizing k s t with
  | zero =>
    have hheight : T.height ≤ k := hfuel
    rw [namesBefore_eq_loopNames hheight] at hs
    exact ⟨hs, stage_eq_tagged hheight⟩
  | succ fuel ih =>
    have hpieces := pieces_of_stage (k := k) hT
    have hout : (convertLoops s (Directive.loop.pieces (T.stage k)) t).1.2 = T.stage (k + 1) := by
      rw [convertLoops_text, hpieces, flatMap_put_marks hT]
    have hnames : s₀.Gains (convertLoops s (Directive.loop.pieces (T.stage k)) t).1.1
        (T.namesBefore (k + 1)) := by
      rw [hpieces]
      refine (hs.trans (convertLoops_gains s (T.marks k) t)).congr fun name => ?_
      rw [mem_namesBefore_succ hT, List.mem_append]
    rw [loopRounds_succ]
    dsimp only
    rw [hout]
    split
    · next hsame =>
      have hheight := height_le_of_stage_eq hsame
      rw [namesBefore_eq_loopNames (Nat.le_succ_of_le hheight)] at hnames
      exact ⟨hnames, by rw [hout, stage_eq_tagged (Nat.le_succ_of_le hheight)]⟩
    · exact ih (by omega) hnames _

/-- All loops of a tree expanded, in a scope that knows no loop yet. -/
theorem expandLoops_print (hT : T.Valid) (s : Scope) (t : Trace) :
    s.Gains (expandLoops s (protect T.print) t).1.1 T.loopNames ∧
      (expandLoops s (protect T.print) t).1.2 = T.tagged placeholderFor := by
  rw [protect_print hT]
  refine loopRounds_stage hT ?_ ?_ t
  · have := height_le_length 0 T
    omega
  · rw [namesBefore_zero]
    exact .refl s

end Tree

end Stencil.Template
