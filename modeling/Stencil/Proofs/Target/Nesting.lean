import Stencil.Proofs.Target.Literals

/-! How deep loops stand in a text. The tags of a text are nested properly if every end of a loop finds a loop open,
and none is open at the end of the text; then the text is put together, and no run of it fails for a tag in the wrong
place. -/
namespace Stencil.Target

open Template (isRenderable)
open Text (IsName Piece Recogniser)
open Text.Utf8 (foldNewlines)

/-- The tags among pieces. -/
def tagsOf : List (Piece Construct) → List Construct
  | [] => []
  | .char _ :: pieces => tagsOf pieces
  | .mark k _ :: pieces => k :: tagsOf pieces

/-- The tags of a text as it is read, in order. -/
def tags (source : List Char) : List Construct := tagsOf (piecesOf source)

theorem tags_of_written {source : List Char} {pieces : List (Piece Construct)}
    (h : Written pieces (foldNewlines source)) : tags source = tagsOf pieces := by
  rw [tags, piecesOf, pieces_of_written h]

/-- How many loops are open behind a tag that `depth` loops are open in front of. A loop must be open at the
end of one; tags that bind names are not counted on. -/
def Construct.depthAfter (depth : Nat) : Construct → Option Nat
  | brace | «show» _ => some depth
  | openLoop _ _ _ => some (depth + 1)
  | closeLoop => if depth = 0 then none else some (depth - 1)
  | openWith _ | closeWith => none

/-- How many loops are open behind tags in a row. -/
def depthBehind (depth : Nat) : List Construct → Option Nat
  | [] => some depth
  | k :: rest => (k.depthAfter depth).bind fun depth => depthBehind depth rest

/-- Whether a tag is one of those of a page without components, and every name in it is a word. -/
def Construct.IsBasic : Construct → Prop
  | brace | closeLoop => True
  | «show» n => isRenderable n = true ∧ IsName n.toList
  | openLoop index item collection =>
    (isRenderable index = true ∧ isRenderable item = true ∧ isRenderable collection = true) ∧
      IsName index.toList ∧ IsName item.toList ∧ IsName collection.toList
  | openWith _ | closeWith => False

namespace Construct.IsBasic

variable {k : Construct}

theorem isSound (hk : k.IsBasic) : k.IsSound := by
  cases k with
  | brace => trivial
  | «show» n => exact hk.1
  | openLoop index item collection => exact hk.1
  | closeLoop => trivial
  | openWith bindings => exact hk.elim
  | closeWith => exact hk.elim

theorem isReadable (hk : k.IsBasic) : ∀ n ∈ k.names, IsReadable n.toList := by
  have hname {n : String} (hn : IsName n.toList) : IsReadable n.toList := .of_words hn.word
  cases k with
  | brace => exact fun _ h => absurd h List.not_mem_nil
  | «show» n =>
    intro m hm
    obtain rfl := List.mem_singleton.mp hm
    exact hname hk.2
  | openLoop index item collection =>
    intro m hm
    simp only [names, List.mem_cons, List.not_mem_nil, or_false] at hm
    rcases hm with rfl | rfl | rfl
    · exact hname hk.2.1
    · exact hname hk.2.2.1
    · exact hname hk.2.2.2
  | closeLoop => exact fun _ h => absurd h List.not_mem_nil
  | openWith bindings => exact hk.elim
  | closeWith => exact hk.elim

end Construct.IsBasic

/-! ### Putting together -/

/-- Pieces that leave no loop open are put together, behind as many open loops as they end. -/
theorem exists_assemble {pieces : List (Piece Construct)} {opened : List (OpenTag × List Block)}
    (hloops : ∀ o ∈ opened, o.1.tag = .loop)
    (hdepth : depthBehind opened.length (tagsOf pieces) = some 0) (done : List Block) :
    ∃ blocks, assemble opened done pieces = .ok blocks := by
  induction pieces generalizing opened done with
  | nil =>
    obtain rfl := List.eq_nil_of_length_eq_zero (Option.some.inj hdepth)
    exact ⟨done.reverse, rfl⟩
  | cons piece pieces ih =>
    cases piece with
    | char c => exact ih hloops hdepth _
    | mark k x =>
      obtain ⟨depth, hafter, hrest⟩ := Option.bind_eq_some_iff.mp hdepth
      cases k with
      | brace =>
        cases hafter
        exact ih hloops hrest _
      | «show» n =>
        cases hafter
        exact ih hloops hrest _
      | openLoop index item collection =>
        cases hafter
        have hinside : ∀ o ∈ (OpenTag.loop index item collection, done) :: opened, o.1.tag = .loop :=
          List.forall_mem_cons.mpr ⟨rfl, hloops⟩
        exact ih hinside hrest []
      | closeLoop =>
        rw [Construct.depthAfter] at hafter
        split at hafter
        · cases hafter
        next hpositive =>
          cases hafter
          cases opened with
          | nil => exact absurd rfl hpositive
          | cons o opened =>
            obtain ⟨tag, before⟩ := o
            cases tag with
            | loop index item collection =>
              exact ih (fun o ho => hloops o (List.mem_cons_of_mem _ ho)) hrest _
            | bind bindings => exact absurd (hloops _ List.mem_cons_self) (by simp [OpenTag.tag])
      | openWith bindings => cases hafter
      | closeWith => cases hafter

/-! ### Faults of syntax -/

theorem entries_ne_malformed (b : Binding) (fault : SyntaxFault) :
    b.entries ≠ .error (.malformed fault) := by
  cases b with
  | value v =>
    simp only [Binding.entries, entries]
    split <;> nofun
  | builtin shown kind => nofun
  | missing name => nofun

theorem concatRuns_ne_error {run : Value × Value → Except RunFault (List Char)} {e : RunFault}
    (h : ∀ p, run p ≠ .error e) (pairs : List (Value × Value)) : concatRuns run pairs ≠ .error e := by
  induction pairs with
  | nil => nofun
  | cons p pairs ih =>
    rw [concatRuns]
    split
    · next hrun => exact fun he => h p (hrun.trans he)
    split
    · next hrest => exact fun he => ih (hrest.trans he)
    · nofun

mutual

theorem run_block_ne_malformed (env : Env) (fault : SyntaxFault) :
    (b : Block) → b.run env ≠ .error (.malformed fault)
  | .char _ => by rw [Block.run]; nofun
  | .brace => by
    rw [Block.run]
    cases env.lookup braceName with
    | value v =>
      rw [Binding.plain]
      split <;> nofun
    | builtin shown kind => nofun
    | missing name => nofun
  | .show n => by
    rw [Block.run]
    cases env.lookup n with
    | value v =>
      rw [Binding.display]
      split <;> nofun
    | builtin shown kind => nofun
    | missing name => nofun
  | .loop index item collection body => by
    rw [Block.run]
    split
    · next hentries =>
      intro he
      rw [Except.error.inj he] at hentries
      exact entries_ne_malformed _ fault hentries
    · exact concatRuns_ne_error (fun _ => runAll_ne_malformed _ fault body) _
  | .bind bindings body => by
    rw [Block.run]
    exact runAll_ne_malformed _ fault body

theorem runAll_ne_malformed (env : Env) (fault : SyntaxFault) :
    (blocks : List Block) → runAll env blocks ≠ .error (.malformed fault)
  | [] => by rw [runAll]; nofun
  | b :: blocks => by
    rw [runAll]
    split
    · next hrun => exact fun he => run_block_ne_malformed env fault b (hrun.trans he)
    split
    · next hrest => exact fun he => runAll_ne_malformed env fault blocks (hrest.trans he)
    · nofun

end

/-- No run of a tree fails for a tag in the wrong place. -/
theorem runTree_ne_malformed (blocks : List Block) (data : Mapping) (fault : SyntaxFault) :
    runTree blocks data ≠ .error (.malformed fault) := by
  unfold runTree
  split
  · nofun
  split
  · nofun
  split
  · nofun
  · exact runAll_ne_malformed _ fault blocks

end Stencil.Target
