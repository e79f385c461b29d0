import Stencil.Proofs.Target.Literals
import Stencil.Proofs.Template.Passes
import Stencil.Proofs.Template.TreePages

/-! Compilation of a printed tree takes two passes at most, and the page is the tree with its loops and its
placeholders as tags. It is written from pieces that are put together again: the tags give the loops of the tree, and
the brace tokens its braces. -/
namespace Stencil.Template

open Text (Piece Recogniser)
open Target (Construct Block IsSpelled Written assemble)

/-! ### Compilation -/

namespace Tree

variable {T : Tree} {lib : Library} {limit : Nat}

/-- The names that stand for something in a page with some data. -/
def isBound (T : Tree) (data : Mapping) (name : String) : Bool :=
  T.loopNames.contains name || Mapping.contains data (.str name)

/-- The source of a compiled page. -/
def source (T : Tree) (data : Mapping) : List Char := T.tagged (variableText (T.isBound data))

theorem still_compiled (hT : T.Valid) (bound : String → Bool) :
    Still (T.tagged (variableText bound)) := by
  have hsign : '#' ∉ T.tagged (variableText bound) :=
    stray_notMem_tagged rfl hT fun _ h => stray_notMem_variableText rfl _ h
  refine ⟨unmarked_compiled hT _ (by simp), ?_⟩
  rw [List.count_eq_zero.mpr hsign]
  exact Nat.zero_le 1

/-- The names that stand for something in a page with some names around it. -/
def isBoundIn (T : Tree) (scope : Scope) (name : String) : Bool :=
  T.loopNames.contains name || scope.isBound name

/-- The first pass converts everything. -/
theorem yields_firstPass {expand : Scope → List Char → Expansion (List Char)} (hT : T.Valid)
    (scope : Scope) :
    (runStages (Compiler.stages { library := lib, limit := limit } expand) scope
      (protect T.print)).Yields fun out => out.2 = T.tagged (variableText (T.isBoundIn scope)) := by
  refine yields_runStages_cons
    (P := fun out => scope.Gains out.1 T.loopNames ∧ out.2 = T.tagged placeholderFor)
    (Expansion.yields_lift (expandLoops_print hT scope)) ?_
  rintro ⟨scope', text⟩ ⟨hgains, rfl⟩
  have hsign := stray_notMem_tagged (c := '#') rfl hT fun _ h => stray_notMem_placeholder rfl h
  refine yields_runStages_cons (P := fun out => out = (scope', T.tagged placeholderFor)) ?_ ?_
  · exact Expansion.yields_lift fun t => congrArg (scope', ·) (convertedComments_eq_self hsign)
  rintro _ rfl
  refine yields_runStages_cons (yields_resolveComponents (skips_component hT) scope') ?_
  rintro _ rfl
  refine yields_runStages_cons
    (P := fun out => out.2 = T.tagged (variableText (T.isBoundIn scope))) ?_ fun out hout => ?_
  · refine Expansion.yields_lift fun t => ?_
    have hbound : scope'.isBound = T.isBoundIn scope := funext hgains.isBound
    have hreplace := replace_placeholders hT scope' (s := []) (by simp)
    rw [List.append_nil, Recogniser.replace_nil, List.append_nil, hbound] at hreplace
    rw [substituteVariables_text]
    exact hreplace
  · exact Expansion.yields_pure hout

/-- Passes settle on the compiled page, wherever it stands. -/
theorem yields_expandWithin (hT : T.Valid) (hlimit : 2 ≤ limit) (nesting : Nat) (scope : Scope) :
    (Compiler.expandWithin { library := lib, limit := limit } (nesting + 1) scope
      (protect T.print)).Yields
      fun out => out.2 = T.tagged (variableText (T.isBoundIn scope)) := by
  obtain ⟨left, rfl⟩ : ∃ left, limit = left + 2 := ⟨limit - 2, by omega⟩
  refine yields_settle_once (P := fun _ => True) ?_ (fun s _ => ?_) left
  · exact (yields_firstPass hT scope).imp fun _ hout => ⟨trivial, hout⟩
  · exact yields_pass_still _ (still_compiled hT _) s

/-- The compiled page of a tree. -/
theorem yields_compile (hT : T.Valid) (limit : Nat) (hlimit : 2 ≤ limit) {name : String} {path : Path}
    (hresolve : lib.resolve .template name = .ok path) (hread : lib.read path = .ok T.print)
    (data : Mapping) :
    (Compiler.compile { library := lib, limit := limit } name data none).Yields
      fun page => page.source = T.source data :=
  Template.yields_compile (P := fun out => out = T.source data) hresolve hread (search_layout hT)
    (yields_expandWithin hT hlimit 239 { templateName := name, data := data })

end Tree

/-! ### Protected texts -/

/-- What a character of a text is after protection. -/
def pieceOf (c : Char) : Piece Construct := if c = '{' then .mark .brace Construct.brace.text else .char c

/-- The part of a page that such a piece gives. -/
def blockOf (c : Char) : Block := if c = '{' then .brace else .char c

theorem written_protect (text : List Char) : Written (text.map pieceOf) (protect text) := by
  induction text with
  | nil => exact .nil
  | cons c text ih =>
    rw [List.map_cons, pieceOf]
    split
    · next hc =>
      rw [hc, protect_cons_brace]
      exact .tag .brace ih
    · next hc =>
      rw [protect_cons text hc]
      exact .char hc ih

/-- Protected text is put together to the text that it was. -/
theorem assemble_pieceOf (text : List Char) (more : List (Piece Construct))
    (opened : List (Target.OpenTag × List Block)) (done : List Block) :
    assemble opened done (text.map pieceOf ++ more) =
      assemble opened ((text.map blockOf).reverse ++ done) more := by
  induction text generalizing done with
  | nil => rfl
  | cons c text ih =>
    rw [List.map_cons, List.map_cons, List.cons_append, pieceOf, blockOf]
    split <;> rw [assemble, ih] <;> simp

/-- The only tags in a protected text are tokens. -/
theorem eq_brace_of_mem_pieceOf {text : List Char} {k : Construct} {x : List Char}
    (h : .mark k x ∈ text.map pieceOf) : k = .brace ∧ x = Construct.brace.text := by
  obtain ⟨c, -, heq⟩ := List.mem_map.mp h
  unfold pieceOf at heq
  split at heq
  · obtain ⟨rfl, rfl⟩ := Piece.mark.inj heq
    exact ⟨rfl, rfl⟩
  · cases heq

/-- Plain text is put together as it is. -/
theorem assemble_char (text : List Char) (more : List (Piece Construct))
    (opened : List (Target.OpenTag × List Block)) (done : List Block) :
    assemble opened done (text.map .char ++ more) =
      assemble opened ((text.map Block.char).reverse ++ done) more := by
  induction text generalizing done with
  | nil => rfl
  | cons c text ih =>
    rw [List.map_cons, List.cons_append, assemble, ih]
    simp

/-! ### The compiled page -/

namespace Tree

variable {T : Tree}

/-- The pieces of the page, where `bound` tells the names that stand for something. -/
def pieces (bound : String → Bool) : Tree → List (Piece Construct)
  | done => []
  | text s rest => s.map pieceOf ++ rest.pieces bound
  | var name rest =>
    (if bound name then [.mark (.show name) (Construct.show name).text] else (notFound name).map .char)
      ++ rest.pieces bound
  | loop item index collection body rest =>
    let opening : Construct := .openLoop (index.getD defaultIndex) item collection
    .mark opening opening.text
      :: (body.pieces bound ++ .mark .closeLoop Construct.closeLoop.text :: rest.pieces bound)

/-- The parts of the page. -/
def blocks (bound : String → Bool) : Tree → List Block
  | done => []
  | text s rest => s.map blockOf ++ rest.blocks bound
  | var name rest =>
    (if bound name then [Block.show name] else (notFound name).map .char) ++ rest.blocks bound
  | loop item index collection body rest =>
    .loop (index.getD defaultIndex) item collection (body.blocks bound) :: rest.blocks bound

theorem brace_notMem_notFound {name : String} (h : IsTreeName name) : '{' ∉ notFound name := by
  have hname := h.notMem (c := '{') (by decide)
  rw [notFound_eq]
  simp only [List.mem_cons, List.mem_append, hname, or_false]
  decide

theorem written_pieces (hT : T.Valid) (bound : String → Bool) :
    Written (T.pieces bound) (T.tagged (variableText bound)) := by
  induction T with
  | done => exact .nil
  | text t rest ih => exact (written_protect t).append (ih hT.2.2.2.2)
  | var name rest ih =>
    rw [pieces, tagged, variableText]
    refine Written.append ?_ (ih hT.2)
    split
    · exact .of_tag (.show hT.1.renderable)
    · exact .of_plain (brace_notMem_notFound hT.1)
  | loop item index collection body rest ihbody ih =>
    obtain ⟨hitem, hindex, hcollection, -, hbody, hvalid⟩ := hT
    have hopen := Target.Writes.openLoop hindex.renderable hitem.renderable hcollection.renderable
    rw [pieces, tagged]
    simp only [List.append_assoc]
    exact .tag hopen ((ihbody hbody).append (.tag .closeLoop (ih hvalid)))

/-- The tags of the page are sound, and words are all the names in them. -/
theorem basic_of_mem_pieces (hT : T.Valid) (bound : String → Bool) {k : Construct} {x : List Char}
    (h : .mark k x ∈ T.pieces bound) :
    (k.IsSound ∧ x = k.text) ∧ ∀ n ∈ k.names, Target.IsReadable n.toList := by
  have hword {n : String} (hn : IsTreeName n) : Target.IsReadable n.toList := .of_words hn.word
  induction T with
  | done => cases h
  | text t rest ih =>
    rcases List.mem_append.mp h with h | h
    · obtain ⟨rfl, rfl⟩ := eq_brace_of_mem_pieceOf h
      exact ⟨⟨trivial, rfl⟩, fun _ hn => absurd hn List.not_mem_nil⟩
    · exact ih hT.2.2.2.2 h
  | var name rest ih =>
    rcases List.mem_append.mp h with h | h
    · split at h
      · obtain ⟨rfl, rfl⟩ := Piece.mark.inj (List.mem_singleton.mp h)
        refine ⟨⟨hT.1.renderable, rfl⟩, fun n hn => ?_⟩
        obtain rfl := List.mem_singleton.mp hn
        exact hword hT.1
      · simp at h
    · exact ih hT.2 h
  | loop item index collection body rest ihbody ih =>
    obtain ⟨hitem, hindex, hcollection, -, hbody, hvalid⟩ := hT
    rcases List.mem_cons.mp h with h | h
    · obtain ⟨rfl, rfl⟩ := Piece.mark.inj h
      refine ⟨⟨⟨hindex.renderable, hitem.renderable, hcollection.renderable⟩, rfl⟩, fun n hn => ?_⟩
      simp only [Construct.names, List.mem_cons, List.not_mem_nil, or_false] at hn
      rcases hn with rfl | rfl | rfl
      · exact hword hindex
      · exact hword hitem
      · exact hword hcollection
    rcases List.mem_append.mp h with h | h
    · exact ihbody hbody h
    rcases List.mem_cons.mp h with h | h
    · obtain ⟨rfl, rfl⟩ := Piece.mark.inj h
      exact ⟨⟨trivial, rfl⟩, fun _ hn => absurd hn List.not_mem_nil⟩
    · exact ih hvalid h

theorem assemble_pieces (bound : String → Bool) (T : Tree) (more : List (Piece Construct))
    (opened : List (Target.OpenTag × List Block)) (done : List Block) :
    assemble opened done (T.pieces bound ++ more) =
      assemble opened ((T.blocks bound).reverse ++ done) more := by
  induction T generalizing more opened done with
  | done => rfl
  | text t rest ih =>
    rw [pieces, blocks, List.append_assoc, assemble_pieceOf, ih]
    simp
  | var name rest ih =>
    rw [pieces, blocks, List.append_assoc]
    split
    · rw [List.singleton_append, assemble, ih]
      simp
    · rw [assemble_char, ih]
      simp
  | loop item index collection body rest ihbody ih =>
    rw [pieces, blocks, List.cons_append, List.append_assoc, assemble, ihbody, List.cons_append, assemble, ih]
    simp

theorem treeOf_pieces (hT : T.Valid) (bound : String → Bool) :
    Target.treeOf (T.pieces bound) = .ok (T.blocks bound) := by
  have h := assemble_pieces bound T [] [] []
  rw [List.append_nil, List.append_nil, assemble, List.reverse_reverse] at h
  exact Target.treeOf_of_isSpelled (fun k x hmem => (basic_of_mem_pieces hT bound hmem).1)
    (fun k x hmem => (basic_of_mem_pieces hT bound hmem).2) h

/-- A backend runs the compiled page as the parts of the tree. -/
theorem run_eq_runTree (hT : T.Valid) (data : Mapping) (backend : Target.Backend) (seen : Mapping) :
    backend.run (T.source data) seen = Target.runTree (T.blocks (T.isBound data)) seen := by
  have hreturn : '\r' ∉ T.source data :=
    stray_notMem_tagged rfl hT fun _ h => stray_notMem_variableText rfl _ h
  have hwritten : Written (T.pieces (T.isBound data)) (Text.Utf8.foldNewlines (T.source data)) := by
    rw [Text.Utf8.foldNewlines_eq_self hreturn]
    exact written_pieces hT _
  rw [backend.run_written hwritten, Target.runPieces, treeOf_pieces hT]

/-! ### Depth -/

theorem depthOf_append (a b : List Block) :
    Target.depthOf (a ++ b) = max (Target.depthOf a) (Target.depthOf b) := by
  induction a with
  | nil => simp [Target.depthOf]
  | cons x a ih => simp [Target.depthOf, ih, Nat.max_assoc]

theorem loopDepthOf_append (a b : List Block) :
    Target.loopDepthOf (a ++ b) = max (Target.loopDepthOf a) (Target.loopDepthOf b) := by
  induction a with
  | nil => simp [Target.loopDepthOf]
  | cons x a ih => simp [Target.loopDepthOf, ih, Nat.max_assoc]

theorem depthOf_char (s : List Char) :
    Target.depthOf (s.map .char) = 0 ∧ Target.loopDepthOf (s.map .char) = 0 := by
  induction s with
  | nil => exact ⟨rfl, rfl⟩
  | cons c s ih =>
    simp [Target.depthOf, Target.loopDepthOf, Block.depth, Block.loopDepth, ih.1, ih.2]

theorem depthOf_blockOf (s : List Char) :
    Target.depthOf (s.map blockOf) = 0 ∧ Target.loopDepthOf (s.map blockOf) = 0 := by
  induction s with
  | nil => exact ⟨rfl, rfl⟩
  | cons c s ih =>
    rw [List.map_cons, Target.depthOf, Target.loopDepthOf, ih.1, ih.2, blockOf]
    split <;> exact ⟨rfl, rfl⟩

/-- Loops stand inside one another in the page as they do in the tree, and nothing else nests. -/
theorem depthOf_blocks (bound : String → Bool) (T : Tree) :
    Target.depthOf (T.blocks bound) = T.height ∧ Target.loopDepthOf (T.blocks bound) = T.height := by
  induction T with
  | done => exact ⟨rfl, rfl⟩
  | text t rest ih =>
    simp [blocks, depthOf_append, loopDepthOf_append, depthOf_blockOf, height, ih.1, ih.2]
  | var name rest ih =>
    rw [blocks, depthOf_append, loopDepthOf_append, ih.1, ih.2, height]
    split
    · simp [Target.depthOf, Target.loopDepthOf, Block.depth, Block.loopDepth]
    · simp [depthOf_char]
  | loop item index collection body rest ihbody ih =>
    simp [blocks, Target.depthOf, Target.loopDepthOf, Block.depth, Block.loopDepth, height, ih.1, ih.2,
      ihbody.1, ihbody.2]

end Tree

end Stencil.Template
