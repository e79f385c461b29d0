import Stencil.Engine
import Stencil.Proofs.Cache.Renders
import Stencil.Proofs.Template.DataNames
import Stencil.Proofs.Template.Unread

/-! Rendering without a cache comes to the same wherever the engine finds the same templates and can
write compiled text to the same places. -/
namespace Stencil

namespace Act

/-- An expansion comes to the same in every session, and hands its log on. -/
theorem exists_ofExpansion {α : Type} (name : String) (step : Template.Expansion α) :
    ∃ (r : Except Error α) (log : List Log.Record), ∀ s, ofExpansion name step s =
      match r with
      | .ok a => .ok a (log.foldl Session.log s)
      | .error e => .error e (log.foldl Session.log s) := by
  cases h : step { report := { templateName := name } } with
  | ok a t => exact ⟨.ok a, t.log, fun s => by simp only [ofExpansion, h]⟩
  | error e t => exact ⟨.error e, t.log, fun s => by simp only [ofExpansion, h]⟩

theorem outcome_ofExpansion {α : Type} (name : String) (step : Template.Expansion α) (s s' : Session) :
    (ofExpansion name step).outcome s = (ofExpansion name step).outcome s' := by
  obtain ⟨r, log, h⟩ := exists_ofExpansion name step
  unfold Act.outcome
  rw [h, h]
  cases r <;> rfl

/-- An expansion leaves no more than its log. -/
theorem exists_left_ofExpansion {α : Type} (name : String) (step : Template.Expansion α) (s : Session) :
    ∃ log : List Log.Record, (ofExpansion name step).left s = log.foldl Session.log s := by
  obtain ⟨r, log, h⟩ := exists_ofExpansion name step
  refine ⟨log, ?_⟩
  unfold Act.left
  rw [h]
  cases r <;> rfl

end Act

namespace Engine

/-- Sessions that look alike to an engine: whatever is logged, it loads the same templates in all of
them, and writing compiled text comes to the same. -/
structure Steady (e : Engine) (S : Session → Prop) : Prop where
  log : ∀ {s}, S s → ∀ r, S (s.log r)
  library : ∀ {s s'}, S s → S s' →
    (e.locator.library ⟨s.tree, s.cwd⟩).load = (e.locator.library ⟨s'.tree, s'.cwd⟩).load
  dump : ∀ {s s'}, S s → S s' → ∀ {directory}, e.dumpDir = some directory → ∀ page,
    (dump directory page).outcome s = (dump directory page).outcome s'

variable {e : Engine} {S : Session → Prop} {s s' : Session}

theorem logs (hlog : ∀ {s}, S s → ∀ r, S (s.log r)) (hs : S s) (log : List Log.Record) :
    S (log.foldl Session.log s) := by
  induction log generalizing s with
  | nil => exact hs
  | cons r log ih => exact ih (hlog hs r)

/-- Sessions with these files, in this directory, and with a log that goes to no file. -/
structure Unlogged (tree : FileTree) (cwd : List String) (s : Session) : Prop where
  tree : s.tree = tree
  cwd : s.cwd = cwd
  sink : ∀ sink ∈ s.journal.sink, sink.medium = .console

theorem Unlogged.log {tree : FileTree} {cwd : List String} (h : Unlogged tree cwd s) (r : Log.Record) :
    Unlogged tree cwd (s.log r) := by
  unfold Session.log
  split
  · dsimp only
    split
    · exact ⟨h.tree, h.cwd, h.sink⟩
    next sink hsink =>
      have hmem : sink ∈ s.journal.sink := by
        unfold Log.Journal.sinkFor? at hsink
        by_cases hadmits : s.journal.admits r = true
        · rw [if_pos hadmits] at hsink
          exact (Option.mem_filter_iff.mp hsink).1
        · rw [if_neg hadmits] at hsink
          cases hsink
      simp only [Session.write, h.sink sink hmem]
      exact ⟨h.tree, h.cwd, h.sink⟩
  · exact h

/-- An engine that writes no compiled text is steady where nothing else is written. -/
theorem steady_unlogged (tree : FileTree) (cwd : List String) (h : e.dumpDir = none) :
    e.Steady (Unlogged tree cwd) where
  log hs r := hs.log r
  library hs hs' := by rw [hs.tree, hs.cwd, hs'.tree, hs'.cwd]
  dump _ _ _ hdump := by
    rw [h] at hdump
    cases hdump

/-- The compiler of an engine in a session. -/
def compilerAt (e : Engine) (s : Session) : Template.Compiler :=
  { library := e.locator.library ⟨s.tree, s.cwd⟩, limit := e.limit }

theorem compile_eq (e : Engine) (name : String) (s : Session) :
    e.compile name s = Act.ofExpansion name ((e.compilerAt s).compile name e.data e.layout) s := by
  have hcompiler : e.compiler s = .ok (e.compilerAt s) s := rfl
  unfold compile
  exact Act.run_bind_ok hcompiler

/-- To an engine a layout without a name is no layout. -/
theorem compile_withLayout (e : Engine) (name : String) {layout layout' : Option String}
    (h : layout.getD "" = layout'.getD "") :
    (e.withLayout layout).compile name = (e.withLayout layout').compile name := by
  funext s
  rw [compile_eq, compile_eq]
  have hstep := Template.compile_congr (e.locator.library ⟨s.tree, s.cwd⟩) e.limit name
    (fun _ => rfl : Mapping.SameNames e.data e.data) h
  exact congrArg (fun step => Act.ofExpansion name step s) hstep

/-- A compiled page run, of which nothing but its output depends on the session. -/
def runPage (e : Engine) (name : String) (page : Template.Compiled) : Act String := do
  modify fun s => { s with runs := s.runs + 1 }
  let out ← Act.ofExpansion name (Template.execute e.backend page.source e.data (some name))
  if out.isEmpty then throw (.emptyOutput name page.path.text)
  return String.ofList out

theorem outcome_runPage (e : Engine) (name : String) (page : Template.Compiled) (s s' : Session) :
    (e.runPage name page).outcome s = (e.runPage name page).outcome s' := by
  refine Act.outcome_bind_congr rfl fun _ t t' _ _ => ?_
  refine Act.outcome_bind_congr (Act.outcome_ofExpansion name _ t t') fun out u u' _ _ => ?_
  cases out.isEmpty <;> rfl

theorem renderAfresh_eq (e : Engine) (name : String) :
    e.renderAfresh name = e.compile name >>= fun page =>
      match e.dumpDir with
      | some directory => dump directory page >>= fun _ => e.runPage name page
      | none => e.runPage name page := by
  unfold renderAfresh runPage
  cases e.dumpDir <;> rfl

theorem renderAfresh_withLayout (e : Engine) (name : String) {layout layout' : Option String}
    (h : layout.getD "" = layout'.getD "") :
    (e.withLayout layout).renderAfresh name = (e.withLayout layout').renderAfresh name := by
  rw [renderAfresh_eq, renderAfresh_eq, compile_withLayout e name h]
  rfl

/-- Compiling leads to no other sessions than logging does. -/
theorem left_compile (hlog : ∀ {s}, S s → ∀ r, S (s.log r)) (hs : S s) (name : String) :
    S ((e.compile name).left s) := by
  obtain ⟨log, hleft⟩ := Act.exists_left_ofExpansion name ((e.compilerAt s).compile name e.data e.layout) s
  have hcompile : (e.compile name).left s = log.foldl Session.log s := by
    rw [← hleft]
    unfold Act.left
    rw [compile_eq]
  rw [hcompile]
  exact logs hlog hs log

/-- Rendering without a cache comes to the same where the same templates are loaded, and where compiled text is
written with the same outcome. -/
theorem outcome_renderAfresh_congr {name : String}
    (hlibrary : (e.locator.library ⟨s.tree, s.cwd⟩).load = (e.locator.library ⟨s'.tree, s'.cwd⟩).load)
    (hdump : ∀ {page t t'}, e.compile name s = .ok page t → e.compile name s' = .ok page t' →
      ∀ {directory}, e.dumpDir = some directory →
        (dump directory page).outcome t = (dump directory page).outcome t') :
    (e.renderAfresh name).outcome s = (e.renderAfresh name).outcome s' := by
  have hcompile : (e.compilerAt s).compile name e.data e.layout = (e.compilerAt s').compile name e.data e.layout :=
    Template.compile_eq_of_load_eq hlibrary e.limit name e.data e.layout
  rw [renderAfresh_eq]
  refine Act.outcome_bind_congr ?_ fun page t t' ht ht' => ?_
  · have houtcome := Act.outcome_ofExpansion name ((e.compilerAt s).compile name e.data e.layout) s s'
    unfold Act.outcome at houtcome ⊢
    rw [compile_eq, compile_eq, ← hcompile]
    exact houtcome
  · cases hdirectory : e.dumpDir with
    | none => exact e.outcome_runPage name page t t'
    | some directory =>
      refine Act.outcome_bind_congr (hdump ht ht' hdirectory) fun _ u u' _ _ => ?_
      exact e.outcome_runPage name page u u'

/-- Rendering without a cache comes to the same in all these sessions. -/
theorem Steady.outcome_renderAfresh (h : e.Steady S) (hs : S s) (hs' : S s') (name : String) :
    (e.renderAfresh name).outcome s = (e.renderAfresh name).outcome s' := by
  refine outcome_renderAfresh_congr (h.library hs hs') fun {page t t'} ht ht' {directory} hdump => ?_
  have hleft := left_compile (e := e) h.log hs name
  have hleft' := left_compile (e := e) h.log hs' name
  rw [Act.left, ht] at hleft
  rw [Act.left, ht'] at hleft'
  exact h.dump hleft hleft' hdump page

theorem ne_empty_of_runPage {name text : String} {page : Template.Compiled}
    (h : (e.runPage name page).outcome s = .ok text) : text ≠ "" := by
  obtain ⟨-, t, h⟩ := Act.exists_of_outcome_bind h
  obtain ⟨out, u, h⟩ := Act.exists_of_outcome_bind h
  cases out with
  | nil => cases h
  | cons c out =>
    cases h
    intro hempty
    have hlist := congrArg String.toList hempty
    rw [String.toList_ofList] at hlist
    cases hlist

/-- What is rendered is not empty. -/
theorem ne_empty_of_renderAfresh {name text : String}
    (h : (e.renderAfresh name).outcome s = .ok text) : text ≠ "" := by
  rw [renderAfresh_eq] at h
  obtain ⟨page, t, h⟩ := Act.exists_of_outcome_bind h
  cases hdump : e.dumpDir with
  | none =>
    rw [hdump] at h
    exact ne_empty_of_runPage h
  | some directory =>
    rw [hdump] at h
    obtain ⟨-, u, h⟩ := Act.exists_of_outcome_bind h
    exact ne_empty_of_runPage h

end Engine

end Stencil
