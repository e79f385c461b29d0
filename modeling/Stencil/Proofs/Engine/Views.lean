import Stencil.Proofs.Engine.Cached
import Stencil.Proofs.Engine.Dumps
import Stencil.Proofs.Template.Braces
import Stencil.View

/-! What rendering a view leaves behind. The values of the view are laid over those of its engine at every render,
which comes to the same however often it was done before. A layout stays with the engine, and a later render for
which the view has none gets it, too. -/
namespace Stencil

variable {P : String → Prop} {S : Session → Prop} {s s' : Session} {name : String}

namespace Engine

/-! ### Sessions that renders lead to -/

/-- Sessions that look alike to an engine, and to which rendering the pages `P` leads: it loads the same templates
in all of them, and writing the compiled text of such a page comes to the same. -/
structure Settled (e : Engine) (P : String → Prop) (S : Session → Prop) : Prop where
  log : ∀ {s}, S s → ∀ r, S (s.log r)
  run : ∀ {s}, S s → S { s with runs := s.runs + 1 }
  library : ∀ {s s'}, S s → S s' →
    (e.locator.library ⟨s.tree, s.cwd⟩).load = (e.locator.library ⟨s'.tree, s'.cwd⟩).load
  write : ∀ {s}, S s → ∀ {directory}, e.dumpDir = some directory → ∀ page, P page.name →
    S ((dump directory page).left s)
  alike : ∀ {s s'}, S s → S s' → ∀ {directory}, e.dumpDir = some directory → ∀ page, P page.name →
    (dump directory page).outcome s = (dump directory page).outcome s'

variable {e : Engine}

/-- The sessions in which nothing is written are such sessions for an engine that writes no compiled text. -/
theorem settled_unlogged (P : String → Prop) (tree : FileTree) (cwd : List String) (h : e.dumpDir = none) :
    e.Settled P (Unlogged tree cwd) where
  log hs r := hs.log r
  run hs := ⟨hs.tree, hs.cwd, hs.sink⟩
  library hs hs' := by rw [hs.tree, hs.cwd, hs'.tree, hs'.cwd]
  write _ _ hdump := by
    rw [h] at hdump
    cases hdump
  alike _ _ _ hdump := by
    rw [h] at hdump
    cases hdump

/-- Renders of pages with a file for compiled text lead from one such session to another, if no template has its file
where compiled text has. -/
theorem settled_dumped {tree : FileTree} {cwd place : List String} {directory : Path} (hdump : e.dumpDir = some directory)
    (hfound : tree.find true cwd directory = .ok (place, some .directory)) (hopen : place ∉ tree.locked)
    (hkeeps : e.locator.KeepsOff (IsDumpPlace place) tree cwd) :
    e.Settled (IsDumpable directory) (Dumped tree cwd place) where
  log hs r := hs.log r
  run hs := ⟨hs.tree, hs.cwd, hs.sink⟩
  library hs hs' := by
    rw [hs.cwd, hs'.cwd]
    exact (hkeeps.load_eq hs.tree).symm.trans (hkeeps.load_eq hs'.tree)
  write hs directory' hdirectory page hname := by
    obtain rfl : directory' = directory := Option.some.inj (hdirectory.symm.trans hdump)
    obtain ⟨t, hrun, ht⟩ := hs.run_dump hfound hopen hname
    rw [Act.left, hrun]
    exact ht
  alike hs hs' directory' hdirectory page hname := by
    obtain rfl : directory' = directory := Option.some.inj (hdirectory.symm.trans hdump)
    obtain ⟨t, hrun, -⟩ := hs.run_dump hfound hopen hname
    obtain ⟨t', hrun', -⟩ := hs'.run_dump hfound hopen hname
    rw [Act.outcome, Act.outcome, hrun, hrun']

theorem Settled.set (h : e.Settled P S) (data : Mapping) (layout : Option String) :
    { e with data, layout }.Settled P S := ⟨h.log, h.run, h.library, h.write, h.alike⟩

theorem Settled.outcome_renderAfresh (h : e.Settled P S) (hs : S s) (hs' : S s') (hname : P name) :
    (e.renderAfresh name).outcome s = (e.renderAfresh name).outcome s' := by
  refine outcome_renderAfresh_congr (h.library hs hs') fun {page t t'} ht ht' {directory} hdump => ?_
  have hleft := left_compile (e := e) h.log hs name
  have hleft' := left_compile (e := e) h.log hs' name
  rw [Act.left, ht] at hleft
  rw [Act.left, ht'] at hleft'
  exact h.alike hleft hleft' hdump page ((name_of_compile ht).1 ▸ hname)

theorem Settled.left_runPage (h : e.Settled P S) (hs : S s) (name : String) (page : Template.Compiled) :
    S ((e.runPage name page).left s) := by
  have hrun := h.run hs
  change S ((Act.ofExpansion name (Template.execute e.backend page.source e.data (some name)) >>= fun out => do
    if out.isEmpty then throw (.emptyOutput name page.path.text)
    return String.ofList out).left { s with runs := s.runs + 1 })
  obtain ⟨log, hleft⟩ := Act.exists_left_ofExpansion name (Template.execute e.backend page.source e.data (some name))
    { s with runs := s.runs + 1 }
  have hlogs := logs h.log hrun log
  rw [← hleft, Act.left] at hlogs
  rw [Act.left_bind]
  split
  · next out t hout =>
    rw [hout] at hlogs
    cases hempty : out.isEmpty <;> exact hlogs
  · next err t hout =>
    rw [hout] at hlogs
    exact hlogs

/-- Rendering a page leads to such a session again, whatever it comes to. -/
theorem Settled.left_renderAfresh (h : e.Settled P S) (hs : S s) (hname : P name) :
    S ((e.renderAfresh name).left s) := by
  have hcompile := left_compile (e := e) h.log hs name
  rw [renderAfresh_eq, Act.left_bind]
  rw [Act.left] at hcompile
  cases hpage : e.compile name s with
  | error err t =>
    rw [hpage] at hcompile
    exact hcompile
  | ok page t =>
    rw [hpage] at hcompile
    dsimp only at hcompile ⊢
    cases hdirectory : e.dumpDir with
    | none => exact h.left_runPage hcompile name page
    | some directory =>
      have hwrite := h.write hcompile hdirectory page ((name_of_compile hpage).1 ▸ hname)
      dsimp only
      rw [Act.left_bind]
      rw [Act.left] at hwrite
      cases hdump : dump directory page t with
      | error err u =>
        rw [hdump] at hwrite
        exact hwrite
      | ok _ u =>
        rw [hdump] at hwrite
        exact h.left_runPage hwrite name page

end Engine

namespace View

/-! ### Calls of a view -/

/-- What is done with a view. -/
inductive Call where
  | withValue (key : String) (value : Value)
  | withData (pairs : List (String × Value))
  | withLayout (name : String)
  | render (name : String) (lifetime : Option Cache.Lifetime)

/-- Whether a call renders a page. -/
def Call.isRender : Call → Bool
  | .render _ _ => true
  | _ => false

/-- The view after a call, whatever a render in it comes to. -/
def perform (v : View) : Call → Act View
  | .withValue key value => return v.withValue key value
  | .withData pairs => return v.withData (pairs.map fun p => (.str p.1, p.2))
  | .withLayout name => return v.withLayout name
  | .render name lifetime => do return (← v.render name lifetime).2

/-- What a page comes to that is rendered after some calls. -/
def play (v : View) (calls : List Call) (name : String) (lifetime : Option Cache.Lifetime) :
    Act (Except Error String) := do
  let w ← calls.foldlM perform v
  return (← w.render name lifetime).1

/-- The view after a call, told without the session. -/
def next (v : View) : Call → View
  | .withValue key value => v.withValue key value
  | .withData pairs => v.withData (pairs.map fun p => (.str p.1, p.2))
  | .withLayout name => v.withLayout name
  | .render _ _ => { v with engine := v.prepared }

/-- The view after some calls. -/
def after (v : View) (calls : List Call) : View := calls.foldl next v

variable {v w : View} {calls : List Call} {lifetime : Option Cache.Lifetime}

/-- The engine that a view prepares: its values are laid over the data, and its layout is put in if it has one. -/
theorem prepared_eq (v : View) : v.prepared =
    { v.engine with
      data := Mapping.overlay v.engine.data v.data
      layout := if v.layout.getD "" = "" then v.engine.layout else v.layout } := by
  unfold prepared
  cases v.layout with
  | none => rfl
  | some layout => by_cases h : layout = "" <;> simp [h, Engine.withData, Engine.withLayout]

@[simp] theorem cache_prepared (v : View) : v.prepared.cache = v.engine.cache := by
  rw [prepared_eq]

/-- Rendering a view without a cache. -/
theorem render_eq (hcache : v.engine.cache = none) (name : String) (lifetime : Option Cache.Lifetime)
    (s : Session) :
    v.render name lifetime s =
      .ok ((v.prepared.renderAfresh name).outcome s, { v with engine := v.prepared })
        ((v.prepared.renderAfresh name).left s) := by
  have hengine : v.prepared.render name lifetime s =
      .ok ((v.prepared.renderAfresh name).outcome s, v.prepared) ((v.prepared.renderAfresh name).left s) := by
    unfold Engine.render
    rw [cache_prepared, hcache]
    exact Act.run_bind_ok (Act.attempt_eq _ s)
  exact Act.run_bind_ok hengine

/-! ### What a call changes -/

theorem cache_next (v : View) (c : Call) : (v.next c).engine.cache = v.engine.cache := by
  cases c with
  | render name lifetime => exact v.cache_prepared
  | _ => rfl

/-- The session that calls leave. -/
def leftBy (v : View) (calls : List Call) (s : Session) : Session := (calls.foldlM perform v).left s

/-- A call leads to the next view and to a session, which is another one only if the call renders a page. -/
theorem perform_eq (hcache : v.engine.cache = none) (c : Call) (s : Session) :
    ∃ t, v.perform c s = .ok (v.next c) t ∧
      (t = s ∨ ∃ name lifetime, c = .render name lifetime ∧ t = (v.prepared.renderAfresh name).left s) := by
  cases c with
  | render name lifetime =>
    exact ⟨_, Act.run_bind_ok (render_eq hcache name lifetime s), .inr ⟨name, lifetime, rfl, rfl⟩⟩
  | _ => exact ⟨s, rfl, .inl rfl⟩

theorem leftBy_cons {c : Call} {t : Session} (h : v.perform c s = .ok w t) (calls : List Call) :
    v.leftBy (c :: calls) s = w.leftBy calls t := by
  unfold leftBy Act.left
  rw [List.foldlM_cons, Act.run_bind_ok h]

/-- Calls lead to the view after them. -/
theorem run_calls (hcache : v.engine.cache = none) (calls : List Call) (s : Session) :
    calls.foldlM perform v s = .ok (v.after calls) (v.leftBy calls s) ∧ (v.after calls).engine.cache = none := by
  induction calls generalizing v s with
  | nil => exact ⟨rfl, hcache⟩
  | cons c calls ih =>
    obtain ⟨t, hstep, -⟩ := perform_eq hcache c s
    obtain ⟨hrun, hcache'⟩ := ih ((v.cache_next c).trans hcache) t
    rw [leftBy_cons hstep, List.foldlM_cons, Act.run_bind_ok hstep]
    exact ⟨hrun, hcache'⟩

/-- What a page comes to after calls is what the engine makes of it that the view prepares then. -/
theorem outcome_play (hcache : v.engine.cache = none) (calls : List Call) (name : String)
    (lifetime : Option Cache.Lifetime) (s : Session) :
    (v.play calls name lifetime).outcome s =
      .ok (((v.after calls).prepared.renderAfresh name).outcome (v.leftBy calls s)) := by
  obtain ⟨hrun, hcache'⟩ := run_calls hcache calls s
  have hplay : v.play calls name lifetime s =
      .ok (((v.after calls).prepared.renderAfresh name).outcome (v.leftBy calls s)) _ :=
    (Act.run_bind_ok hrun).trans (Act.run_bind_ok (render_eq hcache' name lifetime _))
  rw [Act.outcome, hplay]

/-! ### Sessions after calls -/

theorem settled_prepared (h : v.engine.Settled P S) : v.prepared.Settled P S := by
  rw [prepared_eq]
  exact h.set _ _

/-- Renders of the pages `P` lead from one of these sessions to another one of them. -/
theorem settled_after (hcache : v.engine.cache = none) (h : v.engine.Settled P S) (hs : S s)
    (hcalls : ∀ page lifetime, Call.render page lifetime ∈ calls → P page) :
    S (v.leftBy calls s) ∧ (v.after calls).engine.Settled P S := by
  induction calls generalizing v s with
  | nil => exact ⟨hs, h⟩
  | cons c calls ih =>
    obtain ⟨t, hstep, ht⟩ := perform_eq hcache c s
    have hsettled : (v.next c).engine.Settled P S := by
      cases c with
      | render name lifetime => exact settled_prepared h
      | _ => exact h
    have hS : S t := by
      rcases ht with rfl | ⟨page, lifetime, rfl, rfl⟩
      · exact hs
      · exact (settled_prepared h).left_renderAfresh hs (hcalls page lifetime List.mem_cons_self)
    rw [leftBy_cons hstep]
    exact ih ((v.cache_next c).trans hcache) hsettled hS fun page lifetime hmem =>
      hcalls page lifetime (List.mem_cons_of_mem _ hmem)

/-! ### Calls without renders -/

/-- Without the renders a view comes to the same values and layout, with the engine that it had. -/
theorem after_filter (v : View) (e : Engine) (calls : List Call) :
    { v with engine := e }.after (calls.filter fun c => !c.isRender) = { v.after calls with engine := e } := by
  induction calls generalizing v with
  | nil => rfl
  | cons c calls ih =>
    cases c with
    | render name lifetime => exact ih (v.next (.render name lifetime))
    | withValue key value => exact ih (v.next (.withValue key value))
    | withData pairs => exact ih (v.next (.withData pairs))
    | withLayout name => exact ih (v.next (.withLayout name))

/-- Calls without renders leave the session as it is. -/
theorem leftBy_filter (v : View) (calls : List Call) (s : Session) :
    v.leftBy (calls.filter fun c => !c.isRender) s = s := by
  induction calls generalizing v with
  | nil => rfl
  | cons c calls ih =>
    cases c with
    | render name lifetime => exact ih v
    | withValue key value => exact ih (v.next (.withValue key value))
    | withData pairs => exact ih (v.next (.withData pairs))
    | withLayout name => exact ih (v.next (.withLayout name))

/-! ### The engine of a view -/

/-- Whether a view comes from another one by calls, as far as its engine can tell: the engine is the same but for
data and layout, and the values of the view laid over its data hide what was laid over them before. -/
structure Follows (v w : View) : Prop where
  named : Mapping.IsNamed w.data
  engine : w.engine = { v.engine with data := w.engine.data, layout := w.engine.layout }
  hidden : Mapping.overlay w.engine.data w.data = Mapping.overlay v.engine.data w.data

theorem follows_refl (h : Mapping.IsNamed v.data) : v.Follows v := ⟨h, rfl, rfl⟩

theorem Follows.withValue (h : v.Follows w) (key : String) (value : Value) :
    v.Follows (w.withValue key value) where
  named := h.named.insert key value
  engine := h.engine
  hidden := by
    change Mapping.overlay w.engine.data (Mapping.insert w.data (.str key) value) =
      Mapping.overlay v.engine.data (Mapping.insert w.data (.str key) value)
    rw [Mapping.overlay_insert h.named, Mapping.overlay_insert h.named, h.hidden]

theorem Follows.withData (h : v.Follows w) (pairs : List (String × Value)) :
    v.Follows (w.withData (pairs.map fun p => (.str p.1, p.2))) := by
  induction pairs generalizing w with
  | nil => exact h
  | cons p pairs ih => exact ih (h.withValue p.1 p.2)

theorem Follows.next (h : v.Follows w) (c : Call) : v.Follows (w.next c) := by
  cases c with
  | withValue key value => exact h.withValue key value
  | withData pairs => exact h.withData pairs
  | withLayout name => exact ⟨h.named, h.engine, h.hidden⟩
  | render name lifetime =>
    refine ⟨h.named, ?_, ?_⟩
    · change w.prepared = { v.engine with data := w.prepared.data, layout := w.prepared.layout }
      rw [prepared_eq, h.engine]
    · change Mapping.overlay w.prepared.data w.data = Mapping.overlay v.engine.data w.data
      rw [prepared_eq, Mapping.overlay_overlay_self h.named, h.hidden]

theorem follows_after (h : v.Follows w) (calls : List Call) : v.Follows (w.after calls) := by
  induction calls generalizing w with
  | nil => exact h
  | cons c calls ih => exact ih (h.next c)

/-! ### The layout that stays -/

/-- The layout that calls leave to an engine: that of the last render for which the view had one. `left` is the
layout of the engine before, and `own` that of the view. -/
def carried (left own : Option String) : List Call → Option String
  | [] => left
  | .withLayout name :: calls => carried left (some name) calls
  | .render _ _ :: calls => carried (if own.getD "" = "" then left else own) own calls
  | _ :: calls => carried left own calls

theorem layout_after (v : View) (calls : List Call) :
    (v.after calls).engine.layout = carried v.engine.layout v.layout calls := by
  induction calls generalizing v with
  | nil => rfl
  | cons c calls ih =>
    cases c with
    | render name lifetime =>
      have hlayout : (v.next (.render name lifetime)).engine.layout =
          if v.layout.getD "" = "" then v.engine.layout else v.layout := by
        rw [next, prepared_eq]
      rw [carried, ← hlayout]
      exact ih (v.next (.render name lifetime))
    | withValue key value => exact ih (v.next (.withValue key value))
    | withData pairs => exact ih (v.next (.withData pairs))
    | withLayout name => exact ih (v.next (.withLayout name))

/-- All that a view finds in its engine is the layout. -/
theorem Follows.prepared_heir (h : v.Follows w) :
    w.prepared = { w with engine := v.engine.withLayout w.engine.layout }.prepared := by
  rw [prepared_eq, prepared_eq, h.hidden]
  exact congrArg (fun e : Engine => { e with
    data := Mapping.overlay v.engine.data w.data
    layout := if w.layout.getD "" = "" then w.engine.layout else w.layout }) h.engine

/-- A view with a layout does not see the layout of its engine. -/
theorem prepared_withLayout (h : w.layout.getD "" ≠ "") (e : Engine) (layout : Option String) :
    { w with engine := e.withLayout layout }.prepared = { w with engine := e }.prepared := by
  simp only [prepared_eq, if_neg h]
  rfl

/-- To a view without a layout, an engine whose layout has no name is as good as one without a layout. -/
theorem renderAfresh_prepared_congr {e : Engine} {layout layout' : Option String}
    (h : layout.getD "" = layout'.getD "") (name : String) :
    { w with engine := e.withLayout layout }.prepared.renderAfresh name =
      { w with engine := e.withLayout layout' }.prepared.renderAfresh name := by
  by_cases hown : w.layout.getD "" = ""
  · have hprepared (l : Option String) :
        { w with engine := e.withLayout l }.prepared = (e.withData w.data).withLayout l := by
      simp only [prepared_eq, if_pos hown]
      rfl
    rw [hprepared, hprepared, Engine.renderAfresh_withLayout _ name h]
  · rw [prepared_withLayout hown, prepared_withLayout hown]

/-! ### Renders and later renders -/

/-- Earlier renders make a difference to a later one by two things at most: by the session that they leave, and by
the layout of the last of them for which the view had one, which the later render gets from the engine if the view
has none then. Where the engine finds the same templates in every session that renders lead to, and writes compiled
text with the same outcome, the session makes none. -/
theorem play_without_renders (hcache : v.engine.cache = none) (hnamed : Mapping.IsNamed v.data)
    (calls : List Call) (name : String) (lifetime : Option Cache.Lifetime) (s : Session) :
    let settings := calls.filter fun c => !c.isRender
    let layout := carried v.engine.layout v.layout calls
    let heir : View := { v with engine := v.engine.withLayout layout }
    (v.play calls name lifetime).outcome s = (heir.play settings name lifetime).outcome (v.leftBy calls s) ∧
    ∀ {P : String → Prop} {S : Session → Prop}, v.engine.Settled P S → S s → P name →
      (∀ page lifetime, Call.render page lifetime ∈ calls → P page) →
        (v.play calls name lifetime).outcome s = (heir.play settings name lifetime).outcome s ∧
        ((v.after calls).layout.getD "" ≠ "" ∨ layout.getD "" = v.engine.layout.getD "" →
          (v.play calls name lifetime).outcome s = (v.play settings name lifetime).outcome s) := by
  intro settings layout heir
  have hfollows := follows_after (follows_refl hnamed) calls
  have hplay := outcome_play hcache calls name lifetime s
  rw [hfollows.prepared_heir, layout_after] at hplay
  have hsettings (l : Option String) (t : Session) :
      ({ v with engine := v.engine.withLayout l }.play settings name lifetime).outcome t =
        .ok (({ v.after calls with engine := v.engine.withLayout l }.prepared.renderAfresh name).outcome t) := by
    rw [outcome_play (v := { v with engine := v.engine.withLayout l }) hcache, after_filter, leftBy_filter]
  refine ⟨by rw [hplay, hsettings], fun {P S} hsettled hs hname hcalls => ?_⟩
  obtain ⟨hleft, -⟩ := settled_after hcache hsettled hs hcalls
  have hsession := (settled_prepared (v := { v.after calls with engine := v.engine.withLayout layout })
    (hsettled.set _ _)).outcome_renderAfresh hleft hs hname
  rw [hplay, hsession]
  refine ⟨(hsettings layout s).symm, fun h => ?_⟩
  have hself : (v.play settings name lifetime).outcome s = _ := hsettings v.engine.layout s
  rw [hself]
  rcases h with hown | hsame
  · rw [prepared_withLayout hown, prepared_withLayout hown]
  · rw [renderAfresh_prepared_congr hsame]

section

open Engine (siteEngine siteFiles dumpingEngine Unlogged Dumped IsDumpable IsDumpPlace)

/-- The files of a site, and a directory for compiled text. -/
def dumpFiles : FileTree := { siteFiles with entries := siteFiles.entries ++ [(["d"], .directory)] }

theorem find_dumpFiles : dumpFiles.find true [] ⟨"", ["d"]⟩ = .ok (["d"], some .directory) := by
  rw [FileTree.find_eq_walk rfl (by decide +kernel)]
  change dumpFiles.walk true FileTree.linkLimit [] ["d"] = _
  rw [FileTree.walk_directory (by decide) rfl, FileTree.walk]
  rfl

/-- Writing compiled text makes no difference to the later renders of that engine. -/
theorem settled_dumpingEngine : dumpingEngine.Settled (IsDumpable ⟨"", ["d"]⟩) (Dumped dumpFiles [] ["d"]) := by
  refine Engine.settled_dumped rfl find_dumpFiles (by decide) ?_
  refine Engine.keepsOff_isDumpPlace (fun q target => ?_) (by decide) (fun x y heq => ?_) [] ["d"]
  · simp only [dumpFiles, siteFiles, FileTree.get?, List.cons_append, List.nil_append, List.lookup_cons,
      List.lookup_nil]
    repeat' split
    all_goals
      intro hlink
      cases hlink
  · have hlast := congrArg (fun s : String => s.toList.getLast?) heq
    simp [dumpingEngine, siteEngine, Engine.dumpSuffix] at hlast

theorem dumped_dumpFiles : Dumped dumpFiles [] ["d"] { tree := dumpFiles } := by
  refine ⟨.refl ?_, rfl, nofun⟩
  rintro q ⟨name, rfl⟩ e he
  simp [dumpFiles, siteFiles, FileTree.get?, List.lookup_cons, List.lookup_nil] at he

/-- A layout at the end, which hides the one that the render leaves, also where the render has written compiled text,
and none at the end. -/
theorem play_without_renders_site :
    let start : Session := { tree := siteFiles }
    let v : View := { engine := siteEngine }
    let w : View := { engine := dumpingEngine }
    let before : List Call := [.withValue "title" (.str "Hi"), .withLayout "main", .render "page" none]
    let settings : List Call := [.withValue "title" (.str "Hi"), .withLayout "main"]
    (v.play (before ++ [Call.withLayout "frame"]) "page" none).outcome start =
      (v.play (settings ++ [Call.withLayout "frame"]) "page" none).outcome start ∧
    (v.play (before ++ [Call.withLayout ""]) "page" none).outcome start =
      ({ v with engine := siteEngine.withLayout (some "main") }.play (settings ++ [Call.withLayout ""]) "page"
        none).outcome start ∧
    (w.play (before ++ [Call.withLayout "frame"]) "page" none).outcome { tree := dumpFiles } =
      (w.play (settings ++ [Call.withLayout "frame"]) "page" none).outcome { tree := dumpFiles } := by
  intro start v w before settings
  have hsettled : v.engine.Settled (fun _ => True) (Unlogged siteFiles []) :=
    Engine.settled_unlogged _ _ _ rfl
  have hstart : Unlogged siteFiles [] start := ⟨rfl, rfl, nofun⟩
  have hplay (calls : List Call) :=
    (play_without_renders (v := v) rfl Mapping.isNamed_nil calls "page" none start).2 hsettled hstart trivial
      fun _ _ _ => trivial
  have hlayout : ((v.after (before ++ [Call.withLayout "frame"])).layout).getD "" = "frame" := rfl
  refine ⟨(hplay (before ++ [Call.withLayout "frame"])).2 (.inl (by rw [hlayout]; decide)),
    (hplay (before ++ [Call.withLayout ""])).1, ?_⟩
  have hpage : IsDumpable ⟨"", ["d"]⟩ "page" := ⟨⟨by decide, by decide, by decide, by decide, by decide, by decide⟩,
    by decide +kernel, by decide⟩
  have hpages : ∀ page lifetime, Call.render page lifetime ∈ before ++ [Call.withLayout "frame"] →
      IsDumpable ⟨"", ["d"]⟩ page := by
    intro page lifetime hmem
    have hname : page = "page" ∧ lifetime = none := by simpa [before] using hmem
    exact hname.1 ▸ hpage
  have hdumps := (play_without_renders (v := w) rfl Mapping.isNamed_nil (before ++ [Call.withLayout "frame"]) "page" none
    { tree := dumpFiles }).2 settled_dumpingEngine dumped_dumpFiles hpage hpages
  exact hdumps.2 (.inl (by rw [show (w.after _).layout.getD "" = "frame" from rfl]; decide))

/-! ### A layout that stays where there is none -/

theorem resolve_letter :
    siteEngine.locator.resolve ⟨siteFiles, []⟩ .template "a/b" = .ok ⟨"", ["t", "a", "b.modx"]⟩ :=
  Template.Locator.resolve_eq_ok_iff.mpr ⟨Template.Locator.isSafe_namePath_iff.mp (by decide +kernel),
    Template.Locator.decides_head Engine.isFile_siteFiles⟩

theorem resolve_up :
    siteEngine.locator.resolve ⟨siteFiles, []⟩ .layout ".." = .error (.templateNotFound .layout ".." ["t"]) :=
  Template.Locator.resolve_of_isAstray
    (not_not.mp (Template.Locator.isSafe_namePath_iff.not.mp (by decide +kernel)))

/-- Without a layout the page is a letter. -/
theorem renderAfresh_letter : (siteEngine.renderAfresh "a/b").outcome { tree := siteFiles } = .ok "A" := by
  have hstill : Template.Still (Template.protect ['A']) :=
    ⟨Template.Unmarked.of_notMem (by decide) [], by decide⟩
  have hyields : ((siteEngine.compilerAt { tree := siteFiles }).compile "a/b" [] none).Yields
      fun page => page.source = Template.protect ['A'] :=
    Template.yields_compile (P := fun out => out = Template.protect ['A']) resolve_letter
      Engine.readTextFile_siteFiles (by decide +kernel)
      (Template.yields_expandWithin_still (by decide) hstill _ _)
  obtain ⟨page, t, hpage, hsource⟩ := hyields { report := { templateName := "a/b" } }
  have hcompile := Engine.compile_eq_ok (e := siteEngine) hpage
  have hexecute : Template.execute .own page.source [] (some "a/b") { report := { templateName := "a/b" } } =
      .ok ['A'] { report := { templateName := "a/b" } } := by
    rw [hsource, Template.execute_eq_endOf, Template.run_protect]
    rfl
  have hrun (s : Session) : Act.ofExpansion "a/b" (Template.execute .own page.source [] (some "a/b")) s = .ok ['A'] s := by
    rw [Act.ofExpansion, hexecute]
    rfl
  rw [Engine.renderAfresh_eq, Act.outcome_bind, hcompile]
  change (siteEngine.runPage "a/b" page).outcome _ = _
  unfold Engine.runPage
  rw [Act.outcome_bind]
  change (Act.ofExpansion "a/b" (Template.execute .own page.source [] (some "a/b")) >>= fun out => do
    if out.isEmpty then throw (.emptyOutput "a/b" page.path.text)
    return String.ofList out).outcome _ = _
  rw [Act.outcome_bind, hrun]
  rfl

/-- With a layout that is not found there is no page. -/
theorem renderAfresh_up : ((siteEngine.withLayout (some "..")).renderAfresh "a/b").outcome { tree := siteFiles } =
    .error (.templateNotFound .layout ".." ["t"]) := by
  have hfails : ((siteEngine.compilerAt { tree := siteFiles }).compile "a/b" [] (some "..")).Fails
      (.templateNotFound .layout ".." ["t"]) :=
    Template.fails_compile_layout resolve_letter Engine.readTextFile_siteFiles (by decide +kernel) (by decide)
      resolve_up
  obtain ⟨t, ht⟩ := hfails { report := { templateName := "a/b" } }
  have hcompile := Engine.compile_eq_error (e := siteEngine.withLayout (some "..")) ht
  rw [Engine.renderAfresh_eq, Act.outcome_bind, hcompile]

/-- A layout that was taken back is still there for the next render. -/
theorem not_play_without_renders :
    ¬∀ (v : View) (calls : List Call) (name : String) (lifetime : Option Cache.Lifetime) (s : Session),
      v.engine.cache = none → Mapping.IsNamed v.data →
        (v.play calls name lifetime).outcome s =
          (v.play (calls.filter fun c => !c.isRender) name lifetime).outcome s := by
  intro h
  let start : Session := { tree := siteFiles }
  let v : View := { engine := siteEngine }
  let calls : List Call := [.withLayout "..", .render "a/b" none, .withLayout ""]
  have hstart : Unlogged siteFiles [] start := ⟨rfl, rfl, nofun⟩
  have hsettled : v.engine.Settled (fun _ => True) (Unlogged siteFiles []) :=
    Engine.settled_unlogged _ _ _ rfl
  obtain ⟨hleft, hafter⟩ : Unlogged siteFiles [] (v.leftBy calls start) ∧ (v.after calls).engine.Settled _ _ :=
    settled_after rfl hsettled hstart fun _ _ _ => trivial
  have hplay := h v calls "a/b" none start rfl Mapping.isNamed_nil
  rw [outcome_play (v := v) rfl, outcome_play (v := v) rfl, leftBy_filter,
    (settled_prepared hafter).outcome_renderAfresh hleft hstart trivial] at hplay
  change Except.ok (((siteEngine.withLayout (some "..")).renderAfresh "a/b").outcome start) =
    Except.ok ((siteEngine.renderAfresh "a/b").outcome start) at hplay
  rw [renderAfresh_up, renderAfresh_letter] at hplay
  cases hplay

end

end View

end Stencil
