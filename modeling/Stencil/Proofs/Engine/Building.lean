import Stencil.Proofs.Config.Precedence
import Stencil.Proofs.Config.Valid
import Stencil.Proofs.Files.Access
import Stencil.Proofs.Files.Looks

/-! Engines built from valid configurations. All that can go wrong is that a template directory is not there, and
may not or cannot be made; the directories before it on the list have been made by then, and that is all that has
happened. -/
namespace Stencil

open Act (run_bind_ok run_bind_error)

/-! ### Directories that must be there -/

namespace Files

variable {s t : Session} {p : Path} {ps : List Path} {create : Bool}

/-- Whether a directory is not there, and cannot be made in case that it may. -/
structure Lacks (s : Session) (p : Path) (create : Bool) : Prop where
  absent : s.tree.isDirectory s.cwd p ≠ .ok true
  unmade : create = true → ∀ tree, s.tree.makeDirectories s.cwd p.parts.length p ≠ .ok tree

theorem run_look_error {α : Type} {f : FileTree → List String → Path → Except PathFault α} {fault : PathFault}
    (h : f s.tree s.cwd p = .error fault) : look p f s = .error (.ofPathFault fault p.text) s := by
  rw [(looks_look p f).run_eq s, outcome_look, h]

theorem isDirectory_ne_true_of_hasEntry {found : Except PathFault Bool} {tree : FileTree} {cwd : List String}
    (h : tree.hasEntry cwd p = found) (hfound : found ≠ .ok true) : tree.isDirectory cwd p ≠ .ok true := by
  intro hp
  obtain ⟨place, hfind⟩ := FileTree.isDirectory_eq_true_iff.mp hp
  exact hfound (h.symm.trans (FileTree.hasEntry_of_find hfind))

/-- A directory cannot be made where something else is in its place. -/
theorem lacks_of_hasEntry (hentry : s.tree.hasEntry s.cwd p ≠ .ok false)
    (habsent : s.tree.isDirectory s.cwd p ≠ .ok true) : Lacks s p create := by
  refine ⟨habsent, fun _ tree htree => ?_⟩
  rcases FileTree.directory_or_absent htree with hp | hfalse
  · exact habsent (FileTree.isDirectory_eq_true_iff.mpr hp)
  · exact hentry hfalse

/-- A directory is there afterwards, and so is all that was there before; or it is lacking, and nothing has
happened. -/
theorem ensureDirectory_cases (s : Session) (p : Path) (create : Bool) :
    (∃ tree, ensureDirectory p create s = .ok () { s with tree } ∧ FileTree.Keeps s.tree tree ∧ ¬Lacks s p create) ∨
      ∃ e, ensureDirectory p create s = .error e s ∧ Lacks s p create := by
  unfold ensureDirectory
  cases hentry : s.tree.hasEntry s.cwd p with
  | error fault =>
    have habsent := isDirectory_ne_true_of_hasEntry hentry nofun
    exact .inr ⟨_, run_bind_error (run_look_error hentry), lacks_of_hasEntry (by rw [hentry]; nofun) habsent⟩
  | ok found =>
    rw [run_bind_ok (run_hasEntry hentry)]
    cases found with
    | true =>
      have hlacks (habsent : s.tree.isDirectory s.cwd p ≠ .ok true) : Lacks s p create :=
        lacks_of_hasEntry (by rw [hentry]; nofun) habsent
      rw [if_pos rfl]
      cases hp : s.tree.isDirectory s.cwd p with
      | error fault => exact .inr ⟨_, run_bind_error (run_look_error hp), hlacks (by rw [hp]; nofun)⟩
      | ok isDir =>
        rw [run_bind_ok (show isDirectory p s = .ok isDir s from run_look hp)]
        cases isDir with
        | true => exact .inl ⟨s.tree, rfl, .refl _, fun h => h.absent hp⟩
        | false => exact .inr ⟨_, rfl, hlacks (by rw [hp]; nofun)⟩
    | false =>
      have habsent := isDirectory_ne_true_of_hasEntry hentry nofun
      rw [if_neg Bool.false_ne_true]
      cases create with
      | false => exact .inr ⟨_, rfl, habsent, nofun⟩
      | true =>
        rw [if_pos rfl]
        cases hmade : s.tree.makeDirectories s.cwd p.parts.length p with
        | ok tree =>
          exact .inl ⟨tree, run_makeDirectories hmade, (FileTree.makeDirectories_keeps hmade).1,
            fun h => h.unmade rfl tree hmade⟩
        | error fault =>
          have hrun : makeDirectories p s = .error (.ofPathFault fault.1 fault.2.text) s := by
            unfold makeDirectories
            rw [Act.run_get_bind, hmade]
            rfl
          exact .inr ⟨_, hrun, habsent, fun _ tree => by rw [hmade]; nofun⟩

/-- Directories made sure of, one after the other. -/
def ensureAll (create : Bool) : List Path → Act Unit
  | [] => pure ()
  | p :: rest => do
    ensureDirectory p create
    ensureAll create rest

/-- All that was there stays. -/
theorem ensureAll_keeps (h : ensureAll create ps s = .ok () t) :
    ∃ tree, t = { s with tree } ∧ FileTree.Keeps s.tree tree := by
  induction ps generalizing s with
  | nil =>
    cases h
    exact ⟨_, rfl, .refl _⟩
  | cons p ps ih =>
    unfold ensureAll at h
    rcases ensureDirectory_cases s p create with ⟨tree, hrun, hkeeps, -⟩ | ⟨e, hrun, -⟩
    · rw [run_bind_ok hrun] at h
      obtain ⟨tree', rfl, hkeeps'⟩ := ih h
      exact ⟨tree', rfl, hkeeps.trans hkeeps'⟩
    · rw [run_bind_error hrun] at h
      cases h

/-- A directory that is lacking after others were made was not there before. -/
theorem Lacks.absent_before (h : Lacks t p create) (hs : ensureAll create ps s = .ok () t) :
    s.tree.isDirectory s.cwd p ≠ .ok true := by
  intro hp
  obtain ⟨tree, rfl, hkeeps⟩ := ensureAll_keeps hs
  obtain ⟨place, hfind⟩ := FileTree.isDirectory_eq_true_iff.mp hp
  rcases hkeeps.find true s.cwd p with hmissing | ⟨place', hnone⟩ | hsame
  · rw [hfind] at hmissing
    cases hmissing
  · rw [hfind] at hnone
    cases hnone
  · exact h.absent (FileTree.isDirectory_eq_true_iff.mpr ⟨place, hsame.trans hfind⟩)

/-- Making sure of directories fails exactly if one of them is lacking when its turn comes. That one was not there
from the start. -/
theorem ensureAll_error_iff : (∃ e, (ensureAll create ps).outcome s = .error e) ↔
    ∃ before p after t, ps = before ++ p :: after ∧ s.tree.isDirectory s.cwd p ≠ .ok true ∧
      ensureAll create before s = .ok () t ∧ Lacks t p create := by
  suffices hiff : (∃ e, (ensureAll create ps).outcome s = .error e) ↔ ∃ before p after t,
      ps = before ++ p :: after ∧ ensureAll create before s = .ok () t ∧ Lacks t p create by
    rw [hiff]
    constructor
    · rintro ⟨before, p, after, t, hps, ht, hlacks⟩
      exact ⟨before, p, after, t, hps, hlacks.absent_before ht, ht, hlacks⟩
    · rintro ⟨before, p, after, t, hps, -, ht, hlacks⟩
      exact ⟨before, p, after, t, hps, ht, hlacks⟩
  induction ps generalizing s with
  | nil =>
    refine iff_of_false (fun ⟨e, he⟩ => by cases he) ?_
    rintro ⟨before, p, after, t, hnil, -⟩
    cases before <;> cases hnil
  | cons q ps ih =>
    have hstep : (ensureAll create (q :: ps)).outcome s = _ := Act.outcome_bind _ _ s
    rcases ensureDirectory_cases s q create with ⟨tree, hrun, -, hthere⟩ | ⟨e, hrun, hlacks⟩
    · rw [hstep, hrun]
      refine ih.trans ?_
      constructor
      · rintro ⟨before, p, after, t, rfl, ht, hlacks⟩
        exact ⟨q :: before, p, after, t, rfl, (run_bind_ok hrun).trans ht, hlacks⟩
      · rintro ⟨before, p, after, t, heq, ht, hlacks⟩
        cases before with
        | nil =>
          obtain ⟨rfl, rfl⟩ := List.cons.inj heq
          cases ht
          exact absurd hlacks hthere
        | cons first before =>
          obtain ⟨rfl, rfl⟩ := List.cons.inj heq
          exact ⟨before, p, after, t, rfl, (run_bind_ok hrun).symm.trans ht, hlacks⟩
    · rw [hstep, hrun]
      exact iff_of_true ⟨e, rfl⟩ ⟨[], q, ps, s, rfl, rfl, hlacks⟩

end Files

/-! ### Locators -/

namespace Template.Locator

variable {l : Locator} {root p : Path} {ps : List Path} {create : Bool} {s t : Session}

theorem run_addPath_ok (h : Files.ensureDirectory p create s = .ok () t) : ∃ l', l.addPath p create s = .ok l' t := by
  unfold addPath
  rw [run_bind_ok (Act.run_attempt_ok h)]
  exact ⟨_, rfl⟩

theorem run_addPath_error {e : Error} (h : Files.ensureDirectory p create s = .error e t) :
    ∃ e', l.addPath p create s = .error e' t := by
  unfold addPath
  rw [run_bind_ok (Act.run_attempt_error h)]
  exact ⟨_, rfl⟩

/-- A locator can be made exactly if its directories can be made sure of. -/
theorem addPaths_cases (l : Locator) (root : Path) (create : Bool) (ps : List Path) (s : Session) :
    (∃ l' t, l.addPaths root create ps s = .ok l' t ∧ Files.ensureAll create (ps.map (root / ·)) s = .ok () t) ∨
      ∃ e e' t, l.addPaths root create ps s = .error e t ∧
        Files.ensureAll create (ps.map (root / ·)) s = .error e' t := by
  induction ps generalizing l s with
  | nil => exact .inl ⟨l, s, rfl, rfl⟩
  | cons p ps ih =>
    simp only [addPaths, List.map_cons, Files.ensureAll]
    cases hstep : Files.ensureDirectory (root / p) create s with
    | ok u t =>
      obtain ⟨l', hl⟩ := run_addPath_ok (l := l) hstep
      rw [run_bind_ok hl, run_bind_ok hstep]
      exact ih l' t
    | error e t =>
      obtain ⟨e', hl⟩ := run_addPath_error (l := l) hstep
      rw [run_bind_error hl, run_bind_error hstep]
      exact .inr ⟨e', e, t, rfl, rfl⟩

end Template.Locator

/-! ### Loaded configurations -/

namespace Config

open Value (ScalarsBare)

variable {base later l l' : Layer} {p : List String} {v : Value}

/-- A value put at a place keeps the scalars bare. -/
theorem scalarsBare_setNested {path : List String} {m m' : Mapping} (hm : (Value.dict m).ScalarsBare)
    (hv : v.ScalarsBare) (h : setNested path p m v = .ok m') : (Value.dict m').ScalarsBare := by
  induction p generalizing m m' with
  | nil =>
    cases h
    exact hm
  | cons name rest ih =>
    cases rest with
    | nil =>
      cases h
      exact hm.insert hv _
    | cons next rest =>
      obtain ⟨inner, inner', hinner, hset, rfl⟩ := setNested_cons h
      refine hm.insert (ih ?_ hset) _
      rcases hinner with hget | ⟨-, rfl⟩
      · exact hm.get? hget
      · exact Value.scalarsBare_dict_iff.mpr nofun

theorem scalarsBare_merge (hbase : (Value.dict base.mapping).ScalarsBare)
    (hlater : (Value.dict later.mapping).ScalarsBare) (hproper : later.IsProper) (h : base.merge later = some l) :
    (Value.dict l.mapping).ScalarsBare := by
  rcases Layer.merge_cases h with ⟨m, n, rfl, rfl, rfl⟩ | ⟨k, g, -, rfl⟩
  · cases hproper with
    | plain proper =>
      rw [Layer.mapping_plain, ← Value.mergeValue_dict_dict]
      exact hbase.mergeValue proper hlater
  · exact Layer.scalarsBare_mapping g k

theorem scalarsBare_mergeAll {layers : List Layer} (hbase : (Value.dict base.mapping).ScalarsBare)
    (hlayers : ∀ k ∈ layers, (Value.dict k.mapping).ScalarsBare ∧ k.IsProper)
    (h : base.mergeAll layers = some l) : (Value.dict l.mapping).ScalarsBare := by
  induction layers generalizing base with
  | nil => exact Option.some.inj h ▸ hbase
  | cons later layers ih =>
    obtain ⟨merged, hmerge, h⟩ := Layer.mergeAll_cons_eq_some.mp h
    obtain ⟨hlater, hproper⟩ := hlayers later List.mem_cons_self
    exact ih (scalarsBare_merge hbase hlater hproper hmerge) (fun k hk => hlayers k (List.mem_cons_of_mem _ hk)) h

theorem scalarsBare_setInLayer (hl : (Value.dict l.mapping).ScalarsBare) (hv : v.ScalarsBare)
    (h : setInLayer p v l = .ok l') : (Value.dict l'.mapping).ScalarsBare := by
  cases l with
  | plain m =>
    obtain ⟨m', hset, rfl⟩ := setInLayer_plain h
    exact scalarsBare_setNested hl hv hset
  | shared g n =>
    obtain ⟨g', -, rfl⟩ := setInLayer_shared h
    exact Layer.scalarsBare_mapping g' n

theorem scalarsBare_setAll {overrides : List (List String × Value)} (hl : (Value.dict l.mapping).ScalarsBare)
    (hvalues : ∀ o ∈ overrides, o.2.ScalarsBare) (h : setAll l overrides = .ok l') :
    (Value.dict l'.mapping).ScalarsBare := by
  induction overrides generalizing l with
  | nil => exact Except.ok.inj h ▸ hl
  | cons o overrides ih =>
    obtain ⟨next, hset, h⟩ := setAll_cons_eq_ok_iff.mp h
    exact ih (scalarsBare_setInLayer hl (hvalues o List.mem_cons_self) hset)
      (fun o ho => hvalues o (List.mem_cons_of_mem _ ho)) h

/-- A mapping of a graph has its scalars bare, whether or not it is kept as one. -/
theorem scalarsBare_ofGraph (g : Graph) (n : Nat) : (Value.dict (Layer.ofGraph g n).mapping).ScalarsBare := by
  unfold Layer.ofGraph
  split
  · next m _ hopened =>
    have hsame : (Layer.shared g n).mapping = m := by rw [Layer.mapping, hopened]
    exact hsame ▸ Layer.scalarsBare_mapping g n
  · exact Layer.scalarsBare_mapping g n

theorem scalarsBare_readLayer {loader : Yaml.Loader} {s : Session} {file : Path}
    (h : (Files.readLayer file loader).outcome s = .ok l) :
    (Value.dict l.mapping).ScalarsBare := by
  have hnil : (Value.dict []).ScalarsBare := Value.scalarsBare_dict_iff.mpr nofun
  unfold Files.readLayer at h
  obtain ⟨parts, -, h⟩ := (Files.looks_readParts file true).outcome_bind_eq_ok_iff.mp h
  split at h
  · cases h
    exact hnil
  · split at h
    · cases h
      exact scalarsBare_ofGraph _ _
    · split at h
      · cases h
      · cases h
        exact hnil

/-- Whatever a configuration was loaded from, no scalar in it is given as a knot. -/
theorem scalarsBare_loadAfresh {tools : Tools} {root : Path} {strict : Bool} {s : Session} {config : Layer}
    (h : (loadAfresh root strict tools).outcome s = .ok config) : (Value.dict config.mapping).ScalarsBare := by
  obtain ⟨layers, overrides, merged, hread, hmerge, hset⟩ :=
    outcome_loadAfresh_false_eq_ok_iff.mp (outcome_loadAfresh_eq_ok_iff.mp h).1
  obtain ⟨files, -, hfiles⟩ := hread.layer
  have hlayers : ∀ l ∈ layers, (Value.dict l.mapping).ScalarsBare ∧ l.IsProper := fun l hl => by
    obtain ⟨file, -, hfile⟩ := exists_of_mem_forall₂ hfiles hl
    exact ⟨scalarsBare_readLayer hfile, hread.isProper l hl⟩
  have hdefaults : (Value.dict (Layer.plain defaults).mapping).ScalarsBare := Value.scalarsBare_of_hasKnot rfl
  exact scalarsBare_setAll (scalarsBare_mergeAll hdefaults hlayers hmerge)
    (fun o ho => Value.scalarsBare_of_hasKnot (hread.tree o ho).2) hset

end Config

/-! ### Engines -/

namespace Engine

open Config (Settings)

variable {s : Settings} {ps : List Path} {create : Bool} {t : Session}

/-- An engine for usable settings can be built exactly if the template directories can be made sure of. -/
theorem ofSettings_error_iff (h : s.IsUsable) (hps : s.paths = .ok ps) (hcreate : s.createMissing = .ok create) :
    (∃ e, (ofSettings s).outcome t = .error e) ↔
      ∃ e, (Files.ensureAll create (ps.map (s.root / ·))).outcome t = .error e := by
  obtain ⟨extension, hextension⟩ := h.extension
  obtain ⟨layoutsDir, hlayouts⟩ := h.layoutsDir
  obtain ⟨componentsDir, hcomponents⟩ := h.componentsDir
  obtain ⟨cache, hcache⟩ := h.cache
  obtain ⟨n, limit, hn, hlimit⟩ := h.maxIterations
  obtain ⟨layout, hlayout⟩ := h.defaultLayout
  obtain ⟨dumpDir, hdump⟩ := h.dumpDir
  have hlocator : Template.Locator.ofSettings s =
      (⟨[], extension, layoutsDir, componentsDir⟩ : Template.Locator).addPaths s.root create ps := by
    unfold Template.Locator.ofSettings
    rw [hps, hcreate, hextension, hlayouts, hcomponents]
    rfl
  unfold ofSettings
  rw [hlocator, hcache, hn, hlayout, hdump, Act.outcome_bind, Act.outcome]
  rcases Template.Locator.addPaths_cases (⟨[], extension, layoutsDir, componentsDir⟩ : Template.Locator) s.root create
    ps t with ⟨l, t', hl, hensure⟩ | ⟨e, e', t', hl, hensure⟩
  · rw [hl, hensure]
    -- what comes after the locator is the number of passes, which is fine
    change (∃ e, (Act.ofExcept (limitOf n) >>= fun limit =>
      pure { locator := l, limit, cache, layout, dumpDir } : Act Engine).outcome t' = .error e) ↔ _
    rw [hlimit]
    refine iff_of_false ?_ ?_
    all_goals
      rintro ⟨e, he⟩
      cases he
  · rw [hl, hensure]
    exact iff_of_true ⟨e, rfl⟩ ⟨e', rfl⟩

/-- An engine for usable settings can be built unless a template directory is lacking when its turn comes. -/
theorem builds_of_isUsable (h : s.IsUsable) : ∃ ps create, s.paths = .ok ps ∧ s.createMissing = .ok create ∧
    ∀ t, (∃ e, (ofSettings s).outcome t = .error e) ↔
      ∃ before p after t', ps.map (s.root / ·) = before ++ p :: after ∧ t.tree.isDirectory t.cwd p ≠ .ok true ∧
        Files.ensureAll create before t = .ok () t' ∧ Files.Lacks t' p create := by
  obtain ⟨ps, hps⟩ := h.paths
  obtain ⟨create, hcreate⟩ := h.createMissing
  refine ⟨ps, create, hps, hcreate, fun t => ?_⟩
  rw [ofSettings_error_iff h hps hcreate, Files.ensureAll_error_iff]

/-- Settings that were loaded with the schema asked for can be used, whatever the files and the environment are, if
no path begins with the home of an account. -/
theorem isUsable_of_loadAfresh {tools : Config.Tools} {root : Path} {config : Layer} {home : Option String}
    (h : (Config.loadAfresh root true tools).outcome t = .ok config)
    (hpaths : ∀ text, Settings.IsPathText ⟨root, home, config.mapping⟩ text →
      (Path.ofString text).leadsHome = false) :
    Settings.IsUsable ⟨root, home, config.mapping⟩ := by
  have hvalid := (Config.outcome_loadAfresh_eq_ok_iff.mp h).2 rfl
  exact Settings.isUsable_of_allowed ⟨Config.allMet_of_validate hvalid, Config.scalarsBare_loadAfresh h⟩ hpaths

/-- Settings of a valid configuration, of which no path begins with the home of an account, can be used. An engine
for them can be built unless a template directory is lacking when its turn comes. -/
theorem builds_of_validate {checker : Config.Checker} {config : Mapping}
    (hvalid : Config.validate (.dict config) checker = .ok ())
    (hbare : (Value.dict config).ScalarsBare) (root : Path) (home : Option String)
    (hpaths : ∀ text, Settings.IsPathText ⟨root, home, config⟩ text → (Path.ofString text).leadsHome = false) :
    Settings.IsUsable ⟨root, home, config⟩ ∧
      ∃ ps create, Settings.paths ⟨root, home, config⟩ = .ok ps ∧
        Settings.createMissing ⟨root, home, config⟩ = .ok create ∧
        ∀ s, (∃ e, (ofSettings ⟨root, home, config⟩).outcome s = .error e) ↔
          ∃ before p after t, ps.map (root / ·) = before ++ p :: after ∧ s.tree.isDirectory s.cwd p ≠ .ok true ∧
            Files.ensureAll create before s = .ok () t ∧ Files.Lacks t p create := by
  have husable : Settings.IsUsable ⟨root, home, config⟩ :=
    Settings.isUsable_of_allowed ⟨Config.allMet_of_validate hvalid, hbare⟩ hpaths
  exact ⟨husable, builds_of_isUsable husable⟩

/-- A configuration with one template directory, and a number of passes with a point. -/
def onePlace : Mapping :=
  [(.str "templates", .dict [(.str "paths", .list [.str "pages"]), (.str "max_iterations", .float (.ofInt 2))]),
    (.str "cache", .dict [(.str "store", .str "memory")])]

theorem validate_onePlace : Config.validate (.dict onePlace) = .ok () := by
  have hwhole : (Number.Binary.ofFloat (.ofInt 2)).whole? = some 2 := rfl
  have hbelow : Config.isBelow 1 (.float (.ofInt 2)) = false := rfl
  rw [Config.validate_eq_ok_iff]
  simp [Config.schema, Config.checkAll, Config.checkMembers, Config.templateRules, Config.cacheRules,
    Config.ruleSection, Config.someText, Config.Rule.check, Config.Kind.holds, Config.extraKeys, Mapping.get?,
    Value.opened, onePlace, hwhole, hbelow]

theorem isPathText_onePlace {text : String} (h : Settings.IsPathText ⟨⟨"/", []⟩, none, onePlace⟩ text) :
    text = "pages" := by
  cases h with
  | templates hv hitems htext =>
    cases hv
    cases hitems
    simpa using htext
  | single hplace htext =>
    simp only [List.mem_cons, Prod.mk.injEq, List.not_mem_nil, or_false] at hplace
    rcases hplace with ⟨rfl, rfl⟩ | ⟨rfl, rfl⟩ | ⟨rfl, rfl⟩ <;> cases htext

theorem builds_of_validate_onePlace : Config.validate (.dict onePlace) = .ok () ∧
    Settings.IsUsable ⟨⟨"/", []⟩, none, onePlace⟩ ∧
      ∃ e, (ofSettings ⟨⟨"/", []⟩, none, onePlace⟩).outcome {} = .error e := by
  have hhome : (Path.ofString "pages").leadsHome = false := by decide +kernel
  obtain ⟨husable, ps, create, hps, hcreate, hiff⟩ := builds_of_validate validate_onePlace
    (Value.scalarsBare_of_hasKnot rfl) ⟨"/", []⟩ none fun text htext => by rw [isPathText_onePlace htext, hhome]
  have hpages : Settings.paths ⟨⟨"/", []⟩, none, onePlace⟩ = .ok [⟨"/", []⟩ / Path.ofString "pages"] := by
    rw [Settings.paths_eq [.str "pages"] rfl rfl, List.mapM_cons, Settings.textOf_str]
    change Settings.resolve _ "pages" >>= _ = _
    rw [Settings.resolve, Path.expandHome_of_not_leadsHome hhome]
    rfl
  refine ⟨validate_onePlace, husable, (hiff {}).mpr ?_⟩
  cases hps.symm.trans hpages
  cases (show Settings.createMissing ⟨⟨"/", []⟩, none, onePlace⟩ = .ok false from rfl).symm.trans hcreate
  have hfind : FileTree.empty.find true [] ⟨"/", ["pages"]⟩ = .ok (["pages"], none) := by
    rw [FileTree.find_eq_walk (by decide) (by decide)]
    exact FileTree.walk_cons (by decide)
  have habsent : FileTree.empty.isDirectory [] (⟨"/", []⟩ / (⟨"/", []⟩ / Path.ofString "pages")) ≠ .ok true := by
    rw [show (⟨"/", []⟩ : Path) / (⟨"/", []⟩ / Path.ofString "pages") = ⟨"/", ["pages"]⟩ by decide,
      FileTree.isDirectory, FileTree.entry?, hfind]
    intro hfound
    cases hfound
  exact ⟨[], _, [], {}, rfl, habsent, rfl, habsent, fun hcreate => absurd hcreate Bool.false_ne_true⟩

/-- A configuration with a template directory that begins with a name that looks like an account. -/
def strayAccount : Mapping :=
  [(.str "templates", .dict [(.str "paths", .list [.str "./~no-such-account"])])]

/-- A valid configuration of which no path begins with a tilde, and of which the template directories cannot be
told. -/
theorem strayAccount_valid_not_usable : Config.validate (.dict strayAccount) = .ok () ∧
    (∀ text, Settings.IsPathText ⟨⟨"/", []⟩, none, strayAccount⟩ text →
      text.startsWith "~" = false ∧ '\x00' ∉ text.toList) ∧
    Settings.paths ⟨⟨"/", []⟩, none, strayAccount⟩ = .error .noHome := by
  refine ⟨?_, fun text htext => ?_, ?_⟩
  · rw [Config.validate_eq_ok_iff]
    simp [Config.schema, Config.checkAll, Config.checkMembers, Config.templateRules, Config.ruleSection,
      Config.someText, Config.Rule.check, Config.Kind.holds, Config.extraKeys, Mapping.get?, Value.opened, strayAccount]
  · obtain rfl : text = "./~no-such-account" := by
      cases htext with
      | templates hv hitems hmem =>
        cases hv
        cases hitems
        simpa using hmem
      | single hplace htext =>
        simp only [List.mem_cons, Prod.mk.injEq, List.not_mem_nil, or_false] at hplace
        rcases hplace with ⟨rfl, rfl⟩ | ⟨rfl, rfl⟩ | ⟨rfl, rfl⟩ <;> cases htext
    exact ⟨by decide +kernel, by decide⟩
  · rw [Settings.paths_eq [.str "./~no-such-account"] rfl rfl, List.mapM_cons, Settings.textOf_str]
    have hresolve : Settings.resolve ⟨⟨"/", []⟩, none, strayAccount⟩ "./~no-such-account" = .error .noHome := by
      have hpath : Path.ofString "./~no-such-account" = ⟨"", ["~no-such-account"]⟩ := by decide
      have htilde : "~no-such-account".startsWith "~" = true := by decide +kernel
      rw [Settings.resolve, hpath, Path.expandHome]
      simp only [htilde, if_true]
      rfl
    change Settings.resolve _ _ >>= _ = _
    rw [hresolve]
    rfl

end Engine

end Stencil
