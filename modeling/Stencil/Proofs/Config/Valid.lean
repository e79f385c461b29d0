import Stencil.Engine.OfConfig
import Stencil.Proofs.Mapping
import Stencil.Proofs.Number.Unpacked
import Stencil.Proofs.Value.Knots

/-! Valid configurations can be used. The schema and the settings describe the same data twice: what a member of
a section was checked for is what the conversion of the setting asks of it, and a member that is missing has a
default that converts as well. -/
namespace Stencil

/-! ### Homes -/

/-- Whether a path begins with the home of an account. -/
def Path.leadsHome (p : Path) : Bool := p.anchor == "" && p.parts.head?.any (·.startsWith "~")

theorem Path.expandHome_of_not_leadsHome {p : Path} (h : p.leadsHome = false) (home : Option String) :
    p.expandHome home = .ok p := by
  obtain ⟨anchor, parts⟩ := p
  unfold expandHome
  split
  · next first rest hanchor hparts =>
    obtain rfl : anchor = "" := hanchor
    obtain rfl : parts = first :: rest := hparts
    rw [if_neg]
    simpa [leadsHome] using h
  · rfl

namespace Config

open Value (ScalarsBare)

variable {rules inner : List Rule} {v w : Value} {m : Mapping} {name part key : String}

/-! ### What the schema has checked -/

theorem AllMet.met {rule : Rule} (h : AllMet rules v) (hrule : rule ∈ rules) : rule.Met v := by
  induction rules with
  | nil => cases hrule
  | cons first rules ih =>
    rw [AllMet] at h
    rcases List.mem_cons.mp hrule with rfl | hrule
    · exact h.1
    · exact ih h.2 hrule

theorem MembersMet.allMet {fields : List (String × List Rule)} (h : MembersMet fields m)
    (hname : fields.lookup name = some inner) (hv : Mapping.get? m (.str name) = some v) : AllMet inner v := by
  induction fields with
  | nil => cases hname
  | cons field fields ih =>
    obtain ⟨first, rules⟩ := field
    rw [MembersMet] at h
    rw [List.lookup_cons] at hname
    split at hname
    · next heq =>
      obtain rfl := eq_of_beq heq
      cases hname
      exact h.1 v hv
    · exact ih h.2 hname

/-- A configuration that passes keeps to the schema, whatever checks it. -/
theorem allMet_of_validate {checker : Checker} (h : validate v checker = .ok ()) : AllMet schema v := by
  unfold validate at h
  split at h
  · next hnil => exact checker.allMet_of_violations hnil
  · split at h <;> cases h

/-- The rules are gone through one after the other. -/
theorem validate_eq_ok_iff : validate v = .ok () ↔ checkAll schema v = [] := by
  have hperm : (Checker.own.violations schema v).Perm (checkAll schema v) := List.mergeSort_perm _ _
  unfold validate
  constructor
  · intro h
    split at h
    · next hnil =>
      rw [hnil] at hperm
      exact hperm.nil_eq.symm
    · split at h <;> cases h
  · intro h
    rw [h] at hperm
    rw [hperm.eq_nil]

/-- Whether a value keeps to rules, with its scalars bare. -/
structure Allowed (rules : List Rule) (v : Value) : Prop where
  checked : AllMet rules v
  bare : v.ScalarsBare

/-- What the rules of a mapping ask of the member with a name. -/
def rulesFor (name : String) : List Rule → Option (List Rule)
  | [] => none
  | .members fields :: _ => fields.lookup name
  | _ :: rules => rulesFor name rules

theorem exists_members_of_rulesFor (h : rulesFor name rules = some inner) :
    ∃ fields, .members fields ∈ rules ∧ fields.lookup name = some inner := by
  induction rules with
  | nil => cases h
  | cons rule rules ih =>
    cases rule with
    | members fields => exact ⟨fields, .head _, h⟩
    | _ =>
      obtain ⟨fields, hfields, hname⟩ := ih h
      exact ⟨fields, .tail _ hfields, hname⟩

namespace Allowed

theorem met {rule : Rule} (h : Allowed rules v) (hrule : rule ∈ rules) : rule.Met v := h.checked.met hrule

theorem member (h : Allowed rules v) (hv : v.opened = .dict m) (hname : rulesFor name rules = some inner)
    (hw : Mapping.get? m (.str name) = some w) : Allowed inner w where
  checked := by
    obtain ⟨fields, hfields, hinner⟩ := exists_members_of_rulesFor hname
    have hmembers := h.met hfields
    rw [Rule.Met] at hmembers
    exact (hmembers m hv).allMet hinner hw
  bare := by
    obtain ⟨p, hp, rfl⟩ := Option.map_eq_some_iff.mp hw
    exact h.bare.part (.member .self hv (List.mem_of_find?_eq_some hp))

theorem item (h : Allowed rules v) {items : List Value} (hv : v.opened = .list items)
    (hinner : .items inner ∈ rules) (hw : w ∈ items) : Allowed inner w where
  checked := by
    have hitems := h.met hinner
    rw [Rule.Met] at hitems
    exact hitems items hv w hw
  bare := h.bare.part (.item .self hv hw)

theorem scalar {c : Scalar} (h : Allowed rules v) (hv : v.opened = .scalar c) : v = .scalar c :=
  h.bare v c .self hv

/-- A value is of the kind that was asked for, where that is a single one. -/
theorem shape {k : Kind} (h : Allowed rules v) (hkind : .kind [k] ∈ rules) : k.Shape v.opened := by
  have hkinds := h.met hkind
  rw [Rule.Met] at hkinds
  obtain ⟨k', hk', hshape⟩ := hkinds
  rwa [List.mem_singleton.mp hk'] at hshape

theorem exists_str (h : Allowed rules v) (hkind : .kind [.string] ∈ rules) : ∃ text, v = .str text := by
  obtain ⟨text, htext⟩ := h.shape hkind
  exact ⟨text, h.scalar htext⟩

theorem str_or_null (h : Allowed textOrNothing v) : v = .null ∨ ∃ text, v = .str text := by
  have hkinds := h.met (.head _)
  rw [Rule.Met] at hkinds
  obtain ⟨k, hk, hshape⟩ := hkinds
  rcases List.mem_pair.mp hk with rfl | rfl
  · obtain ⟨text, htext⟩ := hshape
    exact .inr ⟨text, h.scalar htext⟩
  · exact .inl (h.scalar hshape)

/-- A whole number converts, and it is not below one if that was asked for. -/
theorem exists_toInt (h : Allowed rules v) (hkind : .kind [.integer] ∈ rules) :
    ∃ n, v.toInt = .ok n ∧ (.least 1 ∈ rules → 1 ≤ n) := by
  have habove (hleast : .least 1 ∈ rules) : isBelow 1 v = false := by
    have hmet := h.met hleast
    rwa [Rule.Met] at hmet
  rcases h.shape hkind with ⟨n, hopened⟩ | ⟨x, hopened, hwhole⟩
  · obtain rfl := h.scalar hopened
    refine ⟨n, rfl, fun hleast => ?_⟩
    simpa [isBelow] using habove hleast
  · obtain rfl := h.scalar hopened
    cases hx : Number.Binary.ofFloat x with
    | nan => rw [hx] at hwhole; cases hwhole
    | infinite negative => rw [hx] at hwhole; cases hwhole
    | finite negative m e =>
      refine ⟨_, by simp only [Value.toInt, hx, Number.Binary.truncate?]; rfl, fun hleast => ?_⟩
      refine Number.one_le_truncate hx ?_ rfl
      simpa [isBelow] using habove hleast

/-- A word is one of those that were asked for. -/
theorem mem_words (h : Allowed rules (.str name)) {words : List String} (hwords : .oneOf words ∈ rules) :
    name ∈ words := by
  have hmet := h.met hwords
  rw [Rule.Met] at hmet
  obtain ⟨word, hword, heq⟩ := hmet
  cases heq
  exact hword

end Allowed

/-! ### What the settings read -/

/-- Whether something can be told. -/
def Given {α : Type} (r : Except Error α) : Prop := ∃ a, r = .ok a

theorem given_ok {α : Type} (a : α) : Given (.ok a) := ⟨a, rfl⟩

theorem Given.map {α β : Type} {r : Except Error α} (h : Given r) (f : α → β) : Given (r.map f) := by
  obtain ⟨a, rfl⟩ := h
  exact ⟨f a, rfl⟩

theorem Given.bind {α β : Type} {r : Except Error α} {next : α → Except Error β} (h : Given r)
    (hnext : ∀ a, r = .ok a → Given (next a)) : Given (r >>= next) := by
  obtain ⟨a, rfl⟩ := h
  exact hnext a rfl

theorem given_mapM {α β : Type} {f : α → Except Error β} {as : List α} (h : ∀ a ∈ as, Given (f a)) :
    Given (as.mapM f) := by
  induction as with
  | nil => exact given_ok []
  | cons a as ih =>
    rw [List.mapM_cons]
    refine (h a List.mem_cons_self).bind fun b _ => ?_
    exact (ih fun a ha => h a (List.mem_cons_of_mem _ ha)).bind fun bs _ => given_ok _

namespace Settings

variable {s : Settings} {fallback : Value}

/-- The texts of a configuration that are to be paths. -/
inductive IsPathText (s : Settings) : String → Prop
  | templates {v : Value} {items : List Value} {text : String}
    (hv : s.setting "templates" "paths" .null = .ok v) (hitems : v.opened = .list items) (htext : .str text ∈ items) :
    IsPathText s text
  | single {part key text : String}
    (hplace : (part, key) ∈ [("cache", "directory"), ("render", "dump_dir"), ("logging", "file")])
    (htext : s.setting part key .null = .ok (.str text)) : IsPathText s text

/-- The rules for a setting. -/
def rulesAt (part key : String) : Option (List Rule) := (rulesFor part schema).bind (rulesFor key)

/-- Each section has to be a mapping. -/
theorem kind_mem_of_rulesFor (h : rulesFor part schema = some rules) : .kind [.object] ∈ rules := by
  obtain ⟨before, after, hfields, -⟩ := List.lookup_eq_some_iff.mp h
  have hmem : (part, rules) ∈ before ++ (part, rules) :: after := by simp
  rw [← hfields] at hmem
  simp only [List.mem_cons, Prod.mk.injEq, List.not_mem_nil, or_false] at hmem
  rcases hmem with ⟨-, rfl⟩ | ⟨-, rfl⟩ | ⟨-, rfl⟩ | ⟨-, rfl⟩ <;> exact .head _

theorem exists_sectionOf (h : Allowed schema (.dict s.config)) (hpart : rulesFor part schema = some rules) :
    ∃ m, s.sectionOf part = .ok m ∧ ∀ key inner v, rulesFor key rules = some inner →
      Mapping.get? m (.str key) = some v → Allowed inner v := by
  unfold sectionOf
  cases hget : Mapping.get? s.config (.str part) with
  | none => exact ⟨[], rfl, nofun⟩
  | some w =>
    have hw := h.member rfl hpart hget
    obtain ⟨m, hm⟩ := hw.shape (kind_mem_of_rulesFor hpart)
    exact ⟨m, by simp only [Option.getD_some, hm], fun _ _ _ => hw.member hm⟩

/-- A setting is its default, or it keeps to its rules. -/
theorem exists_setting (h : Allowed schema (.dict s.config)) (part key : String) (hrules : rulesAt part key = some inner)
    (fallback : Value) : ∃ v, s.setting part key fallback = .ok v ∧ (v = fallback ∨ Allowed inner v) := by
  obtain ⟨rules, hpart, hkey⟩ := Option.bind_eq_some_iff.mp hrules
  obtain ⟨m, hm, hmembers⟩ := exists_sectionOf h hpart
  refine ⟨_, by rw [setting, hm]; rfl, ?_⟩
  cases hget : Mapping.get? m (.str key) with
  | none => exact .inl rfl
  | some v => exact .inr (hmembers key inner v hkey hget)

/-- What is no default is there whatever the default is. -/
theorem setting_of_ne (hv : s.setting part key fallback = .ok v) (hne : v ≠ fallback) (other : Value) :
    s.setting part key other = .ok v := by
  unfold setting at hv ⊢
  cases hm : s.sectionOf part with
  | error e => rw [hm] at hv; cases hv
  | ok m =>
    rw [hm] at hv
    cases hget : Mapping.get? m (.str key) with
    | none =>
      have : fallback = v := by simpa [hget] using Except.ok.inj hv
      exact absurd this.symm hne
    | some w =>
      have : w = v := by simpa [hget] using Except.ok.inj hv
      rw [this] at hget
      change Except.ok ((Mapping.get? m (.str key)).getD other) = _
      rw [hget]
      rfl

@[simp] theorem textOf_str (text : String) : textOf (.str text) = .ok text := by
  change Except.ok (String.ofList text.toList) = _
  rw [String.ofList_toList]

theorem text_eq_ok {fallback text : String} (hv : s.setting part key (.str fallback) = .ok (.str text)) :
    s.text part key fallback = .ok text := by
  rw [Settings.text, hv]
  exact textOf_str text

theorem exists_text (h : Allowed schema (.dict s.config)) (part key : String) (hrules : rulesAt part key = some inner)
    (hkind : .kind [.string] ∈ inner) (fallback : String) :
    ∃ text, s.setting part key (.str fallback) = .ok (.str text) ∧ s.text part key fallback = .ok text ∧
      (text = fallback ∨ Allowed inner (.str text)) := by
  obtain ⟨v, hv, rfl | hallowed⟩ := exists_setting h part key hrules (.str fallback)
  · exact ⟨fallback, hv, text_eq_ok hv, .inl rfl⟩
  · obtain ⟨text, rfl⟩ := hallowed.exists_str hkind
    exact ⟨text, hv, text_eq_ok hv, .inr hallowed⟩

theorem given_text (h : Allowed schema (.dict s.config)) (part key : String) (hrules : rulesAt part key = some inner)
    (hkind : .kind [.string] ∈ inner) (fallback : String) : Given (s.text part key fallback) := by
  obtain ⟨text, -, htext, -⟩ := exists_text h part key hrules hkind fallback
  exact ⟨text, htext⟩

theorem given_flag (h : Allowed schema (.dict s.config)) (part key : String) (hrules : rulesAt part key = some inner)
    (fallback : Bool) : Given (s.flag part key fallback) := by
  obtain ⟨v, hv, -⟩ := exists_setting h part key hrules (.bool fallback)
  exact Given.map ⟨v, hv⟩ _

theorem exists_whole (h : Allowed schema (.dict s.config)) (part key : String) (hrules : rulesAt part key = some inner)
    (hkind : .kind [.integer] ∈ inner) (fallback : Int) (hfallback : 1 ≤ fallback) :
    ∃ n, s.whole part key fallback = .ok n ∧ (.least 1 ∈ inner → 1 ≤ n) := by
  obtain ⟨v, hv, rfl | hallowed⟩ := exists_setting h part key hrules (.int fallback)
  · exact ⟨fallback, by rw [whole, hv]; rfl, fun _ => hfallback⟩
  · obtain ⟨n, hn, hleast⟩ := hallowed.exists_toInt hkind
    refine ⟨n, ?_, hleast⟩
    rw [whole, hv]
    exact hn

/-- A setting that may say nothing says nothing or something, and that is not the empty text. -/
theorem text?_cases (h : Allowed schema (.dict s.config)) (part key : String) (hrules : rulesAt part key = some textOrNothing) :
    s.text? part key = .ok none ∨
      ∃ text, s.setting part key .null = .ok (.str text) ∧ s.text? part key = .ok (some text) := by
  obtain ⟨v, hv, hcases⟩ := exists_setting h part key hrules .null
  have hkinds : v = .null ∨ ∃ text, v = .str text := hcases.elim .inl Allowed.str_or_null
  unfold text?
  rw [hv]
  rcases hkinds with rfl | ⟨text, rfl⟩
  · exact .inl rfl
  · by_cases htrue : (Value.str text).truthy = true
    · refine .inr ⟨text, rfl, ?_⟩
      simp only [bind, Except.bind, htrue, if_true, textOf_str]
      rfl
    · refine .inl ?_
      simp only [bind, Except.bind, if_neg htrue]
      rfl

/-- A path that does not lead to the home of an account is one of the project. -/
theorem given_resolve {text : String} (h : (Path.ofString text).leadsHome = false) : Given (s.resolve text) := by
  unfold resolve
  rw [Path.expandHome_of_not_leadsHome h]
  exact given_ok _

theorem given_path (h : Allowed schema (.dict s.config)) (part key : String) (hrules : rulesAt part key = some inner)
    (hkind : .kind [.string] ∈ inner) (fallback : String) (hfallback : (Path.ofString fallback).leadsHome = false)
    (hset : ∀ text, s.setting part key .null = .ok (.str text) → (Path.ofString text).leadsHome = false) :
    Given (s.text part key fallback >>= s.resolve) := by
  obtain ⟨text, hv, htext, -⟩ := exists_text h part key hrules hkind fallback
  rw [htext]
  refine given_resolve ?_
  by_cases heq : text = fallback
  · rw [heq, hfallback]
  · exact hset text (setting_of_ne hv (by simpa using heq) .null)

theorem eq_nil_of_not_truthy {items : List Value} (hv : v.opened = .list items) (hfalse : ¬v.truthy = true) :
    items = [] := by
  cases v with
  | list =>
    cases hv
    simpa [Value.truthy] using hfalse
  | knot g n =>
    simp only [Value.opened, Graph.opened] at hv
    simp only [Value.truthy] at hfalse
    cases hc : g.cell n with
    | list numbers =>
      rw [hc] at hv hfalse
      cases hv
      simpa [Cell.truthy] using hfalse
    | _ => rw [hc] at hv; cases hv
  | _ => cases hv

/-- The template directories are the items of a list. -/
theorem paths_eq (items : List Value) (hset : s.setting "templates" "paths" .null = .ok v)
    (hv : v.opened = .list items) : s.paths = items.mapM fun item => textOf item >>= s.resolve := by
  unfold paths
  rw [hset]
  change (if v.truthy = true then membersOf v >>= _ else _) = _
  split
  · rw [membersOf, hv]
    rfl
  · next hfalse =>
    rw [eq_nil_of_not_truthy hv hfalse]
    rfl

/-! ### Usable settings -/

/-- Whether every setting can be told, there can be a cache, and the number of passes is one. -/
structure IsUsable (s : Settings) : Prop where
  paths : Given s.paths
  extension : Given s.extension
  layoutsDir : Given s.layoutsDir
  componentsDir : Given s.componentsDir
  createMissing : Given s.createMissing
  maxIterations : ∃ n limit, s.maxIterations = .ok n ∧ Engine.limitOf n = .ok limit
  defaultLayout : Given s.defaultLayout
  cacheEnabled : Given s.cacheEnabled
  cacheStore : Given s.cacheStore
  cacheDirectory : Given s.cacheDirectory
  cacheNamespace : Given s.cacheNamespace
  cacheTtl : Given s.cacheTtl
  cache : Given (Cache.Renders.ofSettings s)
  dumpCompiled : Given s.dumpCompiled
  dumpDir : Given s.dumpDir
  logLevel : Given s.logLevel
  logFile : Given s.logFile

section

variable (h : Allowed schema (.dict s.config))
  (hpaths : ∀ text, s.IsPathText text → (Path.ofString text).leadsHome = false)

include h

/-- The words for stores name stores. -/
theorem exists_cacheStore : ∃ word, s.cacheStore = .ok word ∧
    ∀ path, Given (Cache.Store.ofName word (some path)) := by
  obtain ⟨text, -, htext, hcases⟩ := exists_text h "cache" "store" rfl (.head _) "filesystem"
  have hword : text ∈ ["filesystem", "memory"] := by
    rcases hcases with rfl | hallowed
    · exact .head _
    · exact hallowed.mem_words (.tail _ (.head _))
  refine ⟨String.ofList (Unicode.lower (Text.strip text.toList)), by rw [cacheStore, htext]; rfl, fun path => ?_⟩
  rw [List.mem_pair] at hword
  rcases hword with rfl | rfl
  · have hlower : Unicode.lower (Text.strip "filesystem".toList) = "filesystem".toList := by decide +kernel
    have hother : "filesystem".toList ≠ "memory".toList := by decide
    rw [hlower, String.ofList_toList, Cache.Store.ofName, hlower, if_neg hother, if_pos rfl]
    exact given_ok _
  · have hlower : Unicode.lower (Text.strip "memory".toList) = "memory".toList := by decide +kernel
    rw [hlower, String.ofList_toList, Cache.Store.ofName, hlower, if_pos rfl]
    exact given_ok _

include hpaths

theorem given_cacheDirectory : Given s.cacheDirectory :=
  given_path h "cache" "directory" rfl (.head _) ".modx/cache" (by decide +kernel)
    fun text htext => hpaths text (.single (by decide) htext)

theorem given_cache : Given (Cache.Renders.ofSettings s) := by
  obtain ⟨on, hon⟩ := given_flag h "cache" "enabled" rfl true
  obtain ⟨word, hword, hstore⟩ := exists_cacheStore h
  obtain ⟨path, hpath⟩ := given_cacheDirectory h hpaths
  obtain ⟨store, hstore⟩ := hstore path
  obtain ⟨space, hspace⟩ := given_text h "cache" "namespace" rfl (.head _) "template"
  obtain ⟨n, hn, -⟩ := exists_whole h "cache" "ttl" rfl (.head _) 3600 (by decide)
  change s.cacheEnabled = .ok on at hon
  change s.cacheNamespace = .ok space at hspace
  change s.cacheTtl = .ok n at hn
  unfold Cache.Renders.ofSettings
  rw [hon, hword, hpath, hspace, hn]
  cases on with
  | false => exact given_ok none
  | true =>
    change Given (Cache.Store.ofName word (some path) >>= _)
    rw [hstore]
    exact given_ok _

theorem given_dumpDir : Given s.dumpDir := by
  refine (given_flag h "render" "dump_compiled" rfl false).bind fun on _ => ?_
  cases on with
  | false => exact given_ok none
  | true =>
    obtain ⟨path, hpath⟩ := given_path h "render" "dump_dir" rfl (.head _) ".modx/compiled"
      (by decide +kernel) fun text htext => hpaths text (.single (by decide) htext)
    exact ⟨some path, by rw [if_pos rfl, ← bind_assoc, hpath]; rfl⟩

theorem given_logFile : Given s.logFile := by
  unfold logFile
  rcases text?_cases h "logging" "file" rfl with hnone | ⟨text, hset, hsome⟩
  · rw [hnone]
    exact given_ok none
  · obtain ⟨path, hpath⟩ := given_resolve (s := s) (hpaths text (.single (by decide) hset))
    exact ⟨some path, by rw [hsome]; change s.resolve text >>= _ = _; rw [hpath]; rfl⟩

theorem given_paths : Given s.paths := by
  obtain ⟨v, hv, rfl | hallowed⟩ := exists_setting h "templates" "paths" rfl .null
  · exact ⟨[], by rw [paths, hv]; rfl⟩
  · obtain ⟨items, hitems⟩ := hallowed.shape (.head _)
    rw [paths_eq items hv hitems]
    refine given_mapM fun item hmem => ?_
    obtain ⟨text, rfl⟩ := (hallowed.item hitems (.tail _ (.head _)) hmem).exists_str (.head _)
    rw [textOf_str]
    exact given_resolve (hpaths text (.templates hv hitems hmem))

/-- Settings that keep to the schema can be used, if none of their paths leads to the home of an account. -/
theorem isUsable_of_allowed : s.IsUsable where
  paths := given_paths h hpaths
  extension := given_text h "templates" "extension" rfl (.head _) ".modx"
  layoutsDir := given_text h "templates" "layouts_dir" rfl (.head _) "layouts"
  componentsDir := given_text h "templates" "components_dir" rfl (.head _) "components"
  createMissing := given_flag h "templates" "create_missing" rfl false
  maxIterations := by
    obtain ⟨n, hn, hleast⟩ := exists_whole h "templates" "max_iterations" rfl (.head _)
      100 (by decide)
    have hone : 1 ≤ n := hleast (.tail _ (.head _))
    exact ⟨n, n.toNat, hn, by rw [Engine.limitOf, if_neg (by omega)]⟩
  defaultLayout := by
    rcases text?_cases h "templates" "default_layout" rfl with hnone | ⟨text, -, hsome⟩
    · exact ⟨none, hnone⟩
    · exact ⟨some text, hsome⟩
  cacheEnabled := given_flag h "cache" "enabled" rfl true
  cacheStore := (exists_cacheStore h).imp fun _ hword => hword.1
  cacheDirectory := given_cacheDirectory h hpaths
  cacheNamespace := given_text h "cache" "namespace" rfl (.head _) "template"
  cacheTtl := by
    obtain ⟨n, hn, -⟩ := exists_whole h "cache" "ttl" rfl (.head _) 3600 (by decide)
    exact ⟨n, hn⟩
  cache := given_cache h hpaths
  dumpCompiled := given_flag h "render" "dump_compiled" rfl false
  dumpDir := given_dumpDir h hpaths
  logLevel := (given_text h "logging" "level" rfl (.head _) "WARNING").map _
  logFile := given_logFile h hpaths

end

end Settings

end Config

end Stencil
