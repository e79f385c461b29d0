import Stencil.Proofs.Cache.Key
import Stencil.Proofs.Engine.Uncached

/-! An engine with a cache in memory answers as it would without one, through any calls, if and only if
the keys of the cache tell apart what has to be told apart. Its data is written to JSON for a key, so
that the numbers in it must not be too long, nor the data too deep; and of a name a key keeps letters, digits and a few marks,
so that pages with the same data and layout must not differ if their names are alike in the rest. -/
namespace Stencil

/-- A page asked for, with the data and the layout that it is asked for with. -/
structure Request where
  name : String
  data : Mapping
  layout : Option String

namespace Request

/-- What the fingerprint of a request is taken of. -/
def bytes (r : Request) : List UInt8 :=
  Cache.fingerprintBytes (.dict r.data) (r.layout.getD "").toList

/-- The fingerprint of a request. -/
def print (r : Request) : String := String.ofList (Digest.hexText (Digest.sha256 r.bytes))

/-- Where the render of a request is kept. -/
def key (space : String) (r : Request) : String := Cache.renderKey space r.name r.print

/-- Requests with the same data and layout, and with names of which keys keep the same. No layout is as
good as an empty one. -/
structure Alike (r r' : Request) : Prop where
  name : Cache.sanitize r.name.toList = Cache.sanitize r'.name.toList
  data : r.data = r'.data
  layout : r.layout.getD "" = r'.layout.getD ""

theorem Alike.key_eq {r r' : Request} (h : r.Alike r') (space : String) : r.key space = r'.key space := by
  unfold key print bytes
  rw [h.data, h.layout]
  exact Cache.renderKey_congr h.name space _

/-- Only such requests have one key, unless two digests are equal that should not be. -/
theorem alike_of_key_eq {r r' : Request} {space : String}
    (hr : Json.isPlain (.dict r.data) = true) (hr' : Json.isPlain (.dict r'.data) = true)
    (hdigest : Digest.sha256 r.bytes = Digest.sha256 r'.bytes → r.bytes = r'.bytes)
    (h : r.key space = r'.key space) : r.Alike r' := by
  obtain ⟨hname, hsha⟩ := Cache.renderKey_cancel (by simp) h
  obtain ⟨hdata, hsalt⟩ := Cache.fingerprintBytes_cancel hr hr' (hdigest hsha)
  exact ⟨hname, (Value.dict.inj hdata), String.toList_inj.mp hsalt⟩

end Request

namespace Engine

/-- What an engine is asked for when it renders a page. -/
def request (e : Engine) (name : String) : Request := ⟨name, e.data, e.layout⟩

/-- The answer to a request that comes from no cache. -/
def fresh (e : Engine) (r : Request) (s : Session) : Except Error String :=
  ({ e with data := r.data, layout := r.layout }.renderAfresh r.name).outcome s

/-- The answer depends on a layout only by its name. -/
theorem fresh_congr (e : Engine) {r r' : Request} (hname : r.name = r'.name) (hdata : r.data = r'.data)
    (hlayout : r.layout.getD "" = r'.layout.getD "") (s : Session) : e.fresh r s = e.fresh r' s := by
  obtain ⟨name, data, layout⟩ := r
  obtain ⟨name', data', layout'⟩ := r'
  obtain rfl : name = name' := hname
  obtain rfl : data = data' := hdata
  exact congrArg (fun step => Act.outcome step s)
    (renderAfresh_withLayout { e with data := data } name hlayout)

/-- What rendering a page gives to the caller. -/
def answer (e : Engine) (name : String) (lifetime : Option Cache.Lifetime) (s : Session) :
    Except Error String :=
  match e.render name lifetime s with
  | .ok (outcome, _) _ => outcome
  | .error err _ => .error err

theorem answer_uncached (e : Engine) (name : String) (lifetime : Option Cache.Lifetime) (s : Session) :
    { e with cache := none }.answer name lifetime s = e.fresh (e.request name) s := by
  obtain ⟨s', h⟩ := Act.exists_attempt ({ e with cache := none }.renderAfresh name) s
  have hrender : { e with cache := none }.render name lifetime s =
      .ok (({ e with cache := none }.renderAfresh name).outcome s, { e with cache := none }) s' :=
    Act.run_bind_ok h
  unfold answer
  rw [hrender]
  rfl

section Caching

variable (base : Engine) (space : String) (lifetime : Option Cache.Lifetime)

/-- The engine with some data, a layout, and a cache with these entries. -/
def holding (m : Cache.Memory) (data : Mapping) (layout : Option String) : Engine :=
  { base with data, layout, cache := some { store := .memory m, space, lifetime } }

variable {base space lifetime} {m : Cache.Memory} {data : Mapping} {layout : Option String}

/-- An engine whose data cannot be written as JSON renders nothing. -/
theorem render_of_fault {f : Json.WriteFault} (h : Json.fault? (.dict data) = some f) (name : String)
    (own : Option Cache.Lifetime) (s : Session) :
    (base.holding space lifetime m data layout).render name own s =
      .error (.ofWriteFault true f) s := by
  have hprint : Act.ofExcept (Cache.fingerprint (.dict data) (layout.getD "")) s =
      .error (.ofWriteFault true f) s := by
    rw [Cache.fingerprint, h]
    rfl
  exact Act.run_bind_error hprint

/-- Otherwise the cache is asked under the key of the request. -/
theorem render_of_writable (h : Json.fault? (.dict data) = none) (name : String)
    (own : Option Cache.Lifetime) {answer : Except Error String} {m' : Cache.Memory} {s s' : Session}
    (hcache : Cache.Renders.render ⟨.memory m, space, lifetime⟩ name
      (Request.print ⟨name, data, layout⟩)
      ((base.holding space lifetime m data layout).renderAfresh name) own s =
        .ok (answer, ⟨.memory m', space, lifetime⟩) s') :
    (base.holding space lifetime m data layout).render name own s =
      .ok (answer, base.holding space lifetime m' data layout) s' := by
  have hprint : Act.ofExcept (Cache.fingerprint (.dict data) (layout.getD "")) s =
      .ok (Request.print ⟨name, data, layout⟩) s := by
    rw [Cache.fingerprint, h]
    rfl
  exact (Act.run_bind_ok hprint).trans (Act.run_bind_ok hcache)

theorem clearCache_holding (m : Cache.Memory) (data : Mapping) (layout : Option String)
    (name : Option String) (s : Session) :
    ∃ cleared m' s', (base.holding space lifetime m data layout).clearCache name s =
        .ok (cleared, base.holding space lifetime m' data layout) s' ∧
      ∀ p ∈ m'.entries, p ∈ m.entries := by
  obtain ⟨cleared, m', s', hclear, hentries⟩ := Cache.Renders.clear_memory m space lifetime name s
  exact ⟨cleared, m', s', Act.run_bind_ok hclear, hentries⟩

/-! ### Runs -/

variable {S : Session → Prop} {R : Request → Prop} {s s' : Session}

theorem Steady.fresh_eq (h : base.Steady S) (hs : S s) (hs' : S s') (r : Request) :
    base.fresh r s = base.fresh r s' := by
  have hr : { base with data := r.data, layout := r.layout }.Steady S := ⟨h.log, h.library, h.dump⟩
  exact hr.outcome_renderAfresh hs hs' r.name

variable (base space S R) in
/-- Every entry answers a request under whose key it stands. -/
def Sound (m : Cache.Memory) : Prop :=
  ∀ p ∈ m.entries, ∃ r, R r ∧ Json.fault? (.dict r.data) = none ∧ p.1 = r.key space ∧
    ∀ s, S s → base.fresh r s = .ok p.2.value

/-- A render leaves the entries sound. It gives the answer to a request with the same key, or its own,
unless that cannot be kept. -/
theorem Sound.render (hsteady : base.Steady S) (hm : base.Sound space S R m) (hs : S s) {name : String}
    (hr : R ⟨name, data, layout⟩) (hdata : Json.fault? (.dict data) = none)
    (own : Option Cache.Lifetime) :
    ∃ answer m' s', (base.holding space lifetime m data layout).render name own s =
        .ok (answer, base.holding space lifetime m' data layout) s' ∧
      base.Sound space S R m' ∧
      ((∃ r, R r ∧ Json.fault? (.dict r.data) = none ∧ r.key space = Request.key space ⟨name, data, layout⟩ ∧
          ∃ text, base.fresh r s = .ok text ∧ answer = .ok text) ∨
        answer = base.fresh ⟨name, data, layout⟩ s ∨ ¬Cache.CanExpire (own.or lifetime)) := by
  obtain ⟨answer, m', s', hcache, hentries, hanswer⟩ := Cache.Renders.render_memory m space name
    (Request.print ⟨name, data, layout⟩) lifetime own
    ((base.holding space lifetime m data layout).renderAfresh name) s
  have hmissed (s' : Session) (hs' : S s') :
      base.fresh ⟨name, data, layout⟩ s' = base.fresh ⟨name, data, layout⟩ (Cache.Renders.missed s space name
        (Request.print ⟨name, data, layout⟩)) :=
    hsteady.fresh_eq hs' (hsteady.log hs _) _
  refine ⟨answer, m', s', render_of_writable hdata name own hcache, fun p hp => ?_, ?_⟩
  · rcases hentries p hp with hold | ⟨hkey, hvalue⟩
    · exact hm p hold
    · exact ⟨_, hr, hdata, hkey, fun s' hs' => (hmissed s' hs').trans hvalue⟩
  · rcases hanswer with ⟨kept, hkept, rfl⟩ | rfl | hexpire
    · obtain ⟨r, hR, hfault, hkey, hfresh⟩ := hm _ hkept
      exact .inl ⟨r, hR, hfault, hkey.symm, kept.value, hfresh s hs, rfl⟩
    · exact .inr (.inl (hmissed s hs).symm)
    · exact .inr (.inr hexpire)

variable (base space lifetime S R) in
/-- The engines and sessions to which calls lead from an engine with an empty cache in memory. Pages are
rendered in sessions of `S` and for requests of `R`. Between calls the session may become any other; the
clock may stand still, go on or go back. A render that throws changes no more than the session. -/
inductive Reaches : Engine → Session → Prop
  | start (data : Mapping) (layout : Option String) (s : Session) :
    Reaches (base.holding space lifetime {} data layout) s
  | elsewhere {e : Engine} {s : Session} (s' : Session) : Reaches e s → Reaches e s'
  | set {e : Engine} {s : Session} (key : String) (v : Value) : Reaches e s → Reaches (e.set key v) s
  | withData {e : Engine} {s : Session} (data : Mapping) : Reaches e s → Reaches (e.withData data) s
  | withLayout {e : Engine} {s : Session} (layout : Option String) :
    Reaches e s → Reaches (e.withLayout layout) s
  | render {e e' : Engine} {s s' : Session} {name : String} {own : Option Cache.Lifetime}
    {answer : Except Error String} (hs : S s) (hr : R (e.request name))
    (hrender : e.render name own s = .ok (answer, e') s') : Reaches e s → Reaches e' s'
  | clearCache {e e' : Engine} {s s' : Session} {name : Option String} {cleared : Bool}
    (hclear : e.clearCache name s = .ok (cleared, e') s') : Reaches e s → Reaches e' s'

/-- Every call leaves the engine as it was set up, but for its data and layout, with sound entries. -/
theorem Reaches.sound (hsteady : base.Steady S) {e : Engine} (h : Reaches base space lifetime S R e s) :
    ∃ m data layout, e = base.holding space lifetime m data layout ∧ base.Sound space S R m := by
  induction h with
  | start data layout s => exact ⟨{}, data, layout, rfl, fun p hp => nomatch hp⟩
  | elsewhere s' _ ih => exact ih
  | set key v _ ih =>
    obtain ⟨m, data, layout, rfl, hm⟩ := ih
    exact ⟨m, _, layout, rfl, hm⟩
  | withData later _ ih =>
    obtain ⟨m, data, layout, rfl, hm⟩ := ih
    exact ⟨m, _, layout, rfl, hm⟩
  | withLayout layout _ ih =>
    obtain ⟨m, data, _, rfl, hm⟩ := ih
    exact ⟨m, data, layout, rfl, hm⟩
  | @render e e' s s' name own answer hs hr hrender _ ih =>
    obtain ⟨m, data, layout, rfl, hm⟩ := ih
    cases hfault : Json.fault? (.dict data) with
    | some f =>
      rw [render_of_fault hfault] at hrender
      cases hrender
    | none =>
      have hrequest : R ⟨name, data, layout⟩ := hr
      obtain ⟨answer, m', s', hstep, hm', -⟩ := hm.render hsteady hs hrequest hfault own
      rw [hstep] at hrender
      cases hrender
      exact ⟨m', data, layout, rfl, hm'⟩
  | clearCache hclear _ ih =>
    obtain ⟨m, data, layout, rfl, hm⟩ := ih
    obtain ⟨cleared, m', s', hstep, hentries⟩ := clearCache_holding m data layout _ _
    rw [hstep] at hclear
    cases hclear
    exact ⟨m', data, layout, rfl, fun p hp => hm p (hentries p hp)⟩

/-! ### When the cache cannot be noticed -/

variable (base S R) in
/-- What a cache asks of the requests that it gets. Data that cannot be written as JSON makes the page
fail with just that complaint, and pages with different names that are alike for the cache have the
same text. -/
structure Cacheable : Prop where
  writable : ∀ {s r fault}, S s → R r → Json.fault? (.dict r.data) = some fault →
    base.fresh r s = .error (.ofWriteFault true fault)
  alike : ∀ {s r r' text}, S s → R r → R r' → r.name ≠ r'.name → r.Alike r' →
    Json.fault? (.dict r.data) = none → base.fresh r s = .ok text → base.fresh r' s = .ok text

variable (base space lifetime S R) in
/-- However an engine with a cache was used, rendering gives the caller what it would give without the
cache: the same text or the same error. How long the render is to be kept must be of some meaning. -/
def Transparent : Prop :=
  ∀ e s name own, base.Reaches space lifetime S R e s → S s → R (e.request name) →
    Cache.CanExpire (own.or lifetime) → e.answer name own s = { e with cache := none }.answer name own s

theorem answer_of_render {e e' : Engine} {name : String} {own : Option Cache.Lifetime}
    {answer : Except Error String} (h : e.render name own s = .ok (answer, e') s') :
    e.answer name own s = answer := by
  unfold Engine.answer
  rw [h]

theorem answer_of_throw {e : Engine} {name : String} {own : Option Cache.Lifetime} {err : Error}
    (h : e.render name own s = .error err s') : e.answer name own s = .error err := by
  unfold Engine.answer
  rw [h]

/-- The complaint about data that cannot be written. -/
theorem answer_of_fault {f : Json.WriteFault} (hfault : Json.fault? (.dict data) = some f) (name : String)
    (own : Option Cache.Lifetime) :
    (base.holding space lifetime m data layout).answer name own s = .error (.ofWriteFault true f) :=
  answer_of_throw (render_of_fault hfault name own s)

theorem Cacheable.transparent (hsteady : base.Steady S)
    (hplain : ∀ r, R r → Json.isPlain (.dict r.data) = true)
    (hdigest : ∀ r r', R r → R r' → Digest.sha256 r.bytes = Digest.sha256 r'.bytes → r.bytes = r'.bytes)
    (h : base.Cacheable S R) : base.Transparent space lifetime S R := by
  intro e s name own hreach hs hr hexpire
  obtain ⟨m, data, layout, rfl, hm⟩ := hreach.sound hsteady
  have hR : R ⟨name, data, layout⟩ := hr
  rw [answer_uncached]
  change _ = base.fresh ⟨name, data, layout⟩ s
  cases hfault : Json.fault? (.dict data) with
  | none =>
    obtain ⟨answer, m', s', hrender, -, hanswer⟩ := hm.render hsteady hs hR hfault own
    rw [answer_of_render hrender]
    rcases hanswer with ⟨r, hRr, hr_fault, hkey, text, htext, rfl⟩ | hown | hnever
    · have halike : r.Alike ⟨name, data, layout⟩ :=
        Request.alike_of_key_eq (hplain r hRr) (hplain _ hR) (hdigest r _ hRr hR) hkey
      by_cases hname : r.name = name
      · rw [← htext]
        exact base.fresh_congr hname halike.data halike.layout s
      · exact (h.alike hs hRr hR hname halike hr_fault htext).symm
    · exact hown
    · exact absurd hexpire hnever
  | some f => rw [answer_of_fault hfault, h.writable hs hR hfault]

/-- The text of a request, once kept, is the answer to a request that is alike. -/
theorem Transparent.alike (hsteady : base.Steady S) (h : base.Transparent space lifetime S R)
    {r r' : Request} {text : String} (hs : S s) (hR : R r) (hR' : R r') (halike : r.Alike r')
    (hfault : Json.fault? (.dict r.data) = none) (htext : base.fresh r s = .ok text) :
    base.fresh r' s = .ok text := by
  obtain ⟨name, data, layout⟩ := r
  obtain ⟨name', data', layout'⟩ := r'
  obtain rfl : data = data' := halike.data
  -- the first render leaves its text under the key, for good
  have hmissed : base.fresh ⟨name, data, layout⟩ (Cache.Renders.missed s space name
      (Request.print ⟨name, data, layout⟩)) = .ok text :=
    (hsteady.fresh_eq (hsteady.log hs _) hs _).trans htext
  obtain ⟨s₁, hcache⟩ :=
    Cache.Renders.render_empty space lifetime (ne_empty_of_renderAfresh htext) hmissed
  have hfirst := render_of_writable hfault name (some (.whole 0)) hcache
  have hreach : base.Reaches space lifetime S R (base.holding space lifetime _ data layout') s :=
    .withLayout layout' (.elsewhere s (.render hs hR hfirst (.start data layout s)))
  -- the second one finds it there
  have hkey : Request.key space ⟨name, data, layout⟩ = Request.key space ⟨name', data, layout'⟩ :=
    halike.key_eq space
  unfold Request.key at hkey
  rw [hkey] at hreach
  obtain ⟨s₂, hkept⟩ := Cache.Renders.render_kept space name' _ text lifetime (some (.whole 0))
    ((base.holding space lifetime _ data layout').renderAfresh name') s
  have hanswer := h _ s name' (some (.whole 0)) hreach hs hR' Cache.canExpire_never
  rw [answer_uncached, answer_of_render (render_of_writable hfault name' _ hkept)] at hanswer
  exact hanswer.symm

/-- A cache in memory cannot be noticed exactly if the requests are fit for it, as long as nothing changes
the templates and no two of the requests have one digest by chance. -/
theorem transparent_iff_cacheable (hsteady : base.Steady S)
    (hplain : ∀ r, R r → Json.isPlain (.dict r.data) = true)
    (hdigest : ∀ r r', R r → R r' → Digest.sha256 r.bytes = Digest.sha256 r'.bytes → r.bytes = r'.bytes) :
    base.Transparent space lifetime S R ↔ base.Cacheable S R := by
  refine ⟨fun h => ⟨fun {s r f} hs hR hfault => ?_, fun hs hR hR' _ => h.alike hsteady hs hR hR'⟩,
    fun h => h.transparent hsteady hplain hdigest⟩
  have hanswer := h _ s r.name (some (.whole 0)) (.start r.data r.layout s) hs hR Cache.canExpire_never
  rw [answer_uncached, answer_of_fault hfault] at hanswer
  exact hanswer.symm

end Caching

/-- A page, and another one in a directory. -/
def siteFiles : FileTree :=
  { entries :=
      [(["t"], .directory), (["t", "a"], .directory),
        (["t", "page.modx"], .file (Text.Utf8.encode "<: title :>".toList) 1 1),
        (["t", "a", "b.modx"], .file (Text.Utf8.encode ['A']) 2 2)]
    stamp := 3 }

/-- An engine that finds its templates in the directory `t`. -/
def siteEngine : Engine := { locator := { paths := [Path.ofList ['t']] } }

/-- Requests for one page with several data and layouts, and for another page. -/
def siteRequests : List Request :=
  [⟨"page", [(.str "title", .str "Hi")], none⟩, ⟨"page", [(.str "title", .str "Ho")], none⟩,
    ⟨"page", [(.str "title", .str "Hi")], some "main"⟩, ⟨"a/b", [(.str "title", .str "Hi")], none⟩]

/-- Names that keys tell apart. -/
theorem transparent_iff_cacheable_site :
    siteEngine.Steady (Unlogged siteFiles []) ∧
    (∀ r ∈ siteRequests, Json.isPlain (.dict r.data) = true) ∧
    (∀ r ∈ siteRequests, ∀ r' ∈ siteRequests,
      Digest.sha256 r.bytes = Digest.sha256 r'.bytes → r.bytes = r'.bytes) ∧
    siteEngine.Transparent "template" (some (.whole 3600)) (Unlogged siteFiles []) (· ∈ siteRequests) := by
  have hsteady : siteEngine.Steady (Unlogged siteFiles []) := steady_unlogged siteFiles [] rfl
  have hplain : ∀ r ∈ siteRequests, Json.isPlain (.dict r.data) = true := by decide
  have hdigest : ∀ r ∈ siteRequests, ∀ r' ∈ siteRequests,
      Digest.sha256 r.bytes = Digest.sha256 r'.bytes → r.bytes = r'.bytes := by decide +kernel
  refine ⟨hsteady, hplain, hdigest, (transparent_iff_cacheable hsteady hplain
    fun r r' hr hr' => hdigest r hr r' hr').mpr ⟨fun hs hr hfault => ?_, fun hs hr hr' hne halike => ?_⟩⟩
  · have hnone : ∀ r ∈ siteRequests, Json.fault? (.dict r.data) = none := by decide +kernel
    cases (hnone _ hr).symm.trans hfault
  · have hnames : ∀ r ∈ siteRequests, ∀ r' ∈ siteRequests, r.name ≠ r'.name →
        Cache.sanitize r.name.toList ≠ Cache.sanitize r'.name.toList := by decide
    exact absurd halike.name (hnames _ hr _ hr' hne)

end Engine

end Stencil
