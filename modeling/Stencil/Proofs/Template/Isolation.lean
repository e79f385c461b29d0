import Stencil.Proofs.Template.Growth

/-! Scopes as objects. The scope of a text is an object in memory that refers to its data and to the set of the names
that loops bind; both can be changed in place, and several objects may refer to one and the same. Here texts are
expanded with such objects: a loop adds its names to the set where it is, and the body of a component is given a new
object with copies of both. That comes to the same as expansion with scopes as values, and whatever a component does,
at whatever depth, it changes nothing that was in memory before it. -/
namespace Stencil.Template

open Text (Piece)

/-! ### Memory -/

/-- A scope as an object. -/
structure ScopeObject where
  templateName : String
  /-- The place of its data. -/
  data : Nat
  /-- The place of the set of names that loops bind. -/
  loopNames : Nat
  processed : List String
  depth : Nat
  layout : Option String

/-- All scopes, all data and all sets of names, each in its place. -/
structure Memory where
  scopes : List ScopeObject := []
  data : List Mapping := []
  nameSets : List (List String) := []

namespace Memory

variable {m m' m'' : Memory} {a b : Nat} {s s' : Scope} {but : Option Nat}

/-- What the scope at a place comes to. -/
def scope? (m : Memory) (a : Nat) : Option Scope := do
  let o ← m.scopes[a]?
  let data ← m.data[o.data]?
  let loopNames ← m.nameSets[o.loopNames]?
  return ⟨o.templateName, data, loopNames, o.processed, o.depth, o.layout⟩

/-- The place of the names that the scope at a place binds. -/
def setOf (m : Memory) (a : Nat) : Option Nat := m.scopes[a]?.map ScopeObject.loopNames

/-- The scope at a place changed, with all that it refers to. -/
def put (m : Memory) (a : Nat) (s : Scope) : Memory :=
  match m.scopes[a]? with
  | none => m
  | some o =>
    { scopes := m.scopes.set a ⟨s.templateName, o.data, o.loopNames, s.processed, s.depth, s.layout⟩
      data := m.data.set o.data s.data
      nameSets := m.nameSets.set o.loopNames s.loopNames }

/-- A new scope, with data and names of its own. -/
def add (m : Memory) (s : Scope) : Memory where
  scopes := m.scopes ++ [⟨s.templateName, m.data.length, m.nameSets.length, s.processed, s.depth, s.layout⟩]
  data := m.data ++ [s.data]
  nameSets := m.nameSets ++ [s.loopNames]

/-- A scope is an object with all that it refers to. -/
theorem scope?_eq_some_iff :
    m.scope? a = some s ↔ ∃ data loopNames,
      m.scopes[a]? = some ⟨s.templateName, data, loopNames, s.processed, s.depth, s.layout⟩ ∧
        m.data[data]? = some s.data ∧ m.nameSets[loopNames]? = some s.loopNames := by
  constructor
  · intro hs
    obtain ⟨o, ho, hs⟩ := Option.bind_eq_some_iff.mp hs
    obtain ⟨data, hdata, hs⟩ := Option.bind_eq_some_iff.mp hs
    obtain ⟨names, hnames, hs⟩ := Option.bind_eq_some_iff.mp hs
    obtain rfl := Option.some.inj hs
    exact ⟨o.data, o.loopNames, ho, hdata, hnames⟩
  · rintro ⟨data, loopNames, ho, hdata, hnames⟩
    simp [scope?, ho, hdata, hnames]

/-- Whether all that is in memory stays as it is, apart from one set of names at most. -/
structure Keeps (m m' : Memory) (but : Option Nat) : Prop where
  scopes : ∀ {i : Nat} {o}, m.scopes[i]? = some o → m'.scopes[i]? = some o
  data : ∀ {i : Nat} {d}, m.data[i]? = some d → m'.data[i]? = some d
  nameSets : ∀ {i : Nat} {names}, m.nameSets[i]? = some names → but ≠ some i → m'.nameSets[i]? = some names

namespace Keeps

theorem refl (m : Memory) (but : Option Nat) : m.Keeps m but :=
  ⟨fun h => h, fun h => h, fun h _ => h⟩

theorem trans (h : m.Keeps m' but) (h' : m'.Keeps m'' but) : m.Keeps m'' but where
  scopes hi := h'.scopes (h.scopes hi)
  data hi := h'.data (h.data hi)
  nameSets hi hne := h'.nameSets (h.nameSets hi hne) hne

theorem mono (h : m.Keeps m' none) (but : Option Nat) : m.Keeps m' but :=
  { h with nameSets := fun hi _ => h.nameSets hi nofun }

/-- A scope is what it was. -/
theorem scope? (h : m.Keeps m' none) (hs : m.scope? a = some s) : m'.scope? a = some s := by
  obtain ⟨data, names, ho, hdata, hnames⟩ := scope?_eq_some_iff.mp hs
  exact scope?_eq_some_iff.mpr ⟨data, names, h.scopes ho, h.data hdata, h.nameSets hnames nofun⟩

/-- A scope binds its names where it did. -/
theorem setOf_eq (h : m.Keeps m' but) (hs : m.scope? a = some s) : m'.setOf a = m.setOf a := by
  obtain ⟨data, names, ho, -⟩ := scope?_eq_some_iff.mp hs
  rw [setOf, setOf, ho, h.scopes ho]

/-- A new scope takes no place of an old one. -/
theorem add (m : Memory) (s : Scope) : m.Keeps (m.add s) none where
  scopes hi := by
    obtain ⟨hlt, -⟩ := List.getElem?_eq_some_iff.mp hi
    rwa [Memory.add, List.getElem?_append_left hlt]
  data hi := by
    obtain ⟨hlt, -⟩ := List.getElem?_eq_some_iff.mp hi
    rwa [Memory.add, List.getElem?_append_left hlt]
  nameSets hi _ := by
    obtain ⟨hlt, -⟩ := List.getElem?_eq_some_iff.mp hi
    rwa [Memory.add, List.getElem?_append_left hlt]

/-- What changes no more than the names of a new scope changes nothing that was there before it. -/
theorem of_add (h : (m.add s).Keeps m' (some m.nameSets.length)) : m.Keeps m' none where
  scopes hi := h.scopes ((add m s).scopes hi)
  data hi := h.data ((add m s).data hi)
  nameSets hi _ := by
    obtain ⟨hlt, -⟩ := List.getElem?_eq_some_iff.mp hi
    refine h.nameSets ((add m s).nameSets hi nofun) fun heq => ?_
    rw [Option.some.inj heq] at hlt
    exact absurd hlt (Nat.lt_irrefl _)

end Keeps

theorem scope?_add (m : Memory) (s : Scope) : (m.add s).scope? m.scopes.length = some s := by
  simp [scope?, add]

theorem setOf_add (m : Memory) (s : Scope) : (m.add s).setOf m.scopes.length = some m.nameSets.length := by
  simp [setOf, add]

/-- Names that loops bind are put into the set of the scope, and nothing else changes. -/
theorem put_of_binds (hs : m.scope? a = some s) (hbinds : s.Binds s') :
    m.Keeps (m.put a s') (m.setOf a) ∧ (m.put a s').scope? a = some s' := by
  obtain ⟨names, rfl⟩ := hbinds
  obtain ⟨data, set, ho, hdata, hset⟩ := scope?_eq_some_iff.mp hs
  have hscopes : m.scopes.set a ⟨s.templateName, data, set, s.processed, s.depth, s.layout⟩ = m.scopes := by
    obtain ⟨ha, heq⟩ := List.getElem?_eq_some_iff.mp ho
    rw [← heq, List.set_getElem_self]
  have hkept : m.data.set data s.data = m.data := by
    obtain ⟨hd, heq⟩ := List.getElem?_eq_some_iff.mp hdata
    rw [← heq, List.set_getElem_self]
  have hput : m.put a (s.bindLoop names) =
      { m with nameSets := m.nameSets.set set (s.bindLoop names).loopNames } := by
    simp only [put, ho, Scope.bindLoop, hscopes, hkept]
  obtain ⟨hlt, -⟩ := List.getElem?_eq_some_iff.mp hset
  rw [hput, setOf, ho]
  refine ⟨⟨fun hi => hi, fun hi => hi, fun hi hne => ?_⟩, scope?_eq_some_iff.mpr ⟨data, set, ho, hdata, ?_⟩⟩
  · rwa [List.getElem?_set_ne fun heq => hne (congrArg some heq)]
  · exact List.getElem?_set_self hlt

end Memory

/-! ### Expansion with objects -/

/-- Memory, and what an expansion leaves behind. -/
structure World where
  memory : Memory
  trace : Trace

/-- A step of an expansion with objects. -/
abbrev Machine := EStateM Error World

namespace Machine

variable {α : Type}

/-- A step that looks at no object. -/
def onTrace (x : Expansion α) : Machine α := fun w =>
  match x w.trace with
  | .ok out t => .ok out { w with trace := t }
  | .error e t => .error e { w with trace := t }

/-- What the scope at a place comes to. -/
def look (a : Nat) : Machine Scope := fun w => .ok ((w.memory.scope? a).getD { templateName := "" }) w

/-- A new scope. -/
def create (s : Scope) : Machine Nat := fun w =>
  .ok w.memory.scopes.length { w with memory := w.memory.add s }

/-- A step that changes the scope at a place. -/
def inPlace (a : Nat) (step : Scope → Expansion (Scope × α)) : Machine α := do
  let s ← look a
  let (s, out) ← onTrace (step s)
  modify fun w => { w with memory := w.memory.put a s }
  return out

/-- The text for one use of a component. -/
def includeComponent (lib : Library) (expand : Nat → List Char → Machine (List Char)) (a : Nat)
    (use : Directive.ComponentUse) : Machine (List Char) := do
  let s ← look a
  if s.processed.contains use.name then
    onTrace (note (.selfInclusion use.name))
    onTrace (reporting fun r => { r with componentsSkipped := r.componentsSkipped ++ [use.name] })
    return recursionMarker use.name
  else
    let (_, source) ← onTrace (lib.load .component use.name)
    let items := lexProps use.props
    onTrace (reportFragments use.name (fragments items))
    let bound ← onTrace (bindProps s {} (props items))
    let child ← create (s.child use.name bound.values)
    let body ← expand child source
    onTrace (reporting fun r => { r with componentsIncluded := r.componentsIncluded ++ [use.name] })
    return wrapBody body bound.exprs

/-- All uses among the pieces replaced, from left to right. -/
def includeComponents (lib : Library) (expand : Nat → List Char → Machine (List Char)) (a : Nat) :
    List (Piece (Option Directive.ComponentUse)) → Machine (List Char)
  | [] => pure []
  | .char c :: pieces => do
    let out ← includeComponents lib expand a pieces
    return c :: out
  | .mark none source :: pieces => do
    let out ← includeComponents lib expand a pieces
    return source ++ out
  | .mark (some use) _ :: pieces => do
    let mine ← includeComponent lib expand a use
    let out ← includeComponents lib expand a pieces
    return mine ++ out

/-- All components of a text put in place. -/
def resolveComponents (lib : Library) (expand : Nat → List Char → Machine (List Char)) (a : Nat)
    (text : List Char) : Machine (List Char) :=
  includeComponents lib expand a (Directive.component.pieces text)

/-- The stages of a pass, with their names. -/
def stages (lib : Library) (expand : Nat → List Char → Machine (List Char)) :
    List (String × (Nat → List Char → Machine (List Char))) :=
  [("LoopExpander", fun a text => inPlace a fun s => expandLoops s text),
   ("CommentStripper", fun a text => inPlace a fun s => convertComments s text),
   ("ComponentResolver", resolveComponents lib expand),
   ("VariableSubstitutor", fun a text => inPlace a fun s => substituteVariables s text)]

/-- Stages one after the other. -/
def runStages : List (String × (Nat → List Char → Machine (List Char))) → Nat → List Char →
    Machine (List Char)
  | [], _, text => pure text
  | (name, run) :: rest, a, text => do
    let out ← run a text
    let s ← look a
    if out ≠ text then onTrace (note (.rewrote name s.templateName s.depth))
    runStages rest a out

/-- Passes until one changes nothing. -/
def settle (pass : Nat → List Char → Machine (List Char)) (limit : Nat) :
    (left : Nat) → Nat → List Char → Machine (List Char)
  | 0, a, _ => do
    let s ← look a
    throw (.expansionLimit s.templateName limit s.depth)
  | left + 1, a, text => do
    let out ← pass a text
    onTrace (reporting fun r => { r with passes := r.passes + 1 })
    if out = text then
      let s ← look a
      onTrace (note (.settled s.templateName (limit - left) s.depth))
      return out
    else settle pass limit left a out

/-- A text expanded, with components up to `nesting` deep. -/
def expandWithin (lib : Library) (limit : Nat) : (nesting : Nat) → Nat → List Char → Machine (List Char)
  | 0, _, _ => throw .nesting
  | nesting + 1, a, text =>
    settle (runStages (stages lib (expandWithin lib limit nesting))) limit limit a text

end Machine

/-! ### Expansion with objects and with values -/

/-- How a step with objects goes along with a step with values: they fail alike or have results that fit, the trace is
the same, and memory is kept. -/
inductive Follows {α β : Type} (m : Memory) (but : Option Nat) (R : Memory → α → β → Prop) :
    EStateM.Result Error World α → EStateM.Result Error Trace β → Prop
  | ok {m' : Memory} {a : α} {b : β} {t : Trace} (hkeeps : m.Keeps m' but) (hfit : R m' a b) :
      Follows m but R (.ok a ⟨m', t⟩) (.ok b t)
  | error {m' : Memory} {e : Error} {t : Trace} (hkeeps : m.Keeps m' but) :
      Follows m but R (.error e ⟨m', t⟩) (.error e t)

/-- The same results. -/
def Same {α : Type} (_ : Memory) (a b : α) : Prop := a = b

/-- The same results, with the scope at a place. -/
def SameAt {α : Type} (a : Nat) (m : Memory) (out : α) (r : Scope × α) : Prop := m.scope? a = some r.1 ∧ out = r.2

/-- Whether expanding texts in the scope at a place goes along with expanding them in the scope that it comes to, and
changes no more in memory than the names of that scope. -/
def Mirrors (x : Nat → List Char → Machine (List Char)) (y : Scope → List Char → Expansion (Scope × List Char)) : Prop :=
  ∀ {m : Memory} {a s} text t, m.scope? a = some s →
    Follows m (m.setOf a) (SameAt a) (x a text ⟨m, t⟩) (y s text t)

section

variable {α β γ δ : Type} {m : Memory} {but : Option Nat} {w : World} {t : Trace} {a : Nat} {s : Scope}

theorem Follows.mono {R : Memory → α → β → Prop} {r : EStateM.Result Error World α}
    {r' : EStateM.Result Error Trace β} (h : Follows m none R r r') (but : Option Nat) :
    Follows m but R r r' := by
  cases h with
  | ok hkeeps hfit => exact .ok (hkeeps.mono but) hfit
  | error hkeeps => exact .error (hkeeps.mono but)

/-- What changes no more than the names of a new scope changes nothing that was there before it. -/
theorem Follows.of_add {b : Nat} {r : EStateM.Result Error World α} {r' : EStateM.Result Error Trace (Scope × α)}
    (h : Follows (m.add s) (some m.nameSets.length) (SameAt b) r r') :
    Follows m none (fun _ out r => out = r.2) r r' := by
  cases h with
  | ok hkeeps hfit => exact .ok hkeeps.of_add hfit.2
  | error hkeeps => exact .error hkeeps.of_add

theorem Follows.from {R : Memory → α → β → Prop} {m' : Memory} (hkeeps : m.Keeps m' but)
    {r : EStateM.Result Error World α} {r' : EStateM.Result Error Trace β} (h : Follows m' but R r r') :
    Follows m but R r r' := by
  cases h with
  | ok hk hf => exact .ok (hkeeps.trans hk) hf
  | error hk => exact .error (hkeeps.trans hk)

theorem Follows.bind {R : Memory → α → β → Prop} {S : Memory → γ → δ → Prop} {x : Machine α} {y : Expansion β}
    {f : α → Machine γ} {g : β → Expansion δ} (h : Follows m but R (x w) (y t))
    (hf : ∀ {m' a b} t, m.Keeps m' but → R m' a b → Follows m' but S (f a ⟨m', t⟩) (g b t)) :
    Follows m but S ((x >>= f) w) ((y >>= g) t) := by
  change Follows m but S (EStateM.bind x f w) (EStateM.bind y g t)
  unfold EStateM.bind
  generalize x w = r at h
  generalize y t = r' at h
  cases h with
  | ok hkeeps hfit => exact (hf _ hkeeps hfit).from hkeeps
  | error hkeeps => exact .error hkeeps

theorem Follows.map {R : Memory → α → β → Prop} {S : Memory → α → γ → Prop} {x : Machine α} {y : Expansion β}
    {g : β → γ} (h : Follows m but R (x w) (y t))
    (hg : ∀ {m' a b}, m.Keeps m' but → R m' a b → S m' a (g b)) :
    Follows m but S (x w) ((y >>= fun b => pure (g b)) t) := by
  change Follows m but S (x w) (EStateM.bind y _ t)
  unfold EStateM.bind
  generalize x w = r at h
  generalize y t = r' at h
  cases h with
  | ok hkeeps hfit => exact .ok hkeeps (hg hkeeps hfit)
  | error hkeeps => exact .error hkeeps

theorem follows_pure {R : Memory → α → β → Prop} {a : α} {b : β} (h : R m a b) :
    Follows m but R ((pure a : Machine α) ⟨m, t⟩) ((pure b : Expansion β) t) :=
  .ok (.refl m but) h

theorem follows_throw {R : Memory → α → β → Prop} (e : Error) :
    Follows m but R ((throw e : Machine α) ⟨m, t⟩) ((throw e : Expansion β) t) :=
  .error (.refl m but)

/-- A step that looks at no object, and what comes behind it. -/
theorem follows_onTrace {R : Memory → γ → δ → Prop} (x : Expansion α) {f : α → Machine γ} {g : α → Expansion δ}
    (hf : ∀ a t, Follows m but R (f a ⟨m, t⟩) (g a t)) :
    Follows m but R ((Machine.onTrace x >>= f) ⟨m, t⟩) ((x >>= g) t) := by
  change Follows m but R (EStateM.bind (Machine.onTrace x) f ⟨m, t⟩) (EStateM.bind x g t)
  unfold EStateM.bind Machine.onTrace
  dsimp only
  cases x t with
  | ok a t' => exact hf a t'
  | error e t' => exact .error (.refl m but)

theorem look_bind (hs : m.scope? a = some s) (f : Scope → Machine α) :
    (Machine.look a >>= f) ⟨m, t⟩ = f s ⟨m, t⟩ := by
  change f ((m.scope? a).getD _) ⟨m, t⟩ = _
  rw [hs]
  rfl

/-! ### Stages -/

theorem mirrors_inPlace {step : Scope → List Char → Expansion (Scope × List Char)}
    (h : ∀ s text, (step s text).Ensures fun r => s.Binds r.1) :
    Mirrors (fun a text => Machine.inPlace a fun s => step s text) step := by
  intro m a s text t hs
  change Follows m _ _ (Machine.inPlace a (fun s => step s text) ⟨m, t⟩) _
  rw [Machine.inPlace, look_bind hs]
  change Follows m _ _ (EStateM.bind (Machine.onTrace (step s text)) _ ⟨m, t⟩) _
  unfold EStateM.bind Machine.onTrace
  dsimp only
  cases hstep : step s text t with
  | ok r t' =>
    obtain ⟨hkeeps, hscope⟩ := Memory.put_of_binds hs (h s text hstep)
    exact .ok hkeeps ⟨hscope, rfl⟩
  | error e t' => exact .error (.refl m _)

variable {lib : Library} {limit : Nat} {expand : Nat → List Char → Machine (List Char)}
  {expandValue : Scope → List Char → Expansion (Scope × List Char)}

/-- A component changes nothing that was in memory before it: its body has a scope of its own. -/
theorem follows_includeComponent (hexpand : Mirrors expand expandValue) (hs : m.scope? a = some s)
    (use : Directive.ComponentUse) (t : Trace) :
    Follows m none Same (Machine.includeComponent lib expand a use ⟨m, t⟩)
      (includeComponent lib (fun s text => do return (← expandValue s text).2) s use t) := by
  unfold Machine.includeComponent includeComponent
  rw [look_bind hs]
  split
  · refine follows_onTrace _ fun _ t => ?_
    exact follows_onTrace _ fun _ t => follows_pure rfl
  · refine follows_onTrace _ fun file t => ?_
    refine follows_onTrace _ fun _ t => ?_
    refine follows_onTrace _ fun bound t => ?_
    have hbody := hexpand file.2 t (Memory.scope?_add m (s.child use.name bound.values))
    rw [Memory.setOf_add] at hbody
    refine Follows.bind (R := Same) (w := ⟨m.add (s.child use.name bound.values), t⟩) ?_ fun t _ hout => ?_
    · refine Follows.map (S := Same) ?_ fun _ hout => hout
      exact hbody.of_add
    · obtain rfl := hout
      exact follows_onTrace _ fun _ t => follows_pure rfl

theorem follows_includeComponents (hexpand : Mirrors expand expandValue) (hs : m.scope? a = some s)
    (pieces : List (Piece (Option Directive.ComponentUse))) (t : Trace) :
    Follows m none Same (Machine.includeComponents lib expand a pieces ⟨m, t⟩)
      (includeComponents lib (fun s text => do return (← expandValue s text).2) s pieces t) := by
  induction pieces generalizing m t with
  | nil => exact follows_pure rfl
  | cons piece pieces ih =>
    rcases piece with c | ⟨_ | use, source⟩
    · exact (ih hs t).bind fun t _ hout => follows_pure (congrArg _ hout)
    · exact (ih hs t).bind fun t _ hout => follows_pure (congrArg _ hout)
    · refine (follows_includeComponent hexpand hs use t).bind fun t hkeeps hmine => ?_
      exact (ih (hkeeps.scope? hs) t).bind fun t _ hout => follows_pure (hmine ▸ hout ▸ rfl)

theorem follows_resolveComponents (hexpand : Mirrors expand expandValue) (hs : m.scope? a = some s)
    (text : List Char) (t : Trace) :
    Follows m none (SameAt a) (Machine.resolveComponents lib expand a text ⟨m, t⟩)
      (resolveComponents lib (fun s text => do return (← expandValue s text).2) s text t) :=
  (follows_includeComponents hexpand hs _ t).map fun hkeeps hout => ⟨hkeeps.scope? hs, hout⟩

/-- Stages that go along with each other, and have the same names. -/
inductive StagesMirror : List (String × (Nat → List Char → Machine (List Char))) → List Stage → Prop
  | nil : StagesMirror [] []
  | cons {run : Nat → List Char → Machine (List Char)} {p : Stage} {stages stages'} (hrun : Mirrors run p.run)
      (hrest : StagesMirror stages stages') : StagesMirror ((p.name, run) :: stages) (p :: stages')

theorem stagesMirror (hexpand : Mirrors expand expandValue) :
    StagesMirror (Machine.stages lib expand)
      (Compiler.stages { library := lib, limit := limit } fun s text => do return (← expandValue s text).2) := by
  have hloops (s : Scope) (text : List Char) :
      Expansion.Ensures (monadLift (expandLoops s text)) fun r => s.Binds r.1 :=
    Expansion.ensures_lift fun t => binds_expandLoops s text t
  have hcomments (s : Scope) (text : List Char) :
      Expansion.Ensures (monadLift (convertComments s text)) fun r => s.Binds r.1 :=
    Expansion.ensures_lift fun _ => .refl s
  have hvariables (s : Scope) (text : List Char) :
      Expansion.Ensures (monadLift (substituteVariables s text)) fun r => s.Binds r.1 :=
    Expansion.ensures_lift fun t => by
      rw [substituteVariables_text]
      exact .refl s
  have hcomponents : Mirrors (Machine.resolveComponents lib expand)
      (resolveComponents lib fun s text => do return (← expandValue s text).2) :=
    fun text t hs => (follows_resolveComponents hexpand hs text t).mono _
  exact .cons (p := ⟨"LoopExpander", fun s text => expandLoops s text⟩) (mirrors_inPlace hloops)
    (.cons (p := ⟨"CommentStripper", fun s text => convertComments s text⟩) (mirrors_inPlace hcomments)
      (.cons (p := ⟨"ComponentResolver", _⟩) hcomponents
        (.cons (p := ⟨"VariableSubstitutor", fun s text => substituteVariables s text⟩)
          (mirrors_inPlace hvariables) .nil)))

theorem mirrors_runStages {stages : List (String × (Nat → List Char → Machine (List Char)))} {stages' : List Stage}
    (h : StagesMirror stages stages') : Mirrors (Machine.runStages stages) (runStages stages') := by
  induction h with
  | nil => exact fun text t hs => follows_pure ⟨hs, rfl⟩
  | cons hrun _ ih =>
    intro m a s text t hs
    refine (hrun text t hs).bind fun {m' out r} t hkeeps hfit => ?_
    obtain ⟨hs', rfl⟩ := hfit
    rw [look_bind hs', ← hkeeps.setOf_eq hs]
    dsimp only
    split
    · exact follows_onTrace _ fun _ t => ih r.2 t hs'
    · exact ih r.2 t hs'

/-! ### Passes -/

theorem mirrors_settle {pass : Nat → List Char → Machine (List Char)}
    {pass' : Scope → List Char → Expansion (Scope × List Char)} (hpass : Mirrors pass pass') (limit left : Nat) :
    Mirrors (Machine.settle pass limit left) (settle pass' limit left) := by
  induction left with
  | zero =>
    intro m a s text t hs
    rw [Machine.settle, look_bind hs]
    exact follows_throw _
  | succ left ih =>
    intro m a s text t hs
    refine (hpass text t hs).bind fun {m' out r} t hkeeps hfit => ?_
    obtain ⟨hs', rfl⟩ := hfit
    rw [← hkeeps.setOf_eq hs]
    refine follows_onTrace _ fun _ t => ?_
    split
    · rw [look_bind hs']
      exact follows_onTrace _ fun _ t => follows_pure ⟨hs', rfl⟩
    · exact ih r.2 t hs'

/-- Expansion with objects goes along with expansion with values, at every depth. -/
theorem mirrors_expandWithin (lib : Library) (limit nesting : Nat) :
    Mirrors (Machine.expandWithin lib limit nesting)
      (Compiler.expandWithin { library := lib, limit := limit } nesting) := by
  induction nesting with
  | zero => exact fun text t hs => follows_throw _
  | succ nesting ih => exact mirrors_settle (mirrors_runStages (stagesMirror ih)) limit limit

end

/-! ### Components in place -/

/-- Putting the components of a text in place, with all that they come to at any depth, changes nothing that is in
memory: not the scope of the text, nor any other, nor their data and names. The text is what it is with scopes as
values, and the report grows, also where a component fails. -/
theorem resolveComponents_isolated (lib : Library) (limit nesting : Nat) {m : Memory} {a : Nat} {s : Scope}
    (hs : m.scope? a = some s) (text : List Char) (t : Trace) :
    match Machine.resolveComponents lib (Machine.expandWithin lib limit nesting) a text ⟨m, t⟩ with
    | .ok out w => m.Keeps w.memory none ∧ w.memory.scope? a = some s ∧ t.report.Grows w.trace.report ∧
      resolveComponents lib (Compiler.expandBody { library := lib, limit := limit } nesting) s text t =
        .ok (s, out) w.trace
    | .error e w => m.Keeps w.memory none ∧ w.memory.scope? a = some s ∧ t.report.Grows w.trace.report ∧
      resolveComponents lib (Compiler.expandBody { library := lib, limit := limit } nesting) s text t =
        .error e w.trace := by
  have hfollows : Follows m none (SameAt a) _
      (resolveComponents lib (Compiler.expandBody { library := lib, limit := limit } nesting) s text t) :=
    follows_resolveComponents (mirrors_expandWithin lib limit nesting) hs text t
  have hgrows : (resolveComponents lib (Compiler.expandBody { library := lib, limit := limit } nesting) s
      text).Grows :=
    grows_resolveComponents (grows_expandBody { library := lib, limit := limit } (fun _ h => nomatch h) nesting) s text
  replace hgrows := hgrows t
  unfold Expansion.traceAfter at hgrows
  generalize Machine.resolveComponents lib (Machine.expandWithin lib limit nesting) a text ⟨m, t⟩ = r at hfollows
  generalize resolveComponents lib (Compiler.expandBody { library := lib, limit := limit } nesting) s text t = r'
    at hfollows hgrows
  cases hfollows with
  | ok hkeeps hfit =>
    rename_i out r t'
    obtain ⟨hscope, rfl⟩ := hfit
    have hsame := hkeeps.scope? hs
    rw [hscope] at hsame
    obtain rfl := Option.some.inj hsame
    exact ⟨hkeeps, hscope, hgrows, rfl⟩
  | error hkeeps => exact ⟨hkeeps, hkeeps.scope? hs, hgrows, rfl⟩

/-- Two scopes that share data and a set of names. -/
def sharedMemory : Memory where
  scopes := [⟨"page", 0, 0, [], 0, none⟩, ⟨"other", 0, 0, [], 0, some "main"⟩]
  data := [[(.str "xs", .list [.int 1])]]
  nameSets := [["x"]]

/-- A component with a loop of its own, which binds names, and in it another component. -/
def boundLibrary : Library := .ofTexts
  [((.component, "outer"), "<: for y in zs :><: component inner t=\"1\" ><: endfor :>"),
   ((.component, "inner"), "<: for z in t :><: y :><: endfor :>")]

/-- Loops and props of components bind their names in new scopes; the two that were there are as they were. -/
theorem resolveComponents_isolated_shared :
    let text := "<: component outer :zs=\"xs\" >".toList
    let start : World := ⟨sharedMemory, { report := { templateName := "page" } }⟩
    sharedMemory.scope? 0 = some ⟨"page", [(.str "xs", .list [.int 1])], ["x"], [], 0, none⟩ ∧
    ∃ out w, Machine.resolveComponents boundLibrary (Machine.expandWithin boundLibrary 100 9) 0 text start = .ok out w ∧
      w.memory.nameSets = [["x"], ["x", "y", "__index"], ["x", "y", "__index", "z"]] ∧
      sharedMemory.Keeps w.memory none ∧ w.memory.scope? 0 = sharedMemory.scope? 0 := by
  intro text start
  have hscope : sharedMemory.scope? 0 = some ⟨"page", [(.str "xs", .list [.int 1])], ["x"], [], 0, none⟩ := rfl
  have hrun : (match Machine.resolveComponents boundLibrary (Machine.expandWithin boundLibrary 100 9) 0 text start with
      | .ok _ w => w.memory.nameSets
      | .error _ _ => []) = [["x"], ["x", "y", "__index"], ["x", "y", "__index", "z"]] := by decide +kernel
  have hisolated := resolveComponents_isolated boundLibrary 100 9 hscope text start.trace
  refine ⟨hscope, ?_⟩
  generalize hend : Machine.resolveComponents boundLibrary (Machine.expandWithin boundLibrary 100 9) 0 text start = r
    at hrun
  rw [hend] at hisolated
  cases r with
  | ok out w => exact ⟨out, w, rfl, hrun, hisolated.1, hisolated.2.1.trans hscope.symm⟩
  | error e w => cases hrun

end Stencil.Template
