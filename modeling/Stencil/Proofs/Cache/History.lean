import Mathlib.Algebra.Group.Int.Defs
import Stencil.Proofs.Cache.Memory
import Stencil.Proofs.Cache.Renders

/-! Runs of a cache in memory. What a look finds in the memory is what the history of the run says: the
latest render under the key that no clearing took away since and that is still young. -/
namespace Stencil.Cache

/-- What a cache has to remember of a run. -/
inductive Happening where
  /-- A text that is not empty was computed for a key, to be kept for so many seconds from this time on. -/
  | computed (key value : String) (time : Float) (seconds : Int)
  /-- The renders of one template were forgotten, or all of them. -/
  | cleared (template : Option String)

/-- Whether clearing takes away what is under a key. -/
def covers (space : String) : (template : Option String) → (key : String) → Bool
  | none, _ => true
  | some name, key => key.startsWith (templatePrefix space name)

/-- Whether a render of some time that is to be kept for so many seconds is young, now. It never ages if
there are no seconds to wait; more of them than a floating-point number can count are none to be kept for. -/
def isYoung (time : Float) (seconds : Int) (now : Float) : Bool :=
  if seconds ≤ 0 then true
  else match Number.floatOfInt? seconds with
    | some span => !decide (time + span ≤ now)
    | none => false

/-- Whether a render stands in a history, latest first: no later clearing took it away. -/
inductive Stands (space key value : String) (time : Float) (seconds : Int) : List Happening → Prop
  | here (earlier : List Happening) :
    Stands space key value time seconds (.computed key value time seconds :: earlier)
  | computed {earlier : List Happening} (k v : String) (t : Float) (n : Int) :
    Stands space key value time seconds earlier →
      Stands space key value time seconds (.computed k v t n :: earlier)
  | cleared {earlier : List Happening} {template : Option String}
    (hcovers : covers space template key = false) :
    Stands space key value time seconds earlier →
      Stands space key value time seconds (.cleared template :: earlier)

/-- The latest render of a key that stands in a history and is young now. -/
def latest? (space key : String) (now : Float) : List Happening → Option String
  | [] => none
  | .computed k value time seconds :: earlier =>
    if k = key ∧ isYoung time seconds now then some value else latest? space key now earlier
  | .cleared template :: earlier =>
    if covers space template key then none else latest? space key now earlier

theorem latest?_isSome_iff (space key : String) (now : Float) (history : List Happening) :
    (latest? space key now history).isSome = true ↔
      ∃ value time seconds, Stands space key value time seconds history ∧
        isYoung time seconds now = true := by
  induction history with
  | nil =>
    refine ⟨(nomatch ·), ?_⟩
    rintro ⟨_, _, _, h, _⟩
    cases h
  | cons happening earlier ih =>
    cases happening with
    | computed k v t n =>
      rw [latest?]
      by_cases hhere : k = key ∧ isYoung t n now = true
      · rw [if_pos hhere]
        obtain ⟨rfl, hyoung⟩ := hhere
        exact ⟨fun _ => ⟨v, t, n, .here earlier, hyoung⟩, fun _ => rfl⟩
      · rw [if_neg hhere, ih]
        constructor
        · rintro ⟨value, time, seconds, hstands, hyoung⟩
          exact ⟨value, time, seconds, .computed k v t n hstands, hyoung⟩
        · rintro ⟨value, time, seconds, hstands, hyoung⟩
          cases hstands with
          | here => exact absurd ⟨rfl, hyoung⟩ hhere
          | computed _ _ _ _ hstands => exact ⟨value, time, seconds, hstands, hyoung⟩
    | cleared template =>
      rw [latest?]
      by_cases hcovers : covers space template key = true
      · rw [if_pos hcovers]
        refine ⟨(nomatch ·), ?_⟩
        rintro ⟨_, _, _, hstands, _⟩
        cases hstands with
        | cleared hnot _ => rw [hcovers] at hnot; cases hnot
      · rw [if_neg hcovers, ih]
        constructor
        · rintro ⟨value, time, seconds, hstands, hyoung⟩
          exact ⟨value, time, seconds, .cleared (by simpa using hcovers) hstands, hyoung⟩
        · rintro ⟨value, time, seconds, hstands, hyoung⟩
          cases hstands with
          | cleared _ hstands => exact ⟨value, time, seconds, hstands, hyoung⟩

/-! ### Agreement -/

/-- Whether a memory finds, now and at every later time, what a history says. -/
structure Agrees (space : String) (history : List Happening) (m : Memory) (now : Float) : Prop where
  clock : now ≤ now
  read : ∀ key t, now ≤ t → (m.read t key).1 = latest? space key t history

section

variable {space key value : String} {history : List Happening} {m m' : Memory} {now later : Float}

theorem Agrees.start (hclock : now ≤ now) : Agrees space [] {} now := ⟨hclock, fun _ _ _ => rfl⟩

theorem Agrees.wait (h : Agrees space history m now) (hlater : now ≤ later) :
    Agrees space history m later where
  clock := Number.le_self_of_le hlater
  read key t ht := h.read key t (Number.le_trans_float hlater ht)

/-- What a look takes away would not be found any more. -/
theorem Agrees.look (h : Agrees space history m now) (key : String) :
    Agrees space history (m.read now key).2 now where
  clock := h.clock
  read k t ht := by
    rw [← h.read k t ht, Memory.read_fst, Memory.read_fst, Memory.lookup_read]
    by_cases hgone : k = key ∧ (m.entries.lookup key).any (·.isDead now) = true
    · rw [if_pos hgone]
      obtain ⟨rfl, hdead⟩ := hgone
      obtain ⟨e, he, hdead⟩ := Option.any_eq_true _ _ |>.mp hdead
      rw [he]
      simp [Memory.liveValue, Kept.isDead_mono hdead ht]
    · rw [if_neg hgone]

theorem Agrees.clear (h : Agrees space history m now) (name : String) :
    Agrees space (.cleared (some name) :: history)
      (m.removeLike (templatePrefix space name)).2 now where
  clock := h.clock
  read k t ht := by
    rw [latest?, ← h.read k t ht, Memory.read_fst, Memory.read_fst, Memory.lookup_removeLike, covers]
    split <;> rfl

theorem Agrees.clearAll (h : Agrees space history m now) :
    Agrees space (.cleared none :: history) {} now :=
  ⟨h.clock, fun _ _ _ => rfl⟩

/-- What the history does not have now it does not have later. -/
theorem Agrees.missing (h : Agrees space history m now) (hmissing : latest? space key now history = none)
    (hlater : now ≤ later) : latest? space key later history = none := by
  rw [← h.read key later hlater]
  refine Memory.read_none_mono ?_ hlater
  rw [h.read key now h.clock, hmissing]

/-- A render is dead from the time on when it is young no more. -/
theorem isDead_eq_not_isYoung {seconds : Int} {time : Float} {expires : Option Float}
    (h : expiry time (some (.whole seconds)) = .ok expires) (now : Float) :
    (⟨value, expires⟩ : Kept).isDead now = !isYoung time seconds now := by
  rw [expiry_whole] at h
  unfold isYoung Kept.isDead
  by_cases hseconds : seconds ≤ 0
  · rw [if_pos hseconds] at h ⊢
    cases h
    rfl
  · rw [if_neg hseconds] at h ⊢
    cases hspan : Number.floatOfInt? seconds with
    | none =>
      rw [hspan] at h
      cases h
    | some span =>
      rw [hspan] at h
      cases h
      simp

/-- A render that the history does not have is put in. -/
theorem Agrees.put (h : Agrees space history m now) {seconds : Int}
    (hmissing : latest? space key now history = none)
    (hput : m.put now key value (some (.whole seconds)) = .ok m') :
    Agrees space (.computed key value now seconds :: history) m' now where
  clock := h.clock
  read k t ht := by
    cases hexpiry : expiry now (some (.whole seconds)) with
    | error e =>
      rw [Memory.put, hexpiry] at hput
      cases hput
    | ok expires =>
      rw [latest?, Memory.read_fst, Memory.lookup_put hexpiry hput]
      by_cases hk : k = key
      · subst hk
        rw [if_pos rfl, h.missing hmissing ht, Option.bind_some, Memory.liveValue,
          isDead_eq_not_isYoung hexpiry]
        cases isYoung now seconds t <;> simp
      · rw [if_neg hk, if_neg fun hhere => hk hhere.1.symm, ← Memory.read_fst, h.read k t ht]

/-- A render that cannot be put in is young at no time. -/
theorem Agrees.refused (h : Agrees space history m now) {seconds : Int} {e : Error}
    (hput : m.put now key value (some (.whole seconds)) = .error e) :
    Agrees space (.computed key value now seconds :: history) m now where
  clock := h.clock
  read k t ht := by
    have hyoung : isYoung now seconds t = false := by
      rw [Memory.put, expiry_whole] at hput
      unfold isYoung
      split at hput
      · cases hput
      · next hseconds =>
        rw [if_neg hseconds]
        cases hspan : Number.floatOfInt? seconds with
        | none => rfl
        | some span =>
          rw [hspan] at hput
          cases hput
    rw [latest?, hyoung, h.read k t ht]
    simp

end

/-! ### Runs -/

/-- The text of a page as somebody computes it. It may do what it likes, but it is counted among the runs,
and it takes its time. -/
structure Computation where
  step : Act String
  runs : ∀ s, (step.left s).runs = s.runs + 1
  clock : ∀ s, s.now ≤ s.now → s.now ≤ (step.left s).now

namespace Renders

/-- A cache in memory that keeps renders for so many seconds if nothing else is said. -/
def held (space : String) (lifetime : Int) (m : Memory) : Renders :=
  ⟨.memory m, space, some (.whole lifetime)⟩

/-- What there is to remember of a render that was computed. -/
def computedNow (key : String) (seconds : Int) (time : Float) : Except Error String → List Happening
  | .ok value => if value = "" then [] else [.computed key value time seconds]
  | .error _ => []

/-- What a call comes to that computes: a text that is to be kept longer than can be counted is an error. -/
def computedAnswer (seconds : Int) : Except Error String → Except Error String
  | .ok value =>
    if value ≠ "" ∧ 0 < seconds ∧ Number.floatOfInt? seconds = none then .error .tooLarge
    else .ok value
  | .error e => .error e

/-- Runs of a cache that begins empty, with what happened in them, latest first. Between two calls anything
may happen, but the clock never goes back. -/
inductive Run (space : String) (lifetime : Int) : List Happening → Memory → Session → Prop
  | start {s : Session} (clock : s.now ≤ s.now) : Run space lifetime [] {} s
  | wait {history : List Happening} {m : Memory} {s : Session} (s' : Session) (clock : s.now ≤ s'.now) :
    Run space lifetime history m s → Run space lifetime history m s'
  | render {history : List Happening} {m m' : Memory} {s s' : Session} (name fp : String)
    (compute : Computation) (own : Option Int) {answer : Except Error String}
    (hrender : (held space lifetime m).render name fp compute.step (own.map .whole) s =
      .ok (answer, held space lifetime m') s') :
    Run space lifetime history m s →
      Run space lifetime
        (if s'.runs = s.runs then history
          else computedNow (renderKey space name fp) (own.getD lifetime) s'.now
            (compute.step.outcome (missed s space name fp)) ++ history) m' s'
  | clear {history : List Happening} {m m' : Memory} {s s' : Session} (name : Option String)
    {found : Bool} (hclear : (held space lifetime m).clear name s =
      .ok (found, held space lifetime m') s') :
    Run space lifetime history m s → Run space lifetime (.cleared name :: history) m' s'

variable {space : String} {lifetime : Int} {history : List Happening} {m : Memory} {s : Session}

/-- A call that computes: the text is put in if it is not empty and can be kept. -/
theorem render_computed {name fp : String} {own : Option Int} {compute : Act String} {m₁ : Memory}
    (hread : m.read s.now (renderKey space name fp) = (none, m₁)) :
    (held space lifetime m).render name fp compute (own.map .whole) s =
      keep (held space lifetime m₁) (renderKey space name fp) (own.map .whole)
        (compute.outcome (missed s space name fp)) (compute.left (missed s space name fp)) :=
  (render_miss hread).trans (Act.run_bind_ok (Act.attempt_eq compute _))

theorem put_whole_eq_error {now : Float} {key value : String} {seconds : Int} {e : Error}
    (h : m.put now key value (some (.whole seconds)) = .error e) :
    e = .tooLarge ∧ 0 < seconds ∧ Number.floatOfInt? seconds = none := by
  rw [Memory.put, expiry_whole] at h
  split at h
  · cases h
  · next hseconds =>
    split at h
    · cases h
    · next hspan =>
      cases h
      exact ⟨rfl, Int.not_le.mp hseconds, hspan⟩

theorem put_whole_eq_ok {m' : Memory} {now : Float} {key value : String} {seconds : Int}
    (h : m.put now key value (some (.whole seconds)) = .ok m') :
    ¬(0 < seconds ∧ Number.floatOfInt? seconds = none) := by
  rintro ⟨hseconds, hspan⟩
  rw [Memory.put, expiry_whole, if_neg (Int.not_le.mpr hseconds), hspan] at h
  cases h

/-- What is done with an outcome of computing where the memory agrees with the history. -/
theorem exists_keep (lifetime : Int) (h : Agrees space history m s.now) {key : String}
    (hmissing : latest? space key s.now history = none) (own : Option Int)
    (outcome : Except Error String) :
    ∃ m', keep (held space lifetime m) key (own.map .whole) outcome s =
        .ok (computedAnswer (own.getD lifetime) outcome, held space lifetime m') s ∧
      Agrees space (computedNow key (own.getD lifetime) s.now outcome ++ history) m' s.now ∧
      ((∀ value, outcome = .ok value → value = "") → m' = m) := by
  cases outcome with
  | error e => exact ⟨m, rfl, h, fun _ => rfl⟩
  | ok value =>
    by_cases hvalue : value = ""
    · subst hvalue
      exact ⟨m, rfl, h, fun _ => rfl⟩
    have hown : (own.map Lifetime.whole).or (some (.whole lifetime)) =
        some (.whole (own.getD lifetime)) := by
      cases own <;> rfl
    have hkeep : keep (held space lifetime m) key (own.map .whole) (.ok value) s = _ := keep_memory hvalue
    rw [hown] at hkeep
    rw [hkeep, computedNow, if_neg hvalue, computedAnswer]
    cases hput : m.put s.now key value (some (.whole (own.getD lifetime))) with
    | ok m' =>
      have hfits := put_whole_eq_ok hput
      refine ⟨m', ?_, h.put hmissing hput, fun hempty => absurd (hempty value rfl) hvalue⟩
      rw [if_neg fun hlarge => hfits hlarge.2]
      rfl
    | error e =>
      obtain ⟨rfl, hlarge⟩ := put_whole_eq_error hput
      refine ⟨m, ?_, h.refused hput, fun hempty => absurd (hempty value rfl) hvalue⟩
      rw [if_pos ⟨hvalue, hlarge⟩]
      rfl

/-- The ways of a call: the render is found, or it is computed. -/
inductive Serves (space : String) (lifetime : Int) (history : List Happening) (m : Memory) (s : Session)
    (name fp : String) (compute : Computation) (own : Option Int) :
    Except Error String → Memory → Session → Prop
  | found {value : String}
    (latest : latest? space (renderKey space name fp) s.now history = some value) :
    Serves space lifetime history m s name fp compute own (.ok value) m
      (s.log (record s!"Cache hit for {renderKey space name fp}"))
  | computed {m' : Memory} {outcome : Except Error String} {s' : Session}
    (latest : latest? space (renderKey space name fp) s.now history = none)
    (outcome_eq : compute.step.outcome (missed s space name fp) = outcome)
    (left_eq : compute.step.left (missed s space name fp) = s')
    (agrees : Agrees space (computedNow (renderKey space name fp) (own.getD lifetime) s'.now outcome ++
      history) m' s'.now)
    (unchanged : (∀ value, outcome = .ok value → value = "") →
      m' = (m.read s.now (renderKey space name fp)).2) :
    Serves space lifetime history m s name fp compute own
      (computedAnswer (own.getD lifetime) outcome) m' s'

/-- What a call does where the memory agrees with the history. -/
theorem exists_serves (lifetime : Int) (h : Agrees space history m s.now) (name fp : String) (compute : Computation)
    (own : Option Int) :
    ∃ answer m' s', (held space lifetime m).render name fp compute.step (own.map .whole) s =
        .ok (answer, held space lifetime m') s' ∧
      Serves space lifetime history m s name fp compute own answer m' s' := by
  have hlooked := h.look (renderKey space name fp)
  have hread := h.read (renderKey space name fp) s.now h.clock
  cases hm : m.read s.now (renderKey space name fp) with
  | mk found m₁ =>
  rw [hm] at hlooked hread
  cases found with
  | some value =>
    have hm₁ : m₁ = m := by
      unfold Memory.read at hm
      grind
    subst hm₁
    exact ⟨_, m₁, _, render_hit hm, .found hread.symm⟩
  | none =>
    have hclock : s.now ≤ (compute.step.left (missed s space name fp)).now := by
      have hstep := compute.clock (missed s space name fp)
      rw [missed, Session.now_log] at hstep
      exact hstep h.clock
    have hmissing := hlooked.missing hread.symm hclock
    obtain ⟨m', hkeep, hagrees, hunchanged⟩ := exists_keep lifetime
      (hlooked.wait hclock) hmissing own (compute.step.outcome (missed s space name fp))
    refine ⟨_, m', _, (render_computed hm).trans hkeep,
      .computed hread.symm rfl rfl hagrees fun hempty => ?_⟩
    rw [hunchanged hempty, hm]

theorem Serves.runs {name fp : String} {compute : Computation} {own : Option Int}
    {answer : Except Error String} {m' : Memory} {s' : Session}
    (h : Serves space lifetime history m s name fp compute own answer m' s') :
    s'.runs = s.runs ∨ s'.runs = s.runs + 1 := by
  cases h with
  | found => exact .inl (Session.runs_log s _)
  | computed _ _ hleft =>
    subst hleft
    rw [compute.runs, missed, Session.runs_log]
    exact .inr rfl

/-- After any run the memory agrees with the history. -/
theorem Run.agrees (h : Run space lifetime history m s) : Agrees space history m s.now := by
  induction h with
  | start clock => exact .start clock
  | wait s' clock _ ih => exact ih.wait clock
  | @render history m m' s s' name fp compute own answer hrender _ ih =>
    obtain ⟨answer₁, m₁, s₁, hserves, hways⟩ := exists_serves lifetime ih name fp compute own
    rw [hserves] at hrender
    simp only [EStateM.Result.ok.injEq, Prod.mk.injEq, held, Renders.mk.injEq, Store.memory.injEq,
      and_true] at hrender
    obtain ⟨⟨rfl, rfl⟩, rfl⟩ := hrender
    cases hways with
    | found latest =>
      rw [Session.runs_log, if_pos rfl, Session.now_log]
      exact ih
    | computed latest outcome_eq left_eq agrees unchanged =>
      subst left_eq outcome_eq
      rw [if_neg]
      · exact agrees
      · rw [compute.runs, missed, Session.runs_log]
        omega
  | @clear history m m' s s' name found hclear _ ih =>
    cases name with
    | none =>
      cases hclear
      rw [Session.now_log]
      exact ih.clearAll
    | some name =>
      cases hclear
      rw [Session.now_log]
      exact ih.clear name

/-- A call computes exactly if no render of its key is there that was not cleared since and is young still;
what it does not compute is the latest of those. Computing nothing, or failing to compute, leaves every live
entry as it was. -/
theorem Run.render_computes_iff (h : Run space lifetime history m s) (name fp : String)
    (compute : Computation) (own : Option Int) :
    let key := renderKey space name fp
    ∃ answer m' s', (held space lifetime m).render name fp compute.step (own.map .whole) s =
        .ok (answer, held space lifetime m') s' ∧
      (s'.runs = s.runs ∨ s'.runs = s.runs + 1) ∧
      (s'.runs = s.runs + 1 ↔ ¬∃ value time seconds, Stands space key value time seconds history ∧
        isYoung time seconds s.now = true) ∧
      (s'.runs = s.runs → ∃ value, latest? space key s.now history = some value ∧ answer = .ok value) ∧
      (s'.runs = s.runs + 1 → answer =
        computedAnswer (own.getD lifetime) (compute.step.outcome (missed s space name fp))) ∧
      ((∀ value, compute.step.outcome (missed s space name fp) = .ok value → value = "") →
        ∀ k e, m.entries.lookup k = some e → e.isDead s.now = false → m'.entries.lookup k = some e) := by
  intro key
  obtain ⟨answer, m', s', hrender, hways⟩ := exists_serves lifetime h.agrees name fp
    compute own
  have hruns := hways.runs
  refine ⟨answer, m', s', hrender, hruns, ?_⟩
  have hiff := latest?_isSome_iff space key s.now history
  cases hways with
  | found latest =>
    rw [latest] at hiff
    rw [Session.runs_log]
    refine ⟨⟨fun hmore => by omega, fun hnone => absurd (hiff.mp rfl) hnone⟩, fun _ => ⟨_, latest, rfl⟩,
      fun hmore => by omega, fun _ _ _ he _ => he⟩
  | computed latest outcome_eq left_eq agrees unchanged =>
    rw [latest] at hiff
    subst left_eq outcome_eq
    have hmore : (compute.step.left (missed s space name fp)).runs = s.runs + 1 := by
      rw [compute.runs, missed, Session.runs_log]
    refine ⟨⟨fun _ hsome => Bool.noConfusion (hiff.mpr hsome), fun _ => hmore⟩, fun hsame => by omega,
      fun _ => rfl, fun hempty k e he hlive => ?_⟩
    rw [unchanged hempty, Memory.lookup_read, if_neg, he]
    rintro ⟨rfl, hdead⟩
    rw [he, Option.any_some, hlive] at hdead
    cases hdead

/-- A text that is computed at once. -/
def always (text : String) : Computation where
  step s := .ok text { s with runs := s.runs + 1 }
  runs _ := rfl
  clock s h := by
    simpa only [Act.left] using h

/-- A page that was rendered once is not computed again while it is young. -/
theorem render_computes_iff_again : ∃ history m s, Run "template" 3600 history m s ∧
    ∃ answer m' s', (held "template" 3600 m).render "page" "f" (always "B").step none s =
        .ok (answer, held "template" 3600 m') s' ∧ s'.runs = s.runs ∧ answer = .ok "A" := by
  let s : Session := {}
  have hstart : Run "template" 3600 [] {} s := .start (by decide +kernel)
  obtain ⟨answer, m, s', hrender, hways⟩ :=
    exists_serves 3600 hstart.agrees "page" "f" (always "A") none
  have hrun := Run.render "page" "f" (always "A") none hrender hstart
  have hleft : s'.runs = 1 ∧ s'.now = 0 := by
    cases hways with
    | found latest => cases latest
    | computed _ _ left_eq =>
      rw [← left_eq]
      change (missed s "template" "page" "f").runs + 1 = 1 ∧ (missed s "template" "page" "f").now = 0
      rw [missed, Session.runs_log, Session.now_log]
      exact ⟨rfl, rfl⟩
  rw [if_neg (by rw [hleft.1]; decide), hleft.2] at hrun
  have hyoung : isYoung 0 3600 s'.now = true := by
    rw [hleft.2]
    decide +kernel
  obtain ⟨answer', m', s'', hrender', hruns, hcomputes, hkept, -⟩ :=
    hrun.render_computes_iff "page" "f" (always "B") none
  have hsame : s''.runs = s'.runs := by
    rcases hruns with hsame | hmore
    · exact hsame
    · exact absurd ⟨"A", 0, 3600, .here [], hyoung⟩ (hcomputes.mp hmore)
  obtain ⟨value, hvalue, hanswer⟩ := hkept hsame
  refine ⟨_, m, s', hrun, answer', m', s'', hrender', hsame, ?_⟩
  have hlatest : latest? "template" (renderKey "template" "page" "f") s'.now
      [.computed (renderKey "template" "page" "f") "A" 0 3600] = some "A" := by
    rw [latest?, if_pos ⟨rfl, hyoung⟩]
  rw [hanswer, ← Option.some.inj (hlatest.symm.trans hvalue)]

/-- Two calls for one render, with what the first one comes to and how often it is computed. -/
def callTwice (seconds : Int) : Act (Option String × Nat) := do
  let (answer, c) ← (held "template" 3600 {}).render "page" "f" (always "A").step (some (.whole seconds))
  let _ ← c.render "page" "f" (always "A").step (some (.whole seconds))
  return (answer.toOption, (← get).runs)

/-- Age is not all that counts. Late on a second is too short to be told from none, so that of two calls at
one time both compute; and what is to be kept for more seconds than a floating-point number can count is not
kept at all. -/
theorem render_computes_young :
    ((callTwice 1).outcome { now := 9007199254740992 }).toOption = some (some "A", 2) ∧
      ((callTwice (10 ^ 400)).outcome {}).toOption = some (none, 2) := by
  decide +kernel

end Renders

end Stencil.Cache
