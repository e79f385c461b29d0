import Stencil.Session

/-! Steps of a session one after the other, and what they come to. -/
namespace Stencil

theorem Session.exists_appendTo_eq (s : Session) (path : Path) (serial : Nat) (text : List Char) :
    ∃ tree, s.appendTo path serial text = { s with tree } := by
  unfold appendTo
  split
  · split
    · exact ⟨_, rfl⟩
    · exact ⟨_, rfl⟩
  · exact ⟨_, rfl⟩

theorem Session.exists_write_eq (s : Session) (sink : Log.Sink) (r : Log.Record) :
    ∃ stderr tree, s.write sink r = { s with stderr, tree } := by
  unfold write
  cases sink.medium with
  | console => exact ⟨_, _, rfl⟩
  | file path =>
    obtain ⟨tree, h⟩ := s.exists_appendTo_eq path sink.serial (r.line s.stamp).toList
    exact ⟨_, tree, h⟩

/-- Logging adds to the records, to the standard error and to the files, and changes nothing else. -/
theorem Session.exists_log_eq (s : Session) (r : Log.Record) :
    ∃ records stderr tree, s.log r = { s with records, stderr, tree } := by
  unfold log
  simp only
  split
  · split
    · exact ⟨_, _, _, rfl⟩
    · next sink _ =>
      obtain ⟨stderr, tree, h⟩ := exists_write_eq { s with records := s.records ++ [r] } sink r
      exact ⟨_, stderr, tree, h⟩
  · exact ⟨_, _, _, rfl⟩

/-- Logging takes no time. -/
@[simp] theorem Session.now_log (s : Session) (r : Log.Record) : (s.log r).now = s.now := by
  obtain ⟨records, stderr, tree, h⟩ := s.exists_log_eq r
  rw [h]

/-- Logging runs no page. -/
@[simp] theorem Session.runs_log (s : Session) (r : Log.Record) : (s.log r).runs = s.runs := by
  obtain ⟨records, stderr, tree, h⟩ := s.exists_log_eq r
  rw [h]

/-- Logging leaves the configurations as they are. -/
@[simp] theorem Session.configs_log (s : Session) (r : Log.Record) : (s.log r).configs = s.configs := by
  obtain ⟨records, stderr, tree, h⟩ := s.exists_log_eq r
  rw [h]

/-- Logging leaves the variables as they are. -/
@[simp] theorem Session.env_log (s : Session) (r : Log.Record) : (s.log r).env = s.env := by
  obtain ⟨records, stderr, tree, h⟩ := s.exists_log_eq r
  rw [h]

namespace Act

variable {α β : Type} {step : Act α} {next : α → Act β} {s s' t : Session}

/-- What a step comes to, without the session that it leaves. -/
def outcome (step : Act α) (s : Session) : Except Error α :=
  match step s with
  | .ok a _ => .ok a
  | .error e _ => .error e

/-- A step that succeeds hands its result and its session to the next one. -/
theorem run_bind_ok {a : α} (h : step s = .ok a t) : (step >>= next) s = next a t := by
  change EStateM.bind step next s = _
  unfold EStateM.bind
  rw [h]

/-- A step that fails ends all. -/
theorem run_bind_error {e : Error} (h : step s = .error e t) : (step >>= next) s = .error e t := by
  change EStateM.bind step next s = _
  unfold EStateM.bind
  rw [h]

theorem run_get_bind (next : Session → Act β) (s : Session) : (get >>= next) s = next s s := rfl

/-- The session that a step leaves, whatever it comes to. -/
def left (step : Act α) (s : Session) : Session :=
  match step s with
  | .ok _ s' => s'
  | .error _ s' => s'

theorem attempt_eq (step : Act α) (s : Session) :
    step.attempt s = .ok (step.outcome s) (step.left s) := by
  unfold attempt outcome left
  cases step s <;> rfl

/-- A step leaves some session, whatever it comes to. -/
theorem exists_attempt (step : Act α) (s : Session) :
    ∃ s', step.attempt s = .ok (step.outcome s) s' := by
  unfold attempt outcome
  cases step s with
  | ok a s' => exact ⟨s', rfl⟩
  | error e s' => exact ⟨s', rfl⟩

theorem outcome_bind (step : Act α) (next : α → Act β) (s : Session) :
    (step >>= next).outcome s =
      match step s with
      | .ok a t => (next a).outcome t
      | .error e _ => .error e := by
  unfold outcome
  cases h : step s with
  | ok a t => rw [run_bind_ok h]
  | error e t => rw [run_bind_error h]

theorem left_bind (step : Act α) (next : α → Act β) (s : Session) :
    (step >>= next).left s =
      match step s with
      | .ok a t => (next a).left t
      | .error _ t => t := by
  unfold left
  cases h : step s with
  | ok a t => rw [run_bind_ok h]
  | error e t => rw [run_bind_error h]

@[simp] theorem outcome_get_bind (next : Session → Act β) (s : Session) :
    (get >>= next).outcome s = (next s).outcome s := rfl

@[simp] theorem left_get_bind (next : Session → Act β) (s : Session) :
    (get >>= next).left s = (next s).left s := rfl

/-- Two steps one after the other come to the same in two sessions, if the first one does and the second
one does where the first one ends. -/
theorem outcome_bind_congr (hstep : step.outcome s = step.outcome s')
    (hnext : ∀ a t t', step s = .ok a t → step s' = .ok a t' →
      (next a).outcome t = (next a).outcome t') :
    (step >>= next).outcome s = (step >>= next).outcome s' := by
  rw [outcome_bind, outcome_bind]
  unfold outcome at hstep
  cases h : step s with
  | ok a t =>
    cases h' : step s' with
    | ok a' t' =>
      rw [h, h'] at hstep
      cases hstep
      exact hnext a t t' h h'
    | error e' t' =>
      rw [h, h'] at hstep
      cases hstep
  | error e t =>
    cases h' : step s' with
    | ok a' t' =>
      rw [h, h'] at hstep
      cases hstep
    | error e' t' =>
      rw [h, h'] at hstep
      cases hstep
      rfl

/-- Two steps that succeed one after the other. -/
theorem run_of_outcome_bind {b : β} (h : (step >>= next).outcome s = .ok b) :
    ∃ a t, step s = .ok a t ∧ (next a).outcome t = .ok b := by
  rw [outcome_bind] at h
  cases hstep : step s with
  | ok a t =>
    rw [hstep] at h
    exact ⟨a, t, rfl, h⟩
  | error e t =>
    rw [hstep] at h
    cases h

/-- What the second of two steps comes to, if both succeed. -/
theorem exists_of_outcome_bind {b : β} (h : (step >>= next).outcome s = .ok b) :
    ∃ a t, (next a).outcome t = .ok b := by
  obtain ⟨a, t, -, hb⟩ := run_of_outcome_bind h
  exact ⟨a, t, hb⟩

/-! ### Looking -/

/-- Whether a step does nothing to the session. -/
def Looks (step : Act α) : Prop := ∀ s, step.left s = s

theorem looks_pure (a : α) : Looks (pure a) := fun _ => rfl

theorem looks_throw (e : Error) : Looks (throw e : Act α) := fun _ => rfl

theorem looks_get : Looks (get : Act Session) := fun _ => rfl

theorem looks_ofExcept (r : Except Error α) : Looks (ofExcept r) := by
  cases r with
  | ok a => exact looks_pure a
  | error e => exact looks_throw e

/-- A step that only looks, told by its outcome. -/
theorem Looks.run_eq (h : Looks step) (s : Session) :
    step s = match step.outcome s with
      | .ok a => .ok a s
      | .error e => .error e s := by
  have hleft := h s
  unfold left at hleft
  unfold outcome
  cases hstep : step s with
  | ok a t => rw [hstep] at hleft; rw [← hleft]
  | error e t => rw [hstep] at hleft; rw [← hleft]

theorem Looks.outcome_bind (h : Looks step) (next : α → Act β) (s : Session) :
    (step >>= next).outcome s = (step.outcome s).bind fun a => (next a).outcome s := by
  rw [Act.outcome_bind, h.run_eq]
  cases step.outcome s <;> rfl

/-- A step that only looks, and one that goes on from what was seen. -/
theorem Looks.outcome_bind_eq_ok_iff (h : Looks step) {next : α → Act β} {b : β} :
    (step >>= next).outcome s = .ok b ↔ ∃ a, step.outcome s = .ok a ∧ (next a).outcome s = .ok b := by
  rw [h.outcome_bind]
  cases step.outcome s with
  | ok a => exact ⟨fun hb => ⟨a, rfl, hb⟩, fun ⟨_, ha, hb⟩ => Except.ok.inj ha ▸ hb⟩
  | error e =>
    constructor
    · intro hb
      cases hb
    · rintro ⟨_, ha, _⟩
      cases ha

theorem Looks.left_bind (h : Looks step) (next : α → Act β) (s : Session) :
    (step >>= next).left s = match step.outcome s with
      | .ok a => (next a).left s
      | .error _ => s := by
  have hrun := h.run_eq s
  unfold left
  cases hstep : step.outcome s with
  | ok a => rw [hstep] at hrun; rw [run_bind_ok hrun]
  | error e => rw [hstep] at hrun; rw [run_bind_error hrun]

theorem Looks.bind (h : Looks step) (hnext : ∀ a, Looks (next a)) : Looks (step >>= next) := by
  intro s
  rw [h.left_bind]
  cases step.outcome s with
  | ok a => exact hnext a s
  | error e => rfl

theorem Looks.attempt (h : Looks step) : Looks step.attempt := by
  intro s
  have hleft := h s
  unfold left at *
  rw [attempt_eq]
  exact hleft

theorem looks_anyM {p : α → Act Bool} (h : ∀ a, Looks (p a)) (as : List α) : Looks (as.anyM p) := by
  induction as with
  | nil => exact looks_pure false
  | cons a as ih =>
    refine (h a).bind fun found => ?_
    cases found with
    | true => exact looks_pure true
    | false => exact ih

theorem looks_findM? {α : Type} {p : α → Act Bool} (h : ∀ a, Looks (p a)) (as : List α) :
    Looks (as.findM? p) := by
  induction as with
  | nil => exact looks_pure none
  | cons a as ih =>
    refine (h a).bind fun found => ?_
    cases found with
    | true => exact looks_pure (some a)
    | false => exact ih

/-- Whether a step only looks, and sees the same in two sessions. -/
structure Agrees (s s' : Session) (step : Act α) : Prop where
  looks : Looks step
  outcome : step.outcome s = step.outcome s'

theorem agrees_pure (s s' : Session) (a : α) : Agrees s s' (pure a) := ⟨looks_pure a, rfl⟩

theorem agrees_throw (s s' : Session) (e : Error) : Agrees s s' (throw e : Act α) := ⟨looks_throw e, rfl⟩

theorem agrees_ofExcept (s s' : Session) (r : Except Error α) : Agrees s s' (ofExcept r) :=
  ⟨looks_ofExcept r, by cases r <;> rfl⟩

theorem Agrees.bind (h : Agrees s s' step) (hnext : ∀ a, Agrees s s' (next a)) :
    Agrees s s' (step >>= next) where
  looks := h.looks.bind fun a => (hnext a).looks
  outcome := by
    rw [h.looks.outcome_bind, h.looks.outcome_bind, h.outcome]
    congr 1
    funext a
    exact (hnext a).outcome

theorem Agrees.attempt (h : Agrees s s' step) : Agrees s s' step.attempt where
  looks := h.looks.attempt
  outcome := by
    have hout (t : Session) : step.attempt.outcome t = .ok (step.outcome t) := by
      unfold Act.outcome
      rw [attempt_eq]
      rfl
    rw [hout, hout, h.outcome]

theorem agrees_foldlM {f : β → α → Act β} {as : List α}
    (h : ∀ b, ∀ a ∈ as, Agrees s s' (f b a)) (b : β) : Agrees s s' (as.foldlM f b) := by
  induction as generalizing b with
  | nil => exact agrees_pure s s' b
  | cons a as ih =>
    rw [List.foldlM_cons]
    exact (h b a List.mem_cons_self).bind fun b' => ih (fun b a ha => h b a (List.mem_cons_of_mem _ ha)) b'

end Act

end Stencil
