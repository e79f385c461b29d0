import Stencil.Proofs.Template.Nesting
import Stencil.Proofs.Template.Tallies
import Stencil.Proofs.Template.Untraced

/-! The report of a page without uses of components tells what the source holds: as many loops begin in it as
were counted, the names shown in it are those listed, and every name that is missing is noted in it. Each
stage keeps that, whatever the page is made of, since no text of a file can look like a tag. -/
namespace Stencil.Template

open Target (Construct Tiled loopLead occurrences)
open Text (IsName Piece Recogniser)

/-! ### Steps and the report -/

/-- Whether a step, from reports with a property, has only results and reports with another one. -/
def Expansion.Leads {α : Type} (P : Report → Prop) (x : Expansion α) (Q : α → Report → Prop) : Prop :=
  ∀ ⦃t a t'⦄, P t.report → x t = .ok a t' → Q a t'.report

namespace Expansion

variable {α β : Type} {P : Report → Prop} {Q : α → Report → Prop} {S : β → Report → Prop}

theorem leads_pure {a : α} (h : ∀ r, P r → Q a r) : (pure a : Expansion α).Leads P Q := by
  intro t b t' ht hb
  cases hb
  exact h _ ht

theorem leads_throw (e : Error) : (throw e : Expansion α).Leads P Q := by
  intro t b t' _ hb
  cases hb

theorem leads_lift {x : Tracing α} (h : ∀ t, P t.report → Q (x t).1 (x t).2.report) :
    (monadLift x : Expansion α).Leads P Q := by
  intro t b t' ht hb
  cases hb
  exact h t ht

theorem Leads.bind {x : Expansion α} {f : α → Expansion β} (hx : x.Leads P Q)
    (hf : ∀ a, (f a).Leads (Q a) S) : (x >>= f).Leads P S := by
  intro t b t' ht hb
  obtain ⟨a, t₁, ha, hb⟩ := bind_eq_ok hb
  exact hf a (hx ht ha) hb

/-- A step that cannot fail and keeps a property of the report, before one that starts from it. -/
theorem leads_lift_bind {x : Tracing α} {f : α → Expansion β} (hx : ∀ t, P t.report → P (x t).2.report)
    (hf : ∀ a, (f a).Leads P S) : ((monadLift x : Expansion α) >>= f).Leads P S :=
  (leads_lift (Q := fun _ => P) hx).bind hf

end Expansion

/-! ### Names that are shown and names that are missing -/

/-- Whether a name is shown where its placeholder stands. -/
def Scope.shows (s : Scope) (name : String) : Bool :=
  name != loopEndKeyword && s.isBound name && isRenderable name

/-- Whether a text tells of a name that it is not shown: no value is known, or the name is reserved. -/
def TellsMissing (name : String) (text : List Char) : Prop :=
  diagnostic s!"Variable {name} not found" <:+: text ∨
    isRenderable name = false ∧ diagnostic s!"Variable {name} is reserved" <:+: text

section

variable {n name : String} {scope : Scope} {text out : List Char}

theorem notMem_of_isName (hn : IsName n.toList) {c : Char} (hc : Unicode.isWord c = false) :
    c ∉ n.toList := by
  intro hmem
  rw [hn.word c hmem] at hc
  cases hc

theorem TellsMissing.of_notes (h : TellsMissing n text) (hn : IsName n.toList)
    (hnotes : ∀ p, IsNote p → p <:+: text → p <:+: out) : TellsMissing n out := by
  have hopen := notMem_of_isName hn (c := '<') (by decide)
  have hclose := notMem_of_isName hn (c := '>') (by decide)
  have hsign := notMem_of_isName hn (c := '#') (by decide)
  have hunknown : IsNote (diagnostic s!"Variable {n} not found") :=
    isNote_diagnostic (by simp [toString, hopen]) (by simp [toString, hclose]) (by simp [toString, hsign])
  have hreserved : IsNote (diagnostic s!"Variable {n} is reserved") :=
    isNote_diagnostic (by simp [toString, hopen]) (by simp [toString, hclose]) (by simp [toString, hsign])
  exact h.imp (hnotes _ hunknown) fun h => ⟨h.1, hnotes _ hreserved h.2⟩

theorem TellsMissing.within (h : TellsMissing n text) (hin : text <:+: out) : TellsMissing n out :=
  h.imp (fun h => h.trans hin) fun h => ⟨h.1, h.2.trans hin⟩

/-- A placeholder that shows nothing becomes a note, but for the end of a loop. -/
theorem tellsMissing_placeholderText (hname : name ≠ loopEndKeyword) (h : scope.shows name = false)
    (source : List Char) : TellsMissing name (placeholderText scope name source) := by
  unfold placeholderText
  rw [if_neg hname]
  split
  · exact .inl List.infix_rfl
  split
  · next hreserved => exact .inr ⟨by simpa using hreserved, List.infix_rfl⟩
  · next hbound hrenderable =>
    simp only [Scope.shows, bne_iff_ne.mpr hname, Bool.true_and] at h
    simp_all

theorem isSound_of_shows (h : scope.shows name = true) : (Construct.show name).IsSound := by
  rw [Scope.shows, Bool.and_eq_true] at h
  exact h.2

/-- In the place of a placeholder stands a tag if its name is shown, and no tag else. -/
theorem occurrences_placeholderText {q : List Char} (hq : Target.Begins q) (hname : IsName name.toList) :
    occurrences q (placeholderText scope name []) =
      if scope.shows name then occurrences q (Construct.show name).text else 0 := by
  have hbrace := notMem_of_isName hname (c := '{') (by decide)
  have hnote {message : String} (h : '{' ∉ message.toList) :
      occurrences q (diagnostic message) = 0 :=
    Target.occurrences_of_notMem hq.mem
      (List.not_mem_append (List.not_mem_append (by decide) h) (by decide))
  unfold placeholderText
  split
  · next hkeyword => simp [hkeyword, Scope.shows, occurrences]
  split
  · next hunbound =>
    rw [hnote (by simp [toString, hbrace])]
    simp_all [Scope.shows]
  split
  · next hreserved =>
    rw [hnote (by simp [toString, hbrace])]
    simp_all [Scope.shows]
  · next hkeyword hbound hrenderable =>
    have hshows : scope.shows name = true := by simp_all [Scope.shows]
    rw [if_pos hshows]

theorem occurrences_loopLead_placeholderText (hname : IsName name.toList) :
    occurrences loopLead (placeholderText scope name []) = 0 := by
  rw [occurrences_placeholderText Target.begins_loopLead hname]
  split
  · next hshows => exact Target.occurrences_loopLead_show (isSound_of_shows hshows)
  · rfl

theorem occurrences_show_placeholderText (hn : IsName n.toList) (hname : IsName name.toList) :
    0 < occurrences (Construct.show n).text (placeholderText scope name []) ↔
      name = n ∧ scope.shows name = true := by
  have hbegins := Target.begins_show (notMem_of_isName hn (c := '}') (by decide))
  rw [occurrences_placeholderText hbegins hname]
  split
  · next hshows =>
    rw [Target.occurrences_pos_iff hbegins.ne_nil, Target.show_infix_show_iff (isSound_of_shows hshows)]
    exact ⟨fun h => ⟨h.symm, hshows⟩, fun h => h.1.symm⟩
  · next hshows => simp [hshows]

end

/-! ### Reports and texts -/

/-- Whether the report of a page tells what its text holds so far. Names are shown in one pass only, so the two
lists of names are empty or no name is left to be shown. -/
structure Truthful (r : Report) (text : List Char) : Prop where
  tiled : Tiled text
  unused : Free opensComponent text
  loops : r.loopsExpanded = occurrences loopLead text
  shown : ∀ n, n ∈ r.variablesSubstituted ↔ IsName n.toList ∧ (Construct.show n).text <:+: text
  missing : ∀ n ∈ r.variablesMissing, IsName n.toList ∧ TellsMissing n text
  apart : ∀ n ∈ r.variablesSubstituted, n ∉ r.variablesMissing
  once : r.variablesSubstituted = [] ∧ r.variablesMissing = [] ∨ Free showsName text

namespace Truthful

variable {r r' : Report} {text out : List Char} {scope : Scope}

/-- Of the report, only the number of loops and the two lists of names count. -/
theorem congr (h : Truthful r text) (hloops : r'.loopsExpanded = r.loopsExpanded)
    (hshown : r'.variablesSubstituted = r.variablesSubstituted)
    (hmissing : r'.variablesMissing = r.variablesMissing) : Truthful r' text where
  tiled := h.tiled
  unused := h.unused
  loops := hloops ▸ h.loops
  shown := hshown ▸ h.shown
  missing := hmissing ▸ h.missing
  apart := by rw [hshown, hmissing]; exact h.apart
  once := by rw [hshown, hmissing]; exact h.once

/-- A text with the names and the notes of another one, and with the loops of its own that were counted. -/
theorem of_kept (h : Truthful r text) (htiled : Tiled out)
    (hfree : ∀ {f}, Local f → Free f text → Free f out)
    (hloops : r'.loopsExpanded = occurrences loopLead out)
    (hshown : ∀ n, IsName n.toList →
      occurrences (Construct.show n).text out = occurrences (Construct.show n).text text)
    (hnotes : ∀ p, IsNote p → p <:+: text → p <:+: out)
    (hsubstituted : r'.variablesSubstituted = r.variablesSubstituted)
    (hmissing : r'.variablesMissing = r.variablesMissing) : Truthful r' out where
  tiled := htiled
  unused := hfree opensComponent_isLocal h.unused
  loops := hloops
  shown n := by
    rw [hsubstituted, h.shown, and_congr_right_iff]
    intro hn
    have hne := (Target.begins_show (notMem_of_isName hn (c := '}') (by decide))).ne_nil
    rw [← Target.occurrences_pos_iff hne, ← Target.occurrences_pos_iff hne, hshown n hn]
  missing n hn := by
    rw [hmissing] at hn
    obtain ⟨hname, htells⟩ := h.missing n hn
    exact ⟨hname, htells.of_notes hname hnotes⟩
  apart := by rw [hsubstituted, hmissing]; exact h.apart
  once := by
    rw [hsubstituted, hmissing]
    exact h.once.imp id (hfree showsName_isLocal)

end Truthful

/-! ### Loops -/

/-- What a round over loops reports. -/
theorem convertLoops_report (scope : Scope) (pieces : List (Piece Directive.Loop)) (t : Trace) :
    let r := (convertLoops scope pieces t).2.report
    r.loopsExpanded = t.report.loopsExpanded + gains (fun l => if l.isUsable then 1 else 0) pieces ∧
      r.variablesSubstituted = t.report.variablesSubstituted ∧
      r.variablesMissing = t.report.variablesMissing := by
  induction pieces generalizing scope t with
  | nil => exact ⟨rfl, rfl, rfl⟩
  | cons piece pieces ih =>
    cases piece with
    | char c => exact ih scope t
    | mark l source =>
      obtain ⟨hloops, hsubstituted, hmissing⟩ :=
        ih (convertLoop scope l source t).1.1 (convertLoop scope l source t).2
      have hmine : (convertLoop scope l source t).2.report.loopsExpanded =
          t.report.loopsExpanded + (if l.isUsable then 1 else 0) ∧
          (convertLoop scope l source t).2.report.variablesSubstituted =
            t.report.variablesSubstituted ∧
          (convertLoop scope l source t).2.report.variablesMissing = t.report.variablesMissing := by
        unfold convertLoop
        split <;> exact ⟨rfl, rfl, rfl⟩
      refine ⟨?_, hsubstituted.trans hmine.2.1, hmissing.trans hmine.2.2⟩
      rw [gains, ← Nat.add_assoc, ← hmine.1, ← hloops]
      rfl

theorem truthful_convertLoops {text : List Char} {t : Trace} (h : Truthful t.report text) (scope : Scope) :
    Truthful (convertLoops scope (Directive.loop.pieces text) t).2.report (loopRound text) := by
  obtain ⟨hloops, hsubstituted, hmissing⟩ :=
    convertLoops_report scope (Directive.loop.pieces text) t
  refine h.of_kept (Directive.loop_tiles.replace tiled_loop_put h.tiled) (fun hf => ?_) ?_
    (fun n hn => ?_) (fun p hp => hp.infix_loopRound) hsubstituted hmissing
  · exact (splices_free hf).replace Directive.delimited_of_readLoop sealed_loop_put
      (fun hread _ _ => free_loop_put hf hread) (u := ()) (v := ())
  · rw [hloops, h.loops, occurrences_loopLead_loopRound h.tiled]
  · exact occurrences_show_loopRound (notMem_of_isName hn (by decide)) h.tiled

theorem truthful_loopRounds {text : List Char} {t : Trace} (h : Truthful t.report text) (fuel : Nat)
    (scope : Scope) :
    Truthful (loopRounds fuel scope text t).2.report (loopRounds fuel scope text t).1.2 := by
  induction fuel generalizing scope text t with
  | zero => exact h
  | succ fuel ih =>
    have hround : (convertLoops scope (Directive.loop.pieces text) t).1.2 = loopRound text :=
      convertLoops_text scope _ t
    have hnext := truthful_convertLoops h scope
    rw [loopRounds_succ]
    dsimp only
    rw [← hround] at hnext
    split
    · exact hnext
    · exact ih hnext _

/-! ### Placeholders -/

/-- What the conversion of one placeholder reports. -/
theorem convertVariable_report (scope : Scope) (name : String) (source : List Char) (t : Trace) :
    let r := (convertVariable scope name source t).2.report
    r.loopsExpanded = t.report.loopsExpanded ∧
      (∀ n, n ∈ r.variablesSubstituted ↔
        n ∈ t.report.variablesSubstituted ∨ n = name ∧ scope.shows name = true) ∧
      ∀ n, n ∈ r.variablesMissing ↔ n ∈ t.report.variablesMissing ∨
        n = name ∧ name ≠ loopEndKeyword ∧ scope.shows name = false := by
  unfold convertVariable
  split
  · next hkeyword =>
    have hshows : scope.shows name = false := by simp [Scope.shows, hkeyword]
    exact ⟨rfl, fun n => (or_iff_left (by simp [hshows])).symm,
      fun n => (or_iff_left (by simp [hkeyword])).symm⟩
  next hkeyword =>
    split
    · next hunbound =>
      have hshows : scope.shows name = false := by simp_all [Scope.shows]
      exact ⟨rfl, fun n => (or_iff_left (by simp [hshows])).symm,
        fun n => mem_addName.trans (by simp [hshows, hkeyword])⟩
    split
    · next hreserved =>
      have hshows : scope.shows name = false := by simp_all [Scope.shows]
      exact ⟨rfl, fun n => (or_iff_left (by simp [hshows])).symm,
        fun n => mem_addName.trans (by simp [hshows, hkeyword])⟩
    · next hbound hrenderable =>
      have hshows : scope.shows name = true := by simp_all [Scope.shows]
      exact ⟨rfl, fun n => mem_addName.trans (by simp [hshows]),
        fun n => (or_iff_left (by simp [hshows])).symm⟩

/-- What the conversion of placeholders reports. -/
theorem convertVariables_report (scope : Scope) (pieces : List (Piece String)) (t : Trace) :
    let r := (convertVariables scope pieces t).2.report
    r.loopsExpanded = t.report.loopsExpanded ∧
      (∀ n, n ∈ r.variablesSubstituted ↔ n ∈ t.report.variablesSubstituted ∨
        scope.shows n = true ∧ ∃ source, .mark n source ∈ pieces) ∧
      ∀ n, n ∈ r.variablesMissing ↔ n ∈ t.report.variablesMissing ∨
        (n ≠ loopEndKeyword ∧ scope.shows n = false) ∧ ∃ source, .mark n source ∈ pieces := by
  induction pieces generalizing t with
  | nil =>
    exact ⟨rfl, fun n => (or_iff_left (by simp)).symm, fun n => (or_iff_left (by simp)).symm⟩
  | cons piece pieces ih =>
    cases piece with
    | char c =>
      have hmem (n : String) : (∃ source, Piece.mark n source ∈ .char c :: pieces) ↔
          ∃ source, .mark n source ∈ pieces := by simp
      obtain ⟨hloops, hsubstituted, hmissing⟩ := ih t
      refine ⟨hloops, fun n => ?_, fun n => ?_⟩
      · rw [hmem]
        exact hsubstituted n
      · rw [hmem]
        exact hmissing n
    | mark name source =>
      obtain ⟨hloops, hsubstituted, hmissing⟩ := ih (convertVariable scope name source t).2
      obtain ⟨hloops', hsubstituted', hmissing'⟩ := convertVariable_report scope name source t
      have hmem (n : String) : (∃ source', Piece.mark n source' ∈ .mark name source :: pieces) ↔
          n = name ∨ ∃ source', .mark n source' ∈ pieces := by
        simp [exists_or]
      refine ⟨hloops.trans hloops', fun n => (hsubstituted n).trans ?_, fun n => (hmissing n).trans ?_⟩
      · rw [hsubstituted', hmem]
        by_cases hn : n = name <;> grind
      · rw [hmissing', hmem]
        by_cases hn : n = name <;> grind

section

variable {n name : String} {source text : List Char}

theorem isName_of_mem_placeholders (h : .mark name source ∈ Directive.placeholder.pieces text) :
    IsName name.toList := by
  obtain ⟨rest, -, hread⟩ := Recogniser.exists_read_of_mem_pieces h
  exact Directive.isName_of_readPlaceholder hread

/-- Where no name is left to be shown, the placeholders are ends of loops. -/
theorem eq_keyword_of_mem_placeholders (hfree : Free showsName text)
    (h : .mark name source ∈ Directive.placeholder.pieces text) : name = loopEndKeyword := by
  obtain ⟨rest, hsuffix, hread⟩ := Recogniser.exists_read_of_mem_pieces h
  have hread : Directive.readPlaceholder (source ++ rest) = some (name, rest) := hread
  have := hfree _ hsuffix
  rw [showsName, hread] at this
  simpa using this

/-- A name has its tag in a converted text if the tag was there before, or if it has a placeholder and is
shown. -/
theorem show_infix_placeholders_iff (htext : Tiled text) (hn : IsName n.toList) (scope : Scope) :
    (Construct.show n).text <:+: Directive.placeholder.replace (placeholderText scope) text ↔
      (Construct.show n).text <:+: text ∨
        scope.shows n = true ∧ ∃ source, .mark n source ∈ Directive.placeholder.pieces text := by
  have hbegins := Target.begins_show (notMem_of_isName hn (c := '}') (by decide))
  rw [← Target.occurrences_pos_iff hbegins.ne_nil, ← Target.occurrences_pos_iff hbegins.ne_nil,
    occurrences_placeholders hbegins scope htext, Nat.add_pos_iff_pos_or_pos, gains_pos_iff]
  refine or_congr_right ⟨?_, ?_⟩
  · rintro ⟨name, source, hmem, hpos⟩
    obtain ⟨rfl, hshows⟩ :=
      (occurrences_show_placeholderText hn (isName_of_mem_placeholders hmem)).mp hpos
    exact ⟨hshows, source, hmem⟩
  · rintro ⟨hshows, source, hmem⟩
    exact ⟨n, source, hmem, (occurrences_show_placeholderText hn hn).mpr ⟨rfl, hshows⟩⟩

/-- No placeholder becomes the beginning of a loop. -/
theorem occurrences_loopLead_placeholders (htext : Tiled text) (scope : Scope) :
    occurrences loopLead (Directive.placeholder.replace (placeholderText scope) text) =
      occurrences loopLead text := by
  rw [occurrences_placeholders Target.begins_loopLead scope htext, gains_eq_zero, Nat.add_zero]
  intro name source hmem
  exact occurrences_loopLead_placeholderText (isName_of_mem_placeholders hmem)

end

/-- The conversion of placeholders keeps the report truthful. If names were shown before, none is left. -/
theorem truthful_substituteVariables {text : List Char} {t : Trace} (h : Truthful t.report text)
    (scope : Scope) :
    Truthful (substituteVariables scope text t).2.report
      (Directive.placeholder.replace (placeholderText scope) text) := by
  obtain ⟨hloops, hsubstituted, hmissing⟩ :=
    convertVariables_report scope (Directive.placeholder.pieces text) t
  refine
    { tiled := Directive.placeholder_tiles.replace (tiled_placeholderText scope) h.tiled
      unused := free_placeholders opensComponent_isLocal scope h.unused
      loops := hloops.trans (h.loops.trans (occurrences_loopLead_placeholders h.tiled scope).symm)
      shown := fun n => (hsubstituted n).trans ?_
      missing := fun n hn => ?_
      apart := fun n hn hn' => ?_
      once := .inr (free_showsName_placeholders scope text) }
  · rw [h.shown]
    by_cases hn : IsName n.toList
    · simp [show_infix_placeholders_iff h.tiled hn, hn]
    · refine ⟨fun h => ?_, fun h => absurd h.1 hn⟩
      rcases h with h | ⟨-, source, hmem⟩
      · exact absurd h.1 hn
      · exact absurd (isName_of_mem_placeholders hmem) hn
  · rcases (hmissing n).mp hn with hn | ⟨⟨hne, hshows⟩, source, hmem⟩
    · obtain ⟨hname, htells⟩ := h.missing n hn
      exact ⟨hname, htells.of_notes hname fun p hp => hp.infix_placeholders scope⟩
    · exact ⟨isName_of_mem_placeholders hmem,
        (tellsMissing_placeholderText hne hshows source).within (infix_replace hmem)⟩
  · rcases h.once with ⟨hnone, hnone'⟩ | hfree
    · -- all names come from this stage, which either shows a name or does not
      have hshows := ((hsubstituted n).mp hn).resolve_left (by simp [hnone])
      have hhides := ((hmissing n).mp hn').resolve_left (by simp [hnone'])
      rw [hshows.1] at hhides
      exact absurd hhides.1.2 (by decide)
    · rcases (hmissing n).mp hn' with hn' | ⟨⟨hne, -⟩, source, hmem⟩
      · rcases (hsubstituted n).mp hn with hn | ⟨hshows, source, hmem⟩
        · exact h.apart n hn hn'
        · rw [eq_keyword_of_mem_placeholders hfree hmem] at hshows
          simp [Scope.shows] at hshows
      · exact hne (eq_keyword_of_mem_placeholders hfree hmem)

/-! ### Passes -/

section

variable {lib : Library} {expand : Scope → List Char → Expansion (List Char)}

/-- Whether a stage keeps the report of a page truthful. -/
def Stage.KeepsTruth (stage : Stage) : Prop :=
  ∀ scope text, (stage.run scope text).Leads (Truthful · text) fun out r => Truthful r out.2

theorem leads_includeComponents_chars (P : Report → Prop) (scope : Scope) (s : List Char) :
    (includeComponents lib expand scope (s.map .char)).Leads P fun out r => out = s ∧ P r := by
  induction s with
  | nil => exact Expansion.leads_pure fun r hr => ⟨rfl, hr⟩
  | cons c s ih =>
    refine ih.bind fun out => Expansion.leads_pure ?_
    rintro r ⟨rfl, hr⟩
    exact ⟨rfl, hr⟩

/-- Every one of the usual stages keeps the report truthful. -/
theorem keepsTruth_stages (limit : Nat) :
    ∀ stage ∈ Compiler.stages { library := lib, limit := limit } expand, stage.KeepsTruth := by
  intro stage hstage scope text
  simp only [Compiler.stages, List.append_nil, List.mem_cons, List.not_mem_nil, or_false] at hstage
  rcases hstage with rfl | rfl | rfl | rfl
  · exact Expansion.leads_lift fun t h => truthful_loopRounds h _ scope
  · refine Expansion.leads_lift fun t h => h.of_kept (tiled_convertedComments h.tiled)
      (fun hf => free_convertedComments hf) ?_ (fun n hn => ?_)
      (fun p hp => hp.infix_convertedComments) rfl rfl
    · exact h.loops.trans (occurrences_convertedComments Target.begins_loopLead h.tiled).symm
    · exact occurrences_convertedComments (Target.begins_show (notMem_of_isName hn (by decide))) h.tiled
  · intro t out t' h hrun
    -- no component is used, so the pieces are the characters of the text
    have hpieces := Recogniser.pieces_of_skips (skips_component h.unused)
    have hstill : (resolveComponents lib expand scope text).Leads (Truthful · text)
        fun out r => out = (scope, text) ∧ Truthful r text := by
      unfold resolveComponents
      rw [hpieces]
      refine (leads_includeComponents_chars (Truthful · text) scope text).bind fun out =>
        Expansion.leads_pure ?_
      rintro r ⟨rfl, hr⟩
      exact ⟨rfl, hr⟩
    obtain ⟨rfl, hr⟩ := hstill h hrun
    exact hr
  · refine Expansion.leads_lift fun t h => ?_
    have hnext := truthful_substituteVariables h scope
    rw [substituteVariables_text]
    exact hnext

theorem leads_runStages {stages : List Stage} (h : ∀ stage ∈ stages, stage.KeepsTruth) (scope : Scope)
    (text : List Char) :
    (runStages stages scope text).Leads (Truthful · text) fun out r => Truthful r out.2 := by
  induction stages generalizing scope text with
  | nil => exact Expansion.leads_pure fun _ hr => hr
  | cons stage stages ih =>
    refine (h stage List.mem_cons_self scope text).bind fun out => ?_
    have hrest := ih (fun s hs => h s (List.mem_cons_of_mem _ hs)) out.1 out.2
    dsimp only
    split
    · exact Expansion.leads_lift_bind (fun _ ht => ht) fun _ => hrest
    · exact hrest

theorem leads_settle {pass : Scope → List Char → Expansion (Scope × List Char)}
    (hpass : ∀ scope text, (pass scope text).Leads (Truthful · text) fun out r => Truthful r out.2)
    (limit left : Nat) (scope : Scope) (text : List Char) :
    (settle pass limit left scope text).Leads (Truthful · text) fun out r => Truthful r out.2 := by
  induction left generalizing scope text with
  | zero => exact Expansion.leads_throw _
  | succ left ih =>
    refine (hpass scope text).bind fun out =>
      Expansion.leads_lift_bind (fun _ ht => ht.congr rfl rfl rfl) fun _ => ?_
    split
    · exact Expansion.leads_lift_bind (fun _ ht => ht) fun _ => Expansion.leads_pure fun _ hr => hr
    · exact ih out.1 out.2

/-- However many passes an expansion takes, its report is truthful in the end. -/
theorem leads_expand (limit : Nat) (scope : Scope) (text : List Char) :
    (Compiler.expand { library := lib, limit := limit } scope text).Leads (Truthful · text)
      fun out r => Truthful r out.2 :=
  leads_settle (fun s t => leads_runStages (keepsTruth_stages limit) s t) limit limit scope text

end

/-! ### Pages -/

/-- A page in its layout, with its path, as it is before it is expanded. -/
def composePage (lib : Library) (name : String) (data : Mapping) (layout : Option String) :
    Expansion (Path × Scope × List Char) := do
  let (path, source) ← lib.load .template name
  reporting fun r => { r with templatePath := some path.text }
  let (scope, composed) ← compose lib { templateName := name, data := data, layout := layout } source
  return (path, scope, composed)

/-- A page is composed before it is expanded. -/
theorem compile_eq_composePage (c : Compiler) (name : String) (data : Mapping) (layout : Option String) :
    c.compile name data layout = (do
      let (path, scope, composed) ← composePage c.library name data layout
      let (_, text) ← c.expand scope composed
      reporting warnMissing
      let report := (← get).report
      note (.compiled report.summary)
      return ⟨name, path, text, report⟩) := by
  simp [Compiler.compile, composePage, bind_assoc]

/-- Whether a text is tiled and holds nothing that begins a tag, but for what the token of a brace holds. -/
structure Bare (text : List Char) : Prop where
  tiled : Tiled text
  untagged : ∀ q, Target.Begins q → occurrences q braceToken = 0 → occurrences q text = 0

theorem bare_protect (source : List Char) : Bare (protect source) :=
  ⟨Tiled.protect source, fun _ hq hbrace => occurrences_protect hq hbrace source⟩

section

variable {text : List Char}

theorem infix_of_compositionOf {fallback : Option String} {c : Composition}
    (h : compositionOf fallback text = some c) : c.lead <:+: text ∧ c.body <:+: text := by
  unfold compositionOf at h
  split at h
  · next lead _ body hsearch =>
    cases h
    obtain ⟨source, rfl⟩ := Recogniser.search_eq_some hsearch
    exact ⟨⟨[], source ++ body, by simp⟩, ⟨lead ++ source, [], by simp⟩⟩
  · split at h
    · split at h
      · cases h
      · cases h
        exact ⟨⟨[], text, rfl⟩, List.infix_rfl⟩
    · cases h

/-- A layout puts no tag around a page. -/
theorem bare_compose {lib : Library} (scope : Scope) (h : Bare text) :
    (compose lib scope text).Ensures fun out => Bare out.2 := by
  unfold compose
  split
  · exact Expansion.ensures_pure h
  · next c hc =>
    obtain ⟨hlead, hbody⟩ := tiled_compositionOf h.tiled hc
    obtain ⟨hlead', hbody'⟩ := infix_of_compositionOf hc
    have hload : (lib.load .layout c.layout).Ensures fun file => Bare file.2 :=
      Expansion.ensures_bind fun _ => Expansion.ensures_bind fun source =>
        Expansion.ensures_pure (bare_protect source)
    refine hload.bind fun file hfile => Expansion.ensures_bind fun _ => Expansion.ensures_bind fun _ =>
      Expansion.ensures_pure ⟨hlead.append (tiled_fillLayout hfile.tiled hbody), fun q hq hbrace => ?_⟩
    have hzero := h.untagged q hq hbrace
    rw [hlead.occurrences_append hq, occurrences_fillLayout hq hbody hfile.tiled,
      Target.occurrences_of_part hq.ne_nil hlead' hzero, hfile.untagged q hq hbrace, gains_eq_zero]
    exact fun _ _ _ => Target.occurrences_of_part hq.ne_nil hbody' hzero

end

/-- Whether nothing is in a report yet of what a truthful one tells. -/
def Report.IsFresh (r : Report) : Prop :=
  r.loopsExpanded = 0 ∧ r.variablesSubstituted = [] ∧ r.variablesMissing = []

section

variable {lib : Library} {name : String} {data : Mapping} {layout : Option String}

theorem bare_composePage :
    (composePage lib name data layout).Ensures fun out => Bare out.2.2 := by
  have hload : (lib.load .template name).Ensures fun file => Bare file.2 :=
    Expansion.ensures_bind fun _ => Expansion.ensures_bind fun source =>
      Expansion.ensures_pure (bare_protect source)
  refine hload.bind fun file hfile => Expansion.ensures_bind fun _ => ?_
  exact (bare_compose _ hfile).bind fun out hout => Expansion.ensures_pure hout

theorem leads_load (kind : TemplateKind) (name : String) (P : Report → Prop) :
    (lib.load kind name).Leads P fun _ => P := by
  have hexcept {α : Type} (r : Except Error α) : (Expansion.ofExcept r).Leads P fun _ => P := by
    cases r with
    | ok a => exact Expansion.leads_pure fun _ hr => hr
    | error e => exact Expansion.leads_throw e
  have hfind : (lib.find kind name).Leads P fun _ => P :=
    (hexcept _).bind fun _ => Expansion.leads_lift_bind (fun _ ht => ht) fun _ =>
      Expansion.leads_pure fun _ hr => hr
  exact hfind.bind fun _ => (hexcept _).bind fun _ => Expansion.leads_pure fun _ hr => hr

theorem leads_composePage :
    (composePage lib name data layout).Leads Report.IsFresh fun _ => Report.IsFresh := by
  have hcompose (scope : Scope) (text : List Char) :
      (compose lib scope text).Leads Report.IsFresh fun _ => Report.IsFresh := by
    unfold compose
    split
    · exact Expansion.leads_pure fun _ hr => hr
    · exact (leads_load _ _ _).bind fun _ => Expansion.leads_lift_bind (fun _ ht => ht) fun _ =>
        Expansion.leads_lift_bind (fun _ ht => ht) fun _ => Expansion.leads_pure fun _ hr => hr
  exact (leads_load _ _ _).bind fun _ => Expansion.leads_lift_bind (fun _ ht => ht) fun _ =>
    (hcompose _ _).bind fun _ => Expansion.leads_pure fun _ hr => hr

/-- Of a text without tags and uses of components a report without loops and names is true. -/
theorem Report.IsFresh.truthful {r : Report} (hr : r.IsFresh) {text : List Char} (h : Bare text)
    (hunused : Free opensComponent text) : Truthful r text where
  tiled := h.tiled
  unused := hunused
  loops := by
    rw [hr.1, h.untagged loopLead Target.begins_loopLead (by decide)]
  shown n := by
    rw [hr.2.1]
    refine ⟨fun hn => absurd hn List.not_mem_nil, fun ⟨hn, hin⟩ => ?_⟩
    have hbegins := Target.begins_show (notMem_of_isName hn (c := '}') (by decide))
    have hbar : occurrences (Construct.show n).text braceToken = 0 :=
      Target.occurrences_of_notMem (c := '|') (by simp [Target.text_show_cons]) (by decide)
    have hpos := (Target.occurrences_pos_iff hbegins.ne_nil).mpr hin
    rw [h.untagged _ hbegins hbar] at hpos
    exact absurd hpos (Nat.lt_irrefl 0)
  missing n hn := by
    rw [hr.2.2] at hn
    cases hn
  apart n hn := by
    rw [hr.2.1] at hn
    cases hn
  once := .inl hr.2

/-- The warnings that come last change nothing else in the report, and there is one for every missing name. -/
theorem warnMissing_eq (r : Report) :
    warnMissing r = { r with warnings := r.warnings ++
      (sortedNames r.variablesMissing).map fun n => s!"Unresolved variable: {n}" } := by
  unfold warnMissing
  generalize sortedNames r.variablesMissing = names
  induction names generalizing r with
  | nil => simp
  | cons n names ih =>
    rw [List.foldl_cons, ih]
    simp [Report.warn]

/-- The report tells the truth about the source. If the page in its layout uses no component, then as many
loops begin in its source as the report counts, the names shown in it are those that the report lists, and
every name that is missing has a note in the source and a warning; no name is both. -/
theorem compile_truthful (lib : Library) (limit : Nat) (name : String) (data : Mapping)
    (layout : Option String) {t t' : Trace} {page : Compiled}
    (hunused : (composePage lib name data layout).Ensures fun out =>
      ∀ s, s <:+ out.2.2 → Directive.componentOpener s = none)
    (hreport : t.report = { templateName := name })
    (h : ({ library := lib, limit := limit } : Compiler).compile name data layout t = .ok page t') :
    page.report.loopsExpanded = occurrences loopLead page.source ∧
    (∀ n, n ∈ page.report.variablesSubstituted ↔
      IsName n.toList ∧ (Construct.show n).text <:+: page.source) ∧
    (∀ n ∈ page.report.variablesMissing,
      TellsMissing n page.source ∧ s!"Unresolved variable: {n}" ∈ page.report.warnings) ∧
    ∀ n ∈ page.report.variablesSubstituted, n ∉ page.report.variablesMissing := by
  rw [compile_eq_composePage] at h
  obtain ⟨⟨path, scope, composed⟩, t₁, hcomposed, h⟩ := Expansion.bind_eq_ok h
  obtain ⟨⟨_, text⟩, t₂, hexpand, h⟩ := Expansion.bind_eq_ok h
  have hfresh : t₁.report.IsFresh :=
    leads_composePage (hreport ▸ ⟨rfl, rfl, rfl⟩ : t.report.IsFresh) hcomposed
  have hfree : Free opensComponent composed := fun s hs => by
    rw [opensComponent, hunused hcomposed s hs]
    rfl
  have htrue : Truthful t₂.report text :=
    leads_expand limit scope composed (hfresh.truthful (bare_composePage hcomposed) hfree) hexpand
  cases h
  have hkept : Truthful (warnMissing t₂.report) text := by
    rw [warnMissing_eq]
    exact htrue.congr rfl rfl rfl
  refine ⟨hkept.loops, hkept.shown, fun n hn => ⟨(hkept.missing n hn).2, ?_⟩, hkept.apart⟩
  change n ∈ (warnMissing t₂.report).variablesMissing at hn
  change _ ∈ (warnMissing t₂.report).warnings
  rw [warnMissing_eq] at hn ⊢
  exact List.mem_append_right _ (List.mem_map_of_mem (List.mem_mergeSort.mpr hn))

theorem untraced_composePage : (composePage lib name data layout).Untraced := by
  have hcompose (scope : Scope) (text : List Char) : (compose lib scope text).Untraced := by
    unfold compose
    split
    · exact Expansion.untraced_pure _
    · exact (untraced_load _ _).bind fun _ => Expansion.untraced_lift_unit <|
        Expansion.untraced_lift_unit (Expansion.untraced_pure _)
  exact (untraced_load _ _).bind fun _ => Expansion.untraced_lift_unit <|
    (hcompose _ _).bind fun _ => Expansion.untraced_pure _

end

/-- A page in a layout, with a loop, a remark, a name that is shown, one that is missing and one that is
reserved, and with braces that look like tags. -/
def talliedLibrary : Library := .ofTexts
  [((.template, "page"),
      "<: layout \"base\" :><: for x in xs :><: x :><: endfor :><: gone :># <: xs :> #"),
   ((.layout, "base"), "\x7b% for <: content :>\x7b\x7b x|display \x7d\x7d<: loop :>")]

def talliedData : Mapping := [(.str "xs", .list []), (.str "loop", .null)]

theorem compile_truthful_tallied :
    ((composePage talliedLibrary "page" talliedData none).Ensures fun out =>
      ∀ s, s <:+ out.2.2 → Directive.componentOpener s = none) ∧
    ∃ page t', ({ library := talliedLibrary } : Compiler).compile "page" talliedData none
        { report := { templateName := "page" } } = .ok page t' ∧
      page.report.loopsExpanded = occurrences loopLead page.source ∧
      (∀ n, n ∈ page.report.variablesSubstituted ↔
        IsName n.toList ∧ (Construct.show n).text <:+: page.source) ∧
      (∀ n ∈ page.report.variablesMissing,
        TellsMissing n page.source ∧ s!"Unresolved variable: {n}" ∈ page.report.warnings) ∧
      ∀ n ∈ page.report.variablesSubstituted, n ∉ page.report.variablesMissing := by
  have hunused : (composePage talliedLibrary "page" talliedData none).Ensures fun out =>
      ∀ s, s <:+ out.2.2 → Directive.componentOpener s = none := by
    have hall := untraced_composePage.ensures_of_run (x := composePage talliedLibrary "page" talliedData none)
      (fun out => out.2.2.tails.all fun s => (Directive.componentOpener s).isNone)
      { report := { templateName := "page" } } (by decide +kernel)
    intro t out t' hout s hs
    simpa using List.all_eq_true.mp (hall hout) s ((List.mem_tails s out.2.2).mpr hs)
  obtain ⟨page, t', h⟩ := Expansion.exists_ok_of_succeeds
    (x := ({ library := talliedLibrary } : Compiler).compile "page" talliedData none)
    (t := { report := { templateName := "page" } }) (by decide +kernel)
  exact ⟨hunused, page, t', h, compile_truthful talliedLibrary 100 "page" talliedData none hunused rfl h⟩

end Stencil.Template
