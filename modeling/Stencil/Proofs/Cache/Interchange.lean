import Stencil.Cache.Store
import Stencil.Proofs.Cache.Directory

/-! A memory and a directory are interchangeable: they answer every run of calls alike, and of the files that
were there the directory leaves all as they were. -/
namespace Stencil.Cache

open Act (run_bind_ok run_bind_error run_get_bind)
open FileTree (Keeps)

/-- A call of a store. A value is kept for a whole number of seconds, or for ever. -/
inductive Call where
  | get (key : String)
  | put (key value : String) (seconds : Option Int)
  | deleteAll
  | deleteByPrefix (start : String)
  deriving Repr, DecidableEq

/-- What a call comes back with. -/
inductive Answer where
  | found (value : Option String)
  | done
  | told (any : Bool)
  deriving Repr, DecidableEq

namespace Store

/-- One call of a store. -/
def call (store : Store) : Call → Act (Answer × Store)
  | .get key => do
    let (value, store) ← store.read key
    return (.found value, store)
  | .put key value seconds => do return (.done, ← store.put key value (seconds.map .whole))
  | .deleteAll => do return (.told true, ← store.clear)
  | .deleteByPrefix start => do
    let (any, store) ← store.removeLike start
    return (.told any, store)

/-- The answers to calls, each at its time. A call that fails leaves the store as it was. -/
def serve : Store → List (Float × Call) → Act (List (Except Error Answer))
  | _, [] => return []
  | store, (now, call) :: calls => do
    modify fun s => { s with now }
    match ← Act.attempt (store.call call) with
    | .ok (answer, store) => return .ok answer :: (← serve store calls)
    | .error e => return .error e :: (← serve store calls)

end Store

/-- One call of a memory. -/
def Memory.call (m : Memory) (now : Float) : Call → Except Error (Answer × Memory)
  | .get key => .ok (.found (m.read now key).1, (m.read now key).2)
  | .put key value seconds => (m.put now key value (seconds.map .whole)).map fun m => (.done, m)
  | .deleteAll => .ok (.told true, {})
  | .deleteByPrefix start => .ok (.told (m.removeLike start).1, (m.removeLike start).2)

/-- A memory looks at nothing of a session but its clock. -/
theorem Store.call_memory (m : Memory) (call : Call) (s : Session) :
    ((Store.memory m).call call).attempt s =
      .ok ((m.call s.now call).map fun r => (r.1, Store.memory r.2)) s := by
  cases call with
  | get key => rfl
  | put key value seconds =>
    rw [Memory.call]
    cases hput : m.put s.now key value (seconds.map .whole) with
    | ok m' =>
      have hkept : Act.ofExcept (m.put s.now key value (seconds.map .whole)) s = .ok m' s := by
        rw [hput]
        rfl
      have hstore : (Store.memory m).put key value (seconds.map .whole) s = .ok (.memory m') s :=
        run_bind_ok hkept
      exact Act.run_attempt_ok (run_bind_ok hstore)
    | error e =>
      have hrefused : Act.ofExcept (m.put s.now key value (seconds.map .whole)) s = .error e s := by
        rw [hput]
        rfl
      have hstore : (Store.memory m).put key value (seconds.map .whole) s = .error e s :=
        (run_get_bind _ _).trans (run_bind_error hrefused)
      exact Act.run_attempt_error (run_bind_error hstore)
  | deleteAll => rfl
  | deleteByPrefix start => rfl

namespace Directory

/-- Whether the keys of a call can be the names of files. -/
def IsServable (directory : Path) : Call → Prop
  | .get key => IsNameable directory key
  | .put key _ _ => IsWritable directory key
  | .deleteAll => True
  | .deleteByPrefix start => isPlain start = true

/-- Whether a directory is there or can be made, may be searched then, and holds no file of an entry. -/
def IsFresh (directory : Path) (s : Session) : Prop :=
  ∃ made, s.tree.makeDirectories s.cwd directory.parts.length directory = .ok made ∧
    (∀ place e, made.find true s.cwd directory = .ok (place, e) → place ∉ made.locked) ∧
    ∀ name ∈ made.names s.cwd directory, name.endsWith entrySuffix = false

/-- Whether a directory stands for a memory: either it holds the entries of the memory, or the memory is empty
and the directory is still to be made. -/
inductive StandsFor (directory : Path) (before made : FileTree) (place : List String) :
    Memory → Session → Prop
  | held {m : Memory} {s : Session} (hmirrors : Mirrors directory place m s)
    (hothers : SameOthers place made s.tree) : StandsFor directory before made place m s
  | unmade {s : Session} (hbefore : s.tree = before) (habsent : s.tree.hasEntry s.cwd directory = .ok false)
    (hmade : s.tree.makeDirectories s.cwd directory.parts.length directory = .ok made)
    (hmirrors : Mirrors directory place {} { s with tree := made }) :
    StandsFor directory before made place {} s

variable {directory : Path} {before made : FileTree} {place : List String} {m : Memory} {s s' : Session}
  {key start value : String} {lifetime : Option Lifetime}

theorem StandsFor.at_time (h : StandsFor directory before made place m s) (now : Float) :
    StandsFor directory before made place m { s with now } := by
  cases h with
  | held hmirrors hothers => exact .held (hmirrors.at_time now) hothers
  | unmade hbefore habsent hmade hmirrors => exact .unmade hbefore habsent hmade (hmirrors.at_time now)

/-- A fresh directory stands for a memory without entries. -/
theorem IsFresh.standsFor (h : IsFresh directory s) :
    ∃ made place, StandsFor directory s.tree made place {} s ∧ Keeps s.tree made ∧
      ∀ key, made.get? (place ++ [entryName key]) = none := by
  obtain ⟨made, hmade, hopen, hnames⟩ := h
  obtain ⟨hkeeps, place, hfound⟩ := FileTree.makeDirectories_keeps hmade
  have hnone (key : String) : made.get? (place ++ [entryName key]) = none := by
    refine Classical.byContradiction fun hthere => ?_
    rw [FileTree.names_of_find hfound] at hnames
    have hends := hnames _ (FileTree.mem_namesBelow.mpr hthere)
    rw [endsWith_entryName] at hends
    cases hends
  have hmirrors : Mirrors directory place {} { s with tree := made } := by
    refine ⟨hfound, hopen _ _ hfound, ?_, fun key => ?_⟩
    · rintro _ _ ⟨⟩
    · rw [show ({ s with tree := made } : Session).tree.get? (place ++ [entryName key]) = none from hnone key]
      exact .absent
  refine ⟨made, place, ?_, hkeeps, hnone⟩
  rcases FileTree.directory_or_absent hmade with ⟨_, hfound'⟩ | habsent
  · rw [FileTree.makeDirectories_of_find hfound'] at hmade
    cases hmade
    exact .held hmirrors (.refl _ _)
  · exact .unmade rfl habsent hmade hmirrors

/-- What was there before is there still. -/
theorem StandsFor.keeps (h : StandsFor directory before made place m s) (hkeeps : Keeps before made)
    (hnone : ∀ key, made.get? (place ++ [entryName key]) = none) : Keeps before s.tree := by
  cases h with
  | held hmirrors hothers =>
    refine ⟨fun q e hq => ?_, hothers.locked.trans hkeeps.locked⟩
    have hmade := hkeeps.entries q e hq
    rw [hothers.entries q, hmade]
    rintro key rfl
    rw [hnone key] at hmade
    cases hmade
  | unmade hbefore _ _ _ =>
    rw [hbefore]
    exact .refl _

/-! ### One call -/

/-- Nothing is found in a directory that is still to be made. -/
theorem run_read_unmade (hmade : s.tree.makeDirectories s.cwd directory.parts.length directory = .ok made)
    (hmirrors : Mirrors directory place {} { s with tree := made }) (hkey : IsNameable directory key) :
    read directory key s = .ok none s := by
  have hthere := (hmirrors.isFileOf hkey).find true
  have hnone : made.get? (place ++ [entryName key]) = none := by
    have hfiled : Filed key none (made.get? (place ++ [entryName key])) := hmirrors.filed key
    generalize made.get? (place ++ [entryName key]) = entry at hfiled
    cases hfiled
    rfl
  have habsent : s.tree.hasEntry s.cwd (entryPath directory key) = .ok false := by
    rw [entryPath_of_isPlain hkey.plain]
    rcases (FileTree.makeDirectories_keeps hmade).1.find true s.cwd (directory.child (entryName key)) with
      hmissing | ⟨_, hfind⟩ | hsame
    · rw [FileTree.hasEntry, FileTree.entry?, hmissing]
      rfl
    · exact FileTree.hasEntry_of_find hfind
    · have hfind : s.tree.find true s.cwd (directory.child (entryName key)) =
          .ok (place ++ [entryName key], none) := by
        rw [← hsame, ← hnone]
        exact hthere
      exact FileTree.hasEntry_of_find hfind
  have hread : Files.readJson? (entryPath directory key) s = .ok none s := by
    unfold Files.readJson?
    rw [run_bind_ok (Files.run_hasEntry habsent)]
    rfl
  unfold read
  rw [run_bind_ok (run_readEntry hread)]
  rfl

theorem StandsFor.run_read (h : StandsFor directory before made place m s) (hkey : IsNameable directory key) :
    ∃ t, read directory key s = .ok (m.read s.now key).1 { s with tree := t } ∧
      StandsFor directory before made place (m.read s.now key).2 { s with tree := t } := by
  cases h with
  | held hmirrors hothers =>
    obtain ⟨t, hread, hmirrors, hsame⟩ := hmirrors.run_read hkey
    exact ⟨t, hread, .held hmirrors (hothers.trans hsame)⟩
  | unmade hbefore habsent hmade hmirrors =>
    exact ⟨s.tree, run_read_unmade hmade hmirrors hkey, .unmade hbefore habsent hmade hmirrors⟩

/-- Before a value is written, the directory is there. -/
theorem StandsFor.run_ensure (h : StandsFor directory before made place m s) :
    ∃ t, Files.ensureDirectory directory true s = .ok () { s with tree := t } ∧
      Mirrors directory place m { s with tree := t } ∧ SameOthers place made t := by
  cases h with
  | held hmirrors hothers =>
    exact ⟨s.tree, Files.run_ensureDirectory_found hmirrors.found, hmirrors, hothers⟩
  | unmade hbefore habsent hmade hmirrors =>
    exact ⟨made, Files.run_ensureDirectory_made habsent hmade, hmirrors, .refl _ _⟩

theorem StandsFor.run_put {m' : Memory} (h : StandsFor directory before made place m s)
    (hkey : IsWritable directory key) (hput : m.put s.now key value lifetime = .ok m') :
    ∃ t, put directory key value lifetime s = .ok () { s with tree := t } ∧
      StandsFor directory before made place m' { s with tree := t } := by
  obtain ⟨t₁, hensure, hmirrors, hothers⟩ := h.run_ensure
  obtain ⟨t, hput, hmirrors, hsame⟩ := hmirrors.run_put hensure hkey hput
  exact ⟨t, hput, .held hmirrors (hothers.trans hsame)⟩

theorem StandsFor.run_put_error {e : Error} (h : StandsFor directory before made place m s)
    (hput : m.put s.now key value lifetime = .error e) :
    ∃ t, put directory key value lifetime s = .error e { s with tree := t } ∧
      StandsFor directory before made place m { s with tree := t } := by
  obtain ⟨t, hensure, hmirrors, hothers⟩ := h.run_ensure
  exact ⟨t, Directory.run_put_error hensure hput, .held hmirrors hothers⟩

theorem StandsFor.run_removeLike (h : StandsFor directory before made place m s)
    (hstart : isPlain start = true) :
    ∃ t, removeLike directory start s = .ok (m.removeLike start).1 { s with tree := t } ∧
      StandsFor directory before made place (m.removeLike start).2 { s with tree := t } := by
  cases h with
  | held hmirrors hothers =>
    obtain ⟨t, hremove, hmirrors, hsame⟩ := hmirrors.run_removeLike hstart
    exact ⟨t, hremove, .held hmirrors (hothers.trans hsame)⟩
  | unmade hbefore habsent hmade hmirrors =>
    refine ⟨s.tree, ?_, .unmade hbefore habsent hmade hmirrors⟩
    unfold removeLike
    rw [run_bind_ok (Files.run_hasEntry habsent)]
    rfl

/-- A call that the memory answers is answered alike, and the directory stands for the memory after it. -/
theorem StandsFor.call_ok {call : Call} {answer : Answer} {m' : Memory}
    (h : StandsFor directory before made place m s) (hcall : IsServable directory call)
    (hanswer : m.call s.now call = .ok (answer, m')) :
    ∃ t, (Store.directory directory).call call s = .ok (answer, .directory directory) { s with tree := t } ∧
      StandsFor directory before made place m' { s with tree := t } := by
  cases call with
  | get key =>
    cases hanswer
    obtain ⟨t, hread, hnext⟩ := h.run_read hcall
    have hstore : (Store.directory directory).read key s = .ok (_, .directory directory) _ := run_bind_ok hread
    exact ⟨t, run_bind_ok hstore, hnext⟩
  | put key value seconds =>
    cases hput : m.put s.now key value (seconds.map .whole) with
    | error e =>
      rw [Memory.call, hput] at hanswer
      cases hanswer
    | ok m₁ =>
      rw [Memory.call, hput] at hanswer
      cases hanswer
      obtain ⟨t, hrun, hnext⟩ := h.run_put hcall hput
      have hstore : (Store.directory directory).put key value (seconds.map .whole) s =
          .ok (.directory directory) _ := run_bind_ok hrun
      exact ⟨t, run_bind_ok hstore, hnext⟩
  | deleteAll =>
    cases hanswer
    have hplain : isPlain "" = true := rfl
    have hempty : (m.removeLike "").2 = {} := by simp [Memory.removeLike]
    obtain ⟨t, hremove, hnext⟩ := h.run_removeLike hplain
    rw [hempty] at hnext
    have hstore : (Store.directory directory).clear s = .ok (.directory directory) _ := run_bind_ok hremove
    exact ⟨t, run_bind_ok hstore, hnext⟩
  | deleteByPrefix start =>
    cases hanswer
    obtain ⟨t, hremove, hnext⟩ := h.run_removeLike hcall
    have hstore : (Store.directory directory).removeLike start s = .ok (_, .directory directory) _ :=
      run_bind_ok hremove
    exact ⟨t, run_bind_ok hstore, hnext⟩

/-- A call of a directory that cannot write fails. -/
theorem call_put_error {e : Error} {seconds : Option Int}
    (h : put directory key value (seconds.map .whole) s = .error e s') :
    (Store.directory directory).call (.put key value seconds) s = .error e s' := by
  have hstore : (Store.directory directory).put key value (seconds.map .whole) s = .error e s' :=
    run_bind_error h
  exact run_bind_error hstore

/-- A call that fails for the memory fails alike. -/
theorem StandsFor.call_error {call : Call} {e : Error} (h : StandsFor directory before made place m s)
    (herror : m.call s.now call = .error e) :
    ∃ t, (Store.directory directory).call call s = .error e { s with tree := t } ∧
      StandsFor directory before made place m { s with tree := t } := by
  cases call with
  | put key value seconds =>
    cases hput : m.put s.now key value (seconds.map .whole) with
    | ok m' =>
      rw [Memory.call, hput] at herror
      cases herror
    | error e' =>
      rw [Memory.call, hput] at herror
      cases herror
      obtain ⟨t, hrun, hnext⟩ := h.run_put_error hput
      exact ⟨t, call_put_error hrun, hnext⟩
  | get key => cases herror
  | deleteAll => cases herror
  | deleteByPrefix start => cases herror

/-! ### Runs of calls -/

/-- From a directory that stands for a memory on, all answers are alike. -/
theorem StandsFor.run_serve (h : StandsFor directory before made place m s) (calls : List (Float × Call))
    (hcalls : ∀ c ∈ calls, IsServable directory c.2) (u : Session) :
    ∃ answers m' s' u', (Store.memory m).serve calls u = .ok answers u' ∧
      (Store.directory directory).serve calls s = .ok answers s' ∧
      StandsFor directory before made place m' s' := by
  induction calls generalizing m s u with
  | nil => exact ⟨[], m, s, u, rfl, rfl, h⟩
  | cons c calls ih =>
    obtain ⟨now, call⟩ := c
    have hnow := h.at_time now
    have hrest : ∀ c ∈ calls, IsServable directory c.2 := fun c hc => hcalls c (List.mem_cons_of_mem _ hc)
    have hmemory := Store.call_memory m call { u with now }
    cases hanswer : m.call now call with
    | ok r =>
      obtain ⟨t, hdirectory, hnext⟩ := hnow.call_ok (hcalls _ List.mem_cons_self) hanswer
      obtain ⟨answers, m', s', u', hmemories, hdirectories, hlast⟩ := ih hnext hrest { u with now }
      rw [show ({ u with now } : Session).now = now from rfl, hanswer] at hmemory
      exact ⟨.ok r.1 :: answers, m', s', u', (run_bind_ok hmemory).trans (run_bind_ok hmemories),
        (run_bind_ok (Act.run_attempt_ok hdirectory)).trans (run_bind_ok hdirectories), hlast⟩
    | error e =>
      obtain ⟨t, hdirectory, hnext⟩ := hnow.call_error hanswer
      obtain ⟨answers, m', s', u', hmemories, hdirectories, hlast⟩ := ih hnext hrest { u with now }
      rw [show ({ u with now } : Session).now = now from rfl, hanswer] at hmemory
      exact ⟨.error e :: answers, m', s', u', (run_bind_ok hmemory).trans (run_bind_ok hmemories),
        (run_bind_ok (Act.run_attempt_error hdirectory)).trans (run_bind_ok hdirectories), hlast⟩

end Directory

/-- A fresh directory answers every run of calls as a fresh memory does, and leaves all that was there before as
it was. -/
theorem Store.serve_directory_eq_memory {directory : Path} {s : Session} {calls : List (Float × Call)}
    (hfresh : Directory.IsFresh directory s) (hcalls : ∀ c ∈ calls, Directory.IsServable directory c.2)
    (u : Session) :
    ∃ answers, ((Store.memory {}).serve calls).outcome u = .ok answers ∧
      ((Store.directory directory).serve calls).outcome s = .ok answers ∧
      ∀ place e, s.tree.get? place = some e →
        (((Store.directory directory).serve calls).left s).tree.get? place = some e := by
  obtain ⟨made, place, hstands, hkeeps, hnone⟩ := hfresh.standsFor
  obtain ⟨answers, m, s', u', hmemory, hdirectory, hlast⟩ := hstands.run_serve calls hcalls u
  refine ⟨answers, by rw [Act.outcome, hmemory], by rw [Act.outcome, hdirectory], ?_⟩
  rw [Act.left, hdirectory]
  exact (hlast.keeps hkeeps hnone).entries

/-! ### A run -/

/-- A directory with a file of another kind. -/
def notes : Session where
  tree := {
    entries := [(["cache"], .directory), (["cache", "notes.txt"], .file [104, 105] 1 1)]
    stamp := 2 }

/-- Calls that see an entry live, expired and taken away. -/
def fewCalls : List (Float × Call) :=
  [(0, .put "a.1" "é" (some 5)), (1, .get "a.1"), (5, .get "a.1"), (6, .deleteByPrefix "a"),
    (7, .put "b" "B" none), (8, .deleteByPrefix "b"), (9, .deleteAll)]

theorem find_notes :
    notes.tree.find true notes.cwd (Path.ofString "cache") = .ok (["cache"], some .directory) := by
  have hp : Path.ofString "cache" = ⟨"", ["cache"]⟩ := by decide
  rw [FileTree.find_eq_walk (by decide) (by decide), hp]
  refine (FileTree.walk_directory (by decide) rfl).trans ?_
  rw [FileTree.walk]
  rfl

theorem isFresh_notes : Directory.IsFresh (Path.ofString "cache") notes := by
  refine ⟨notes.tree, FileTree.makeDirectories_of_find find_notes, fun _ _ _ => List.not_mem_nil, fun name hname => ?_⟩
  rw [FileTree.names_of_find find_notes, FileTree.mem_namesBelow] at hname
  have hnotes : name = "notes.txt" := by
    refine Classical.byContradiction fun hne => hname ?_
    have hbeq : (name == "notes.txt") = false := by simpa using hne
    simp [notes, FileTree.get?, List.lookup_cons, hbeq]
  rw [hnotes]
  decide +kernel

theorem isServable_of_mem_fewCalls : ∀ c ∈ fewCalls, Directory.IsServable (Path.ofString "cache") c.2 := by
  have ha : Directory.IsWritable (Path.ofString "cache") "a.1" :=
    ⟨⟨by decide, by decide, by decide⟩, by decide⟩
  have hb : Directory.IsWritable (Path.ofString "cache") "b" :=
    ⟨⟨by decide, by decide, by decide⟩, by decide⟩
  simp [fewCalls, Directory.IsServable, ha, hb, ha.toIsNameable]
  decide

theorem Store.serve_directory_eq_memory_notes :
    (((Store.directory (Path.ofString "cache")).serve fewCalls).outcome notes).toOption.map
        (List.map Except.toOption) =
      some [some .done, some (.found (some "é")), some (.found none), some (.told false), some .done,
        some (.told true), some (.told true)] ∧
    (((Store.directory (Path.ofString "cache")).serve fewCalls).left notes).tree.get? ["cache", "notes.txt"] =
      some (.file [104, 105] 1 1) := by
  obtain ⟨answers, hmemory, hdirectory, hkeeps⟩ :=
    Store.serve_directory_eq_memory isFresh_notes isServable_of_mem_fewCalls {}
  refine ⟨?_, hkeeps _ _ rfl⟩
  rw [hdirectory, ← hmemory]
  decide +kernel

/-! ### Where a directory is not enough -/

theorem Store.serve_single_error {store : Store} {s s' : Session} {now : Float} {call : Call} {e : Error}
    (h : store.call call { s with now } = .error e s') :
    (store.serve [(now, call)]).outcome s = .ok [.error e] := by
  have hserve : store.serve [(now, call)] s = .ok [.error e] s' := run_bind_ok (Act.run_attempt_error h)
  rw [Act.outcome, hserve]

/-- A directory refuses a key of which the file in the making has too long a name. -/
theorem Store.serve_put_long {directory : Path} {s : Session} {key : String}
    (hfresh : Directory.IsFresh directory s) (hkey : Directory.IsNameable directory key)
    (hlong : FileTree.nameLimit < FileTree.nameSize (Directory.entryName key) + Files.draftMargin)
    (now : Float) (value : String) :
    ((Store.directory directory).serve [(now, .put key value none)]).outcome s =
      .ok [.error (.system .nameTooLong (Directory.entryPath directory key).text)] := by
  obtain ⟨made, place, hstands, -⟩ := hfresh.standsFor
  obtain ⟨t, hensure, hmirrors, -⟩ := (hstands.at_time now).run_ensure
  have hput : Directory.put directory key value none { s with now } =
      .error (.system .nameTooLong (Directory.entryPath directory key).text) { s with now, tree := t } :=
    hmirrors.run_put_long hensure hkey hlong rfl
  exact Store.serve_single_error (Directory.call_put_error hput)

/-- A directory that cannot be made refuses every value. -/
theorem Store.serve_put_unmade {directory q : Path} {s : Session} {fault : PathFault}
    (habsent : s.tree.hasEntry s.cwd directory = .ok false)
    (hmade : s.tree.makeDirectories s.cwd directory.parts.length directory = .error (fault, q))
    (now : Float) (key value : String) (seconds : Option Int) :
    ((Store.directory directory).serve [(now, .put key value seconds)]).outcome s =
      .ok [.error (.ofPathFault fault q.text)] := by
  have hput : Directory.put directory key value (seconds.map .whole) { s with now } =
      .error (.ofPathFault fault q.text) { s with now } :=
    run_bind_error (Files.run_ensureDirectory_error habsent hmade)
  exact Store.serve_single_error (Directory.call_put_error hput)

/-- A key of so many letters. -/
def letters (n : Nat) : String := String.ofList (List.replicate n 'k')

theorem isPlain_letters (n : Nat) : Directory.isPlain (letters n) = true := by
  rw [Directory.isPlain, letters, String.toList_ofList]
  refine List.all_eq_true.mpr fun c hc => ?_
  rw [List.eq_of_mem_replicate hc]
  rfl

theorem nameSize_entryName_letters (n : Nat) :
    FileTree.nameSize (Directory.entryName (letters n)) = n + 11 := by
  have hchar : Text.Utf8.encodeChar 'k' = [107] := by decide
  have hletters : FileTree.nameSize (letters n) = n := by
    rw [FileTree.nameSize, letters, String.toList_ofList, Text.Utf8.encode]
    simp [List.length_flatMap, hchar]
  rw [Directory.entryName, FileTree.nameSize_append, hletters]
  rfl

theorem isNameable_letters {n : Nat} (hn : n ≤ 244) :
    Directory.IsNameable (Path.ofString "cache") (letters n) := by
  have hname : FileTree.nameSize (Directory.entryName (letters n)) ≤ FileTree.nameLimit := by
    rw [nameSize_entryName_letters, FileTree.nameLimit]
    omega
  have hp : Path.ofString "cache" = ⟨"", ["cache"]⟩ := by decide
  have htext : (⟨"", ["cache"] ++ [Directory.entryName (letters n)]⟩ : Path).text =
      "cache/" ++ Directory.entryName (letters n) := by
    simp [Path.text]
  have hfront : FileTree.nameSize "cache/" = 6 := by decide
  refine ⟨isPlain_letters n, hname, ?_⟩
  rw [(Directory.isEntryName_entryName (isPlain_letters n) hname).child, hp, htext, FileTree.nameSize_append,
    nameSize_entryName_letters, hfront, FileTree.pathLimit]
  omega

/-- A file where a directory should be. -/
def blocked : Session where
  tree := { entries := [(["cache"], .file [] 1 1)], stamp := 2 }

theorem find_blocked (follow : Bool) :
    blocked.tree.find follow blocked.cwd (Path.ofString "cache/x") = .error .notDirectory := by
  have hp : Path.ofString "cache/x" = ⟨"", ["cache", "x"]⟩ := by decide
  rw [FileTree.find_eq_walk (by decide) (by decide), hp]
  exact FileTree.walk_cons (by decide)

/-- A memory keeps what a directory refuses: a key of 240 letters, of which the file has a name but the file in
the making has none, and any key if a file is in the way of the directory. -/
theorem Store.serve_directory_ne_memory :
    ((Store.memory {}).serve [(0, .put (letters 240) "A" none)]).outcome notes = .ok [.ok .done] ∧
    ((Store.directory (Path.ofString "cache")).serve [(0, .put (letters 240) "A" none)]).outcome notes =
      .ok [.error (.system .nameTooLong
        (Directory.entryPath (Path.ofString "cache") (letters 240)).text)] ∧
    ((Store.memory {}).serve [(0, .put "k" "A" none)]).outcome blocked = .ok [.ok .done] ∧
    ((Store.directory (Path.ofString "cache/x")).serve [(0, .put "k" "A" none)]).outcome blocked =
      .ok [.error (.ofPathFault .notDirectory "cache/x")] := by
  refine ⟨rfl, Store.serve_put_long isFresh_notes (isNameable_letters (by decide)) ?_ 0 "A", rfl, ?_⟩
  · rw [nameSize_entryName_letters]
    decide
  · have habsent : blocked.tree.hasEntry blocked.cwd (Path.ofString "cache/x") = .ok false := by
      rw [FileTree.hasEntry, FileTree.entry?, find_blocked]
      rfl
    have hmade : blocked.tree.makeDirectories blocked.cwd (Path.ofString "cache/x").parts.length
        (Path.ofString "cache/x") = .error (.notDirectory, Path.ofString "cache/x") := by
      unfold FileTree.makeDirectories
      simp only [FileTree.makeDirectory, FileTree.isDirectory, FileTree.entry?, find_blocked]
      rfl
    have htext : (Path.ofString "cache/x").text = "cache/x" := by decide
    rw [Store.serve_put_unmade habsent hmade, htext]

end Stencil.Cache
