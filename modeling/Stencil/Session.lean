import Stencil.Error
import Stencil.Log.Journal
import Stencil.Value.Layer

/-! What an action can see and change: the files, the environment, the clock, the log, the configurations
that are loaded, and what was printed. -/
namespace Stencil

/-- Everything that a configuration is loaded from: the project, the variables that override it, and for
each of its files the name, the stamp and the size. -/
structure ConfigSource where
  root : Path
  overrides : List (String × String)
  files : List (String × Nat × Nat)
  deriving Repr, DecidableEq

/-- A configuration, numbered in the order of loading. -/
structure LoadedConfig where
  serial : Nat
  layer : Layer
  deriving Inhabited

/-- The mapping that a configuration is. -/
def LoadedConfig.config (loaded : LoadedConfig) : Mapping := loaded.layer.mapping

structure Session where
  tree : FileTree := .empty
  cwd : List String := []
  env : List (String × String) := []
  /-- The clock, in seconds. -/
  now : Float := 0
  /-- The time as log lines show it. -/
  stamp : String := ""
  journal : Log.Journal := {}
  /-- The records that the journal took notice of, oldest first. -/
  records : List Log.Record := []
  configs : List (ConfigSource × LoadedConfig) := []
  /-- How many configurations were loaded so far. -/
  loads : Nat := 0
  /-- How many pages were run so far. -/
  runs : Nat := 0
  stdout : List Char := []
  stderr : List Char := []

/-- A step that may fail; what it did before it failed stays done. -/
abbrev Act := EStateM Error Session

namespace Act

/-- A result that needs no session. -/
def ofExcept {α : Type} : Except Error α → Act α
  | .ok a => pure a
  | .error e => throw e

/-- The outcome of a step, be it a result or an error. -/
def attempt {α : Type} (step : Act α) : Act (Except Error α) := fun s =>
  match step s with
  | .ok a s => .ok (.ok a) s
  | .error e s => .ok (.error e) s

/-- Prints to the console. -/
def print (text : List Char) : Act Unit := modify fun s => { s with stdout := s.stdout ++ text }

/-- Prints to the console's channel for errors. -/
def printError (text : List Char) : Act Unit := modify fun s => { s with stderr := s.stderr ++ text }

/-- The value of a variable of the environment. -/
def valueOf (name : String) : Act (Option String) := do return (← get).env.lookup name

theorem run_attempt_ok {α : Type} {step : Act α} {s s' : Session} {a : α}
    (h : step s = .ok a s') : attempt step s = .ok (.ok a) s' := by
  simp [attempt, h]

theorem run_attempt_error {α : Type} {step : Act α} {s s' : Session} {e : Error}
    (h : step s = .error e s') : attempt step s = .ok (.error e) s' := by
  simp [attempt, h]

end Act

namespace Session

/-- Text at the end of a file. If another file or none is in its place by now, nobody can see the text. -/
def appendTo (s : Session) (path : Path) (serial : Nat) (text : List Char) : Session :=
  match s.tree.get? path.parts with
  | some (.file bytes _ present) =>
    if present = serial then
      { s with tree := s.tree.write path.parts (bytes ++ Text.Utf8.encode text) serial }
    else s
  | _ => s

/-- A record written to a sink. -/
def write (s : Session) (sink : Log.Sink) (r : Log.Record) : Session :=
  let line := (r.line s.stamp).toList
  match sink.medium with
  | .console => { s with stderr := s.stderr ++ line }
  | .file path => s.appendTo path sink.serial line

/-- The session after a record was logged. -/
def log (s : Session) (r : Log.Record) : Session :=
  if s.journal.admits r then
    let s := { s with records := s.records ++ [r] }
    match s.journal.sinkFor? r with
    | none => s
    | some sink => s.write sink r
  else s

/-- The value of a variable, set or, for `none`, taken away. -/
def setVariable (s : Session) (name : String) (value : Option String) : Session :=
  let others := s.env.filter fun v => v.1 != name
  { s with env := match value with
      | none => others
      | some v => others ++ [(name, v)] }

end Session

/-- Logs a record. -/
def Act.log (r : Log.Record) : Act Unit := modify fun s => s.log r

end Stencil
