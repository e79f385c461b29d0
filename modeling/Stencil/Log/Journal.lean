import Stencil.Files.Path

/-! Log records with their levels, and where they go. A journal has a level below which it takes no notice, and at
most one sink with a level of its own. Only the engine's own loggers write to it. -/
namespace Stencil.Log

/-! ### Records -/

/-- The levels, from the quietest matter to the gravest. -/
inductive Level where
  | notset
  | debug
  | info
  | warning
  | error
  | critical
  deriving Repr, DecidableEq

namespace Level

def rank : Level → Nat
  | notset => 0
  | debug => 10
  | info => 20
  | warning => 30
  | error => 40
  | critical => 50

def name : Level → String
  | notset => "NOTSET"
  | debug => "DEBUG"
  | info => "INFO"
  | warning => "WARNING"
  | error => "ERROR"
  | critical => "CRITICAL"

/-- The level of a name in capitals; two levels have a second name. -/
def ofName? : String → Option Level
  | "NOTSET" => some notset
  | "DEBUG" => some debug
  | "INFO" => some info
  | "WARNING" => some warning
  | "WARN" => some warning
  | "ERROR" => some error
  | "CRITICAL" => some critical
  | "FATAL" => some critical
  | _ => none

@[simp] theorem ofName?_name (l : Level) : ofName? l.name = some l := by cases l <;> rfl

end Level

/-- One message of one logger. -/
structure Record where
  level : Level
  logger : String
  message : String
  deriving Repr, DecidableEq

/-! ### Journals -/

/-- What a sink writes to. -/
inductive Medium where
  | console
  | file (path : Path)
  deriving Repr, DecidableEq

/-- A sink with the serial number of its file. -/
structure Sink where
  medium : Medium
  level : Level
  serial : Nat := 0
  deriving Repr, DecidableEq

structure Journal where
  level : Level := .notset
  sink : Option Sink := none
  deriving Repr, DecidableEq

/-- The name that the names of all loggers of the engine begin with. -/
def loggerRoot : String := "modx"

/-- Whether a logger is one of the engine's. -/
def isOwnLogger (name : String) : Bool := name == loggerRoot || name.startsWith (loggerRoot ++ ".")

namespace Level

/-- Whether a record of level `l` passes the bar `bar`. -/
def passes (l bar : Level) : Bool := bar.rank ≤ l.rank

/-- The level of a name in any case; an unknown name is a warning. -/
def ofText (name : String) : Level := (ofName? name).getD .warning

end Level

namespace Journal

/-- The bar of a journal; one without a level lets warnings pass. -/
def bar (j : Journal) : Level := if j.level = .notset then .warning else j.level

/-- Whether a journal takes notice of a record. -/
def admits (j : Journal) (r : Record) : Bool := isOwnLogger r.logger && r.level.passes j.bar

/-- The sink that a record is written to. -/
def sinkFor? (j : Journal) (r : Record) : Option Sink :=
  if j.admits r then j.sink.filter fun s => r.level.passes s.level else none

end Journal

/-- The line of a record, under a stamp of the time. -/
def Record.line (r : Record) (stamp : String) : String :=
  s!"{stamp} {r.level.name} {r.logger}: {r.message}\n"

theorem Journal.admits_of_sinkFor? {j : Journal} {r : Record} {s : Sink}
    (h : j.sinkFor? r = some s) : j.admits r = true := by
  unfold Journal.sinkFor? at h
  split at h
  · assumption
  · cases h

end Stencil.Log
