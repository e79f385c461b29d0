import Stencil.Target.Run
import Stencil.Files.Tree
import Stencil.Json.Printer
import Stencil.Json.Reader
import Stencil.Unicode.Case

/-! Everything that can go wrong, as causes, and the one place where each cause gets its words. -/
namespace Stencil

/-- The three kinds of template files. -/
inductive TemplateKind where
  | template
  | layout
  | component
  deriving Repr, DecidableEq

def TemplateKind.name : TemplateKind → String
  | template => "template"
  | layout => "layout"
  | component => "component"

/-- The errors that carry a context for tools. -/
inductive ReportedKind where
  | plain
  | templateNotFound
  | templateDirectory
  | expansionLimit
  | emptyOutput
  | renderExecution
  | config
  deriving Repr, DecidableEq

/-- Wider kinds of errors to which an error may belong. -/
inductive Family where
  | fileNotFound
  | runtime
  | value
  | engine
  deriving Repr, DecidableEq

namespace ReportedKind

/-- The code by which tools know the kind. -/
def code : ReportedKind → String
  | plain => "ModxError"
  | templateNotFound => "TemplateNotFoundError"
  | templateDirectory => "TemplateDirectoryError"
  | expansionLimit => "ExpansionLimitError"
  | emptyOutput => "EmptyOutputError"
  | renderExecution => "RenderExecutionError"
  | config => "ConfigError"

def all : List ReportedKind :=
  [plain, templateNotFound, templateDirectory, expansionLimit, emptyOutput, renderExecution, config]

def ofCode? (code : String) : Option ReportedKind := all.find? fun k => k.code == code

/-- The families of a kind; every kind is one of the engine's own. -/
def families : ReportedKind → List Family
  | plain => [.engine]
  | templateNotFound | templateDirectory => [.fileNotFound, .engine]
  | expansionLimit | emptyOutput | renderExecution => [.runtime, .engine]
  | config => [.value, .engine]

end ReportedKind

/-- What a tool is told about an error. -/
structure Payload where
  kind : ReportedKind
  message : String
  context : Mapping

namespace Payload

/-- The payload as one value. -/
def toValue (p : Payload) : Value :=
  .dict [(.str "message", .str p.message), (.str "code", .str p.kind.code),
    (.str "context", .dict p.context)]

/-- A template that is in none of the places searched. -/
def notFound (name kind : String) (searched : List String) (context : Mapping) : Payload :=
  let listing :=
    if searched.isEmpty then "- (no template directories configured)"
    else "\n".intercalate (searched.map ("- " ++ ·))
  let capital := String.ofList (Unicode.title kind.toList)
  { kind := .templateNotFound
    message := s!"{capital} '{name}' not found. Searched:\n{listing}"
    context := Mapping.overlay context
      [(.str "name", .str name), (.str "kind", .str kind),
       (.str "searched", .list (searched.map .str))] }

end Payload

/-- Faults of a configuration. -/
inductive ConfigFault where
  | malformedKey (key : String)
  | emptySegment (raw : String)
  | throughScalar (part : String) (path : List String)
  | invalid (details : List String)
  /-- The files of a project are at fault, or what they hold is no YAML. -/
  | unreadable (directory : String) (isYaml : Bool) (reason : String)
  | storeWithoutDirectory
  | unknownStore (kind : Value)
  deriving Repr, BEq

/-- Values that are of the right kind but cannot be used. -/
inductive ValueFault where
  | tooFewIterations
  | notInteger (shown : String)
  | notNumber (shown : String)
  | integerTooLong (digits : Nat)
  /-- A whole number has too many digits to be written. -/
  | longNumber
  /-- A value is a part of itself. -/
  | endless
  | notFinite (word : String)
  | notAssignment (shown : String)
  | dataNotMapping (path : String)
  | configNotMapping (path : String)
  | zeroByte
  | noCharacter
  | badTime (reason : String)
  | notIntegerInBase (base : Nat) (shown : String)
  deriving Repr, DecidableEq

/-- Values of a kind that an operation has no use for. -/
inductive KindFault where
  | notForInteger (kind : String)
  | notForFloat (kind : String)
  | notIterable (kind : String)
  | badKey (kind : String)
  | notWritable (kind : String)
  | notComparable (operator left right : String)
  | notText (kind : String)
  deriving Repr, DecidableEq

/-- Everything that can go wrong. -/
inductive Error where
  | templateNotFound (kind : TemplateKind) (name : String) (searched : List String)
  | templateDirectory (path : String)
  | expansionLimit (template : String) (limit depth : Nat)
  | nesting
  | loopNesting
  | emptyOutput (template path : String)
  | execution (label : String) (fault : Target.RunFault)
  | config (fault : ConfigFault)
  | stated (payload : Payload)
  | value (fault : ValueFault)
  | mismatch (fault : KindFault)
  | noMember (kind member : String)
  | noFile (message : String)
  | occupied (path : String)
  | system (fault : PathFault) (path : String)
  | notUtf8 (fault : Text.Utf8.Fault)
  | notJson
  /-- What is wrong with a text that should be YAML. -/
  | notYaml (text : String)
  | noHome
  /-- Links lead in a circle. -/
  | linkLoop (path : String)
  | tooLarge
  | noSuchCode
  /-- Nothing is known under a name. -/
  | noEntry (shown : String)
  /-- A text is too short. -/
  | noCharacterThere
  /-- An error of the code that the library was given to run. -/
  | foreign (kind message : String)

namespace ConfigFault

def message : ConfigFault → String
  | malformedKey _ => "Malformed MODX_* key"
  | emptySegment raw => s!"Malformed MODX_* key: empty segment in '{raw}'."
  | throughScalar part _ => s!"Override path traverses non-mapping key '{part}'"
  | invalid details => "Invalid modx configuration:\n" ++ "\n".intercalate (details.map ("- " ++ ·))
  | unreadable directory _ reason => s!"Failed to load project config from {directory}: {reason}"
  | storeWithoutDirectory => "Filesystem cache store requires a directory"
  | unknownStore kind => "Unknown cache store: " ++ String.ofList kind.shown

def context : ConfigFault → Mapping
  | malformedKey key => [(.str "key", .str key)]
  | emptySegment raw => [(.str "key", .str ("MODX_" ++ raw))]
  | throughScalar _ path => [(.str "path", .str (".".intercalate path))]
  | invalid details => [(.str "errors", .list (details.map .str))]
  | unreadable directory _ _ => [(.str "directory", .str directory)]
  | storeWithoutDirectory => []
  | unknownStore kind => [(.str "store", kind)]

end ConfigFault

def ValueFault.message : ValueFault → String
  | tooFewIterations => "max_iterations must be at least 1"
  | notInteger shown => s!"invalid literal for int() with base 10: {shown}"
  | notNumber shown => s!"could not convert string to float: {shown}"
  | integerTooLong digits =>
    s!"Exceeds the limit (4300 digits) for integer string conversion: value has {digits} digits; use sys.set_int_max_str_digits() to increase the limit"
  | longNumber => longNumberMessage
  | endless => "Circular reference detected"
  | notFinite word => s!"cannot convert float {word} to integer"
  | notAssignment shown => s!"Expected KEY=VALUE, got {shown}"
  | dataNotMapping path => s!"Data file must contain a mapping: {path}"
  | configNotMapping path => s!"Config file must contain a YAML mapping: {path}"
  | zeroByte => "embedded null byte"
  | noCharacter => "chr() arg not in range(0x110000)"
  | badTime reason => reason
  | notIntegerInBase base shown => s!"invalid literal for int() with base {base}: {shown}"

def KindFault.message : KindFault → String
  | notForInteger kind =>
    s!"int() argument must be a string, a bytes-like object or a real number, not '{kind}'"
  | notForFloat kind => s!"float() argument must be a string or a real number, not '{kind}'"
  | notIterable kind => s!"'{kind}' object is not iterable"
  | badKey kind => s!"keys must be str, int, float, bool or None, not {kind}"
  | notWritable kind => s!"Object of type {kind} is not JSON serializable"
  | notComparable operator left right =>
    s!"'{operator}' not supported between instances of '{left}' and '{right}'"
  | notText kind => s!"expected string or bytes-like object, got '{kind}'"

namespace PathFault

/-- The word for the kind of error that a fault of a path is. -/
def kind : PathFault → String
  | missing => "FileNotFoundError"
  | notDirectory => "NotADirectoryError"
  | isDirectory => "IsADirectoryError"
  | present => "FileExistsError"
  | denied => "PermissionError"
  | zeroByte => "ValueError"
  | tooManyLinks | nameTooLong | notEmpty | busy => "OSError"

def message : PathFault → String
  | missing => "[Errno 2] No such file or directory"
  | notDirectory => "[Errno 20] Not a directory"
  | isDirectory => "[Errno 21] Is a directory"
  | present => "[Errno 17] File exists"
  | tooManyLinks => "[Errno 40] Too many levels of symbolic links"
  | nameTooLong => "[Errno 36] File name too long"
  | denied => "[Errno 13] Permission denied"
  | notEmpty => "[Errno 39] Directory not empty"
  | busy => "[Errno 16] Device or resource busy"
  | zeroByte => ValueFault.message .zeroByte

end PathFault

namespace Error

/-- The error that a fault of a path is. A path that cannot be written is a value of no use. -/
def ofPathFault (fault : PathFault) (path : String) : Error :=
  match fault with
  | .zeroByte => value .zeroByte
  | fault => system fault path

/-- The error that a value is which cannot be shown. -/
def ofShowFault : ShowFault → Error
  | .longNumber => value .longNumber
  | .tooDeep => nesting

/-- The error that a value without JSON text is. On one line the complaint about a key names its kind in
full. -/
def ofWriteFault (oneLine : Bool) : Json.WriteFault → Error
  | .badKey key => mismatch (.badKey (if oneLine then key.kindName else key.shortKind))
  | .endless => value .endless
  | .longNumber => value .longNumber
  | .tooDeep => nesting

/-- The payload of an error that has one. -/
def payload? : Error → Option Payload
  | templateNotFound kind name searched => some (.notFound name kind.name searched [])
  | templateDirectory path =>
    some ⟨.templateDirectory, s!"Template directory not found: {path}", [(.str "path", .str path)]⟩
  | expansionLimit template limit depth =>
    some ⟨.expansionLimit,
      s!"Template '{template}' did not reach a fixed point after {limit} passes; a directive is likely regenerating itself",
      [(.str "template", .str template), (.str "max_iterations", .int limit),
       (.str "depth", .int depth)]⟩
  | emptyOutput template path =>
    some ⟨.emptyOutput, s!"Template '{template}' rendered empty output",
      [(.str "template", .str template), (.str "path", .str path)]⟩
  | execution label fault =>
    some ⟨.renderExecution, s!"Failed to execute template '{label}': {fault.message}",
      [(.str "template", .str label), (.str "error", .str fault.kind)]⟩
  | config fault => some ⟨.config, fault.message, fault.context⟩
  | stated payload => some payload
  | _ => none

/-- The word for the kind of an error. -/
def kindName (e : Error) : String :=
  match e.payload? with
  | some p => p.kind.code
  | none =>
    match e with
    | nesting => "RecursionError"
    | loopNesting => Target.RunFault.tooManyLoops.kind
    | value (.notFinite "infinity") => "OverflowError"
    | value _ => "ValueError"
    | mismatch _ => "TypeError"
    | noMember _ _ => "AttributeError"
    | noFile _ => "FileNotFoundError"
    | occupied _ => "NotADirectoryError"
    | system fault _ => fault.kind
    | notUtf8 _ => "UnicodeDecodeError"
    | notJson => "JSONDecodeError"
    | noHome | linkLoop _ => "RuntimeError"
    | tooLarge | noSuchCode => "OverflowError"
    | noEntry _ => "KeyError"
    | noCharacterThere => "IndexError"
    | foreign kind _ => kind
    | _ => "YAMLError"

/-- What an error says. -/
def message (e : Error) : String :=
  match e.payload? with
  | some p => p.message
  | none =>
    match e with
    | nesting => "maximum recursion depth exceeded"
    | loopNesting => Target.RunFault.tooManyLoops.message
    | value fault => fault.message
    | mismatch fault => fault.message
    | noMember kind member => s!"'{kind}' object has no attribute '{member}'"
    | noFile message => message
    | occupied path => s!"Path exists but is not a directory: {path}"
    | system fault place => s!"{fault.message}: {String.ofList (Text.quoted place.toList)}"
    | notUtf8 fault => fault.text
    | notJson => "malformed JSON"
    | noHome => "Could not determine home directory."
    | linkLoop path => s!"Symlink loop from {String.ofList (Text.quoted path.toList)}"
    | notYaml text => text
    | tooLarge => "int too large to convert to float"
    | noSuchCode => "Python int too large to convert to C int"
    | noEntry shown => shown
    | noCharacterThere => "string index out of range"
    | foreign _ message => message
    | _ => "<yaml error>"

end Error

end Stencil
