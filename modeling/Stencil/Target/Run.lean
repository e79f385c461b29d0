import Stencil.Target.Block
import Stencil.Value.Display
import Stencil.Unicode.Compatibility

/-! Running text of the target language against data. -/
namespace Stencil.Target

/-- What a name stands for: a value, something built in, or nothing at all, which remembers the name. -/
inductive Binding where
  | value (v : Value)
  | builtin (shown kind : String)
  | missing (name : String)

/-- Why a run fails. -/
inductive RunFault where
  | malformed (fault : SyntaxFault)
  /-- A tag cannot be read. -/
  | unreadable (stray : Stray)
  | undefined (name : String)
  | notIterable (kind : String)
  | tooManyLoops
  /-- Too many tags stand inside one another. -/
  | tooDeep
  /-- The data has a key that is no text. -/
  | badName
  /-- A value cannot be shown. -/
  | unshown (fault : ShowFault)
  deriving Repr, DecidableEq

namespace RunFault

/-- The word for the kind of a fault. -/
def kind : RunFault → String
  | malformed _ | unreadable _ => "TemplateSyntaxError"
  | undefined _ => "UndefinedError"
  | notIterable _ | badName => "TypeError"
  | unshown .longNumber => "ValueError"
  | tooManyLoops => "SyntaxError"
  | tooDeep | unshown .tooDeep => "RecursionError"

def message : RunFault → String
  | malformed fault => fault.message
  | unreadable stray => stray.message
  | undefined name => s!"'{name}' is undefined"
  | notIterable kind => s!"'{kind}' object is not iterable"
  | tooManyLoops => "too many statically nested blocks"
  | tooDeep => "maximum recursion depth exceeded"
  | badName => "keywords must be strings"
  | unshown .longNumber => longNumberMessage
  | unshown .tooDeep => "maximum recursion depth exceeded while getting the repr of an object"

end RunFault

/-- The names that exist in every run. -/
def builtins : List (String × Binding) :=
  [("range", .builtin "<class 'range'>" "type"),
   ("dict", .builtin "<class 'dict'>" "type"),
   ("lipsum", .builtin "<function generate_lorem_ipsum>" "function"),
   ("cycler", .builtin "<class 'jinja2.utils.Cycler'>" "type"),
   ("joiner", .builtin "<class 'jinja2.utils.Joiner'>" "type"),
   ("namespace", .builtin "<class 'jinja2.utils.Namespace'>" "type")]

/-- The name in the token of a brace. -/
def braceName : String := "__lb"

/-- The names that exist without data: those built in, and that of the brace. -/
def globals : List (String × Binding) := (braceName, .value (.str "\x7b")) :: builtins

/-- What a name means apart from all tags: a value of the data, else something that exists without data. -/
def resolve (data : Mapping) (name : String) : Option Binding :=
  match Mapping.get? data (.str name) with
  | some v => some (.value v)
  | none => globals.lookup name

/-- The names that one tag knows: the ones it binds itself, and the ones that its own text refers to and
no tag around it knows. Names with one compatibility form share a slot, which holds what was put into it
last; a slot may hold nothing. -/
structure Frame where
  names : List (String × Bool)
  slots : List (List Nat × Option Binding)

/-- What the slot of a name holds. -/
def Frame.slot (f : Frame) (name : String) : Option Binding :=
  (f.slots.lookup (Unicode.foldText name.toList)).join

/-- The tags around a place, innermost first, and the data of the run. -/
structure Env where
  frames : List Frame
  data : Mapping

/-- The names that a part refers to by itself, apart from its body. -/
def Block.ownNames : Block → List String
  | .char _ => []
  | .brace => [braceName]
  | .show n => [n]
  | .loop _ _ collection _ => [collection]
  | .bind bindings _ =>
    bindings.filterMap fun
      | (_, .name n) => some n
      | _ => none

/-- The first occurrences of names, in order. -/
def firstOccurrences (names : List String) : List String :=
  names.foldl (fun seen n => if seen.contains n then seen else seen ++ [n]) []

namespace Env

/-- Whether some tag around a place knows a name. -/
def knows (env : Env) (name : String) : Bool :=
  env.frames.any fun f => (f.names.lookup name).isSome

/-- What a name stands for. A name that a tag binds is taken as it is found; of a name that is only
referred to, an empty slot means that it is missing. -/
def lookup (env : Env) (name : String) : Binding :=
  match env.frames.findSome? fun f => (f.names.lookup name).map fun given => (f, given) with
  | none => .missing name
  | some (f, given) =>
    match f.slot name with
    | some b => b
    | none => if given then .builtin "missing" "MissingType" else .missing name

/-- The names that a body refers to and nothing around it binds. -/
def freshNames (env : Env) (given : List (String × Binding)) (body : List Block) : List String :=
  (firstOccurrences (body.flatMap Block.ownNames)).filter fun n =>
    (given.lookup n).isNone && !env.knows n

/-- The environment of a body under the bindings `given`, which fill their slots before the names that
the body refers to if `early` says so, else after them. -/
def enter (env : Env) (given : List (String × Binding)) (early : Bool) (body : List Block) : Env :=
  let fresh := env.freshNames given body
  let slot (n : String) (b : Option Binding) : List Nat × Option Binding :=
    (Unicode.foldText n.toList, b)
  let mine := given.map fun g => slot g.1 (some g.2)
  let found := fresh.map fun n => slot n (resolve env.data n)
  let frame : Frame :=
    { names := given.map (fun g => (g.1, true)) ++ fresh.map (fun n => (n, false))
      slots := (if early then mine ++ found else found ++ mine).reverse }
  { env with frames := frame :: env.frames }

/-- The meaning of an expression. -/
def eval (env : Env) : Expr → Binding
  | .name n => env.lookup n
  | .nothing => .value .null
  | .literal s => .value (.str s)

end Env

/-- The members of a list with their positions from `n` on. -/
def numbered (n : Nat) : List Value → List (Value × Value)
  | [] => []
  | v :: vs => (.int n, v) :: numbered (n + 1) vs

/-- The pairs that a loop goes through: keys and values of a mapping, positions and members of anything
else that has members, and none for nothing. -/
def entries (v : Value) : Except RunFault (List (Value × Value)) :=
  match v.opened with
  | .scalar .null => .ok []
  | .dict pairs => .ok (pairs.map fun p => (.scalar p.1, p.2))
  | .list items | .tuple items => .ok (numbered 0 items)
  | .set items => .ok (numbered 0 (items.map .scalar))
  | .scalar (.str s) => .ok (numbered 0 (s.toList.map fun c => .str (String.ofList [c])))
  | .scalar (.bytes b) => .ok (numbered 0 (b.map fun n => .int n.toNat))
  | v => .error (.notIterable v.kindName)

namespace Binding

/-- What a page shows. -/
def display : Binding → Except RunFault (List Char)
  | value v =>
    match v.showFault? with
    | some fault => .error (.unshown fault)
    | none => .ok v.display
  | builtin shown _ => .ok (escapeMarkup shown.toList)
  | missing _ => .ok []

/-- What a page shows of a name without the filter: the text as it is, and no excuse for what is missing. -/
def plain : Binding → Except RunFault (List Char)
  | value v =>
    match v.showFault? with
    | some fault => .error (.unshown fault)
    | none => .ok v.text
  | builtin shown _ => .ok shown.toList
  | missing name => .error (.undefined name)

/-- The pairs that a loop goes through. -/
def entries : Binding → Except RunFault (List (Value × Value))
  | value v => Target.entries v
  | builtin _ kind => .error (.notIterable kind)
  | missing name => .error (.undefined name)

end Binding

/-- The outputs of a body for all pairs of a collection, one after the other. -/
def concatRuns (run : Value × Value → Except RunFault (List Char)) :
    List (Value × Value) → Except RunFault (List Char)
  | [] => .ok []
  | p :: ps =>
    match run p with
    | .error fault => .error fault
    | .ok out =>
      match concatRuns run ps with
      | .error fault => .error fault
      | .ok more => .ok (out ++ more)

mutual

/-- The output of one part. -/
def Block.run (env : Env) : Block → Except RunFault (List Char)
  | .char c => .ok [c]
  | .brace => (env.lookup braceName).plain
  | .show n => (env.lookup n).display
  | .loop index item collection body =>
    match (env.lookup collection).entries with
    | .error fault => .error fault
    | .ok pairs =>
      concatRuns
        (fun p => runAll (env.enter [(index, .value p.1), (item, .value p.2)] true body) body) pairs
  | .bind bindings body =>
    runAll (env.enter (bindings.map fun b => (b.1, env.eval b.2)) false body) body

/-- The output of parts in a row. -/
def runAll (env : Env) : List Block → Except RunFault (List Char)
  | [] => .ok []
  | b :: rest =>
    match b.run env with
    | .error fault => .error fault
    | .ok out =>
      match runAll env rest with
      | .error fault => .error fault
      | .ok more => .ok (out ++ more)

end

mutual

/-- How many loops stand inside one another in a part. -/
def Block.loopDepth : Block → Nat
  | .char _ | .brace | .show _ => 0
  | .loop _ _ _ body => loopDepthOf body + 1
  | .bind _ body => loopDepthOf body

/-- How many loops stand inside one another in parts in a row. -/
def loopDepthOf : List Block → Nat
  | [] => 0
  | b :: rest => max b.loopDepth (loopDepthOf rest)

end

/-- The most loops that may stand inside one another. -/
def loopLimit : Nat := 20

mutual

/-- How many tags stand inside one another in a part. -/
def Block.depth : Block → Nat
  | .char _ | .brace | .show _ => 0
  | .loop _ _ _ body | .bind _ body => depthOf body + 1

/-- How many tags stand inside one another in parts in a row. -/
def depthOf : List Block → Nat
  | [] => 0
  | b :: rest => max b.depth (depthOf rest)

end

/-- The most tags that may stand inside one another. -/
def depthLimit : Nat := Recursion.levels 40 4

/-- Whether all keys of data are names. -/
def hasOnlyNames (data : Mapping) : Bool :=
  data.all fun p =>
    match p.1 with
    | .str _ => true
    | _ => false

/-- The tree of pieces. Reading ends at a tag that cannot be read, so that no tag behind it is in the wrong
place. -/
def treeOf (pieces : List (Text.Piece Construct)) : Except RunFault (List Block) :=
  match readable 0 pieces with
  | (front, some stray) =>
    match assemble [] [] front with
    | .error (.unexpectedTag tag openTags) => .error (.malformed (.unexpectedTag tag openTags))
    | _ => .error (.unreadable stray)
  | (front, none) =>
    match assemble [] [] front with
    | .error fault => .error (.malformed fault)
    | .ok blocks => .ok blocks

/-- The output of a tree. -/
def runTree (blocks : List Block) (data : Mapping) : Except RunFault (List Char) :=
  if depthLimit < depthOf blocks then .error .tooDeep
  else if loopLimit < loopDepthOf blocks then .error .tooManyLoops
  else if !hasOnlyNames data then .error .badName
  else runAll (Env.enter ⟨[], data⟩ [] true blocks) blocks

/-- The output of pieces. -/
def runPieces (pieces : List (Text.Piece Construct)) (data : Mapping) : Except RunFault (List Char) :=
  match treeOf pieces with
  | .error fault => .error fault
  | .ok blocks => runTree blocks data

/-- The output of a text. -/
def run (source : List Char) (data : Mapping) : Except RunFault (List Char) :=
  runPieces (piecesOf source) data

end Stencil.Target
