import Stencil.Value.Numeric

/-! The words of a command line. Options begin with a dash and may be cut short as long as no other option
begins the same way; `--` says that no options follow. What is no option is an operand, which may be a
command with words of its own. -/
namespace Stencil.Command

/-- What an option takes, or does at once. -/
inductive Takes where
  | nothing
  | text
  /-- A text; all texts given are kept. -/
  | texts
  | whole
  | help
  | version
  deriving Repr, DecidableEq

structure OptionRule where
  names : List String
  target : String
  takes : Takes
  deriving Repr, DecidableEq

/-- What the words of a line say, by name. -/
abbrev Arguments := Mapping

/-- Why a line says nothing to run. -/
inductive Stop where
  | help (place : String)
  | version
  | misuse (place reason : String)
  deriving Repr, DecidableEq

/-- What a line says, and the words that nothing asked for. -/
abbrev Outcome := Except Stop (Arguments × List String)

/-- The operand that a line may have. -/
inductive Operand where
  | none
  | needed (target : String)
  | optional (target : String)
  | command (target : String) (choose : String → Option (List String → Outcome))

/-- The words that one command understands. -/
structure Grammar where
  place : String
  options : List OptionRule
  operand : Operand

/-- A word by what it is. An option comes with the text given in the same word. -/
inductive Word where
  | operand (text : String)
  | mark
  | option (text name : String) (rule : OptionRule) (given : Option String)
  | unknown (text : String)

namespace Word

def text : Word → String
  | operand s => s
  | mark => "--"
  | option s _ _ _ => s
  | unknown s => s

def isOption : Word → Bool
  | option _ _ _ _ => true
  | unknown _ => true
  | _ => false

def isMark : Word → Bool
  | mark => true
  | _ => false

end Word

namespace Grammar

def misuse {α : Type} (g : Grammar) (reason : String) : Except Stop α := .error (.misuse g.place reason)

/-- The option of a name. -/
def option? (g : Grammar) (name : String) : Option OptionRule :=
  g.options.find? fun rule => rule.names.contains name

/-- A negative number, which is no option. A line feed may follow it. -/
def isNegativeNumber (s : List Char) : Bool :=
  match if s.getLast? = some '\n' then s.dropLast else s with
  | '-' :: t =>
    let fraction := (t.dropWhile Unicode.isDecimal).drop 1
    (!t.isEmpty && t.all Unicode.isDecimal)
      || ((t.dropWhile Unicode.isDecimal).head? == some '.' && !fraction.isEmpty
        && fraction.all Unicode.isDecimal)
  | _ => false

/-- The text before the first `=`, and the text after it if there is one. -/
def splitGiven (s : List Char) : List Char × Option (List Char) :=
  match s.dropWhile (· != '=') with
  | [] => (s, none)
  | _ :: given => (s.takeWhile (· != '='), some given)

/-- The options that a word may mean: those that begin with it, or the option of its first letter, for
which the rest of the word is given. -/
def candidates (g : Grammar) (word : String) : List Word :=
  let s := word.toList
  let names := g.options.flatMap fun rule => rule.names.map fun name => (name, rule)
  if "--".toList.isPrefixOf s then
    let (start, given) := splitGiven s
    (names.filter fun p => start.isPrefixOf p.1.toList).map fun p =>
      .option word p.1 p.2 (given.map String.ofList)
  else
    names.filterMap fun p =>
      if p.1.toList = s.take 2 then some (.option word p.1 p.2 (some (String.ofList (s.drop 2))))
      else if s.isPrefixOf p.1.toList then some (.option word p.1 p.2 none)
      else none

/-- A word of the line in front of `--`. -/
def wordOf (g : Grammar) (word : String) : Except Stop Word :=
  let s := word.toList
  if s.head? ≠ some '-' then .ok (.operand word)
  else
    match g.option? word with
    | some rule => .ok (.option word word rule none)
    | none =>
      let (start, given) := splitGiven s
      match given.bind fun _ => g.option? (String.ofList start) with
      | some rule => .ok (.option word (String.ofList start) rule (given.map String.ofList))
      | none =>
        if s.length = 1 then .ok (.operand word)
        else
          match g.candidates word with
          | [w] => .ok w
          | _ :: _ => g.misuse s!"ambiguous option: {word}"
          | [] =>
            if isNegativeNumber s || s.contains ' ' then .ok (.operand word)
            else .ok (.unknown word)

/-- The words of a line. -/
def wordsOf (g : Grammar) : List String → Except Stop (List Word)
  | [] => .ok []
  | word :: rest =>
    if word = "--" then .ok (.mark :: rest.map .operand)
    else do
      let w ← g.wordOf word
      .ok (w :: (← g.wordsOf rest))

/-- What is said before any word is read. -/
def initial (g : Grammar) : Arguments :=
  let ofRule (rule : OptionRule) : Option (Scalar × Value) :=
    match rule.takes with
    | .nothing => some (.str rule.target, .bool false)
    | .text | .whole => some (.str rule.target, .null)
    | .texts => some (.str rule.target, .list [])
    | .help | .version => none
  let ofOperand : Arguments :=
    match g.operand with
    | .none => []
    | .needed target | .optional target | .command target _ => [(.str target, .null)]
  ofOperand ++ g.options.filterMap ofRule

/-- What an option says with a text. -/
def accept (g : Grammar) (rule : OptionRule) (given : String) (args : Arguments) :
    Except Stop Arguments :=
  let key := Scalar.str rule.target
  match rule.takes with
  | .texts =>
    let earlier :=
      match Mapping.get? args key with
      | some (.list items) => items
      | _ => []
    .ok (Mapping.insert args key (.list (earlier ++ [.str given])))
  | .whole =>
    match Value.intOfText given.toList with
    | .ok n => .ok (Mapping.insert args key (.int n))
    | .error _ => g.misuse s!"argument {rule.target}: invalid int value"
  | _ => .ok (Mapping.insert args key (.str given))

/-- What an option does that takes nothing. -/
def act (g : Grammar) (rule : OptionRule) (args : Arguments) : Except Stop Arguments :=
  match rule.takes with
  | .help => .error (.help g.place)
  | .version => .error .version
  | _ => .ok (Mapping.insert args (.str rule.target) (.bool true))

def takesText (rule : OptionRule) : Bool :=
  match rule.takes with
  | .text | .texts | .whole => true
  | _ => false

/-- The refusal of a text that an option has no use for. -/
def uselessText {α : Type} (g : Grammar) (rule : OptionRule) : Except Stop α :=
  g.misuse s!"argument {rule.target}: ignored explicit argument"

/-- The options of the letters in one word, each of which must be one. An option that takes a text is given
the letters after it. -/
def letters (g : Grammar) (rule : OptionRule) : List Char →
    Except Stop (List (OptionRule × Option String))
  | [] => .ok [(rule, none)]
  | c :: rest =>
    if takesText rule then .ok [(rule, some (String.ofList (c :: rest)))]
    else
      match g.option? (String.ofList ['-', c]) with
      | none => g.uselessText rule
      | some next => do
        let more ← g.letters next rest
        .ok ((rule, none) :: more)

/-- What an option sets that is called `name`. The text given with a letter is more letters, unless the
option takes it. -/
def settingOf (g : Grammar) (name : String) (rule : OptionRule) (given : Option String) :
    Except Stop (List (OptionRule × Option String)) :=
  match given with
  | none => .ok [(rule, none)]
  | some text =>
    if takesText rule then .ok [(rule, some text)]
    else if name.length = 2 && text != "" then g.letters rule text.toList
    else g.uselessText rule

/-- What options say, of which the last one may take the next word. -/
def apply (g : Grammar) : List (OptionRule × Option String) → List Word → Arguments →
    Except Stop (Arguments × List Word)
  | [], ws, args => .ok (args, ws)
  | (rule, given) :: more, ws, args =>
    if takesText rule then
      match given, ws with
      | some text, _ => do g.apply more ws (← g.accept rule text args)
      | none, .operand text :: rest => do g.apply more rest (← g.accept rule text args)
      | none, _ => g.misuse s!"argument {rule.target}: expected one argument"
    else do g.apply more ws (← g.act rule args)

/-- What is read so far. -/
structure Reading where
  arguments : Arguments
  extras : List String := []
  /-- Whether the operand is still to come. -/
  pending : Bool := true

/-- Takes the operand from the front of the words, if it is there and still to come. -/
def takeOperand (g : Grammar) (ws : List Word) (r : Reading) : Except Stop (Reading × List Word) :=
  let after := ws.dropWhile Word.isMark
  let taken (target : String) (v : Value) (rest : List Word) : Reading × List Word :=
    ({ r with arguments := Mapping.insert r.arguments (.str target) v, pending := false },
      rest.dropWhile Word.isMark)
  if !r.pending then .ok (r, ws)
  else
    match g.operand, after with
    | .needed target, .operand s :: rest => .ok (taken target (.str s) rest)
    | .optional target, .operand s :: rest => .ok (taken target (.str s) rest)
    | .optional target, rest => .ok (taken target .null rest)
    | .command target choose, .operand s :: rest =>
      match if after.length = ws.length then choose s else none with
      | none => g.misuse s!"argument {target}: invalid choice"
      | some run => do
        let (said, extras) ← run (rest.map Word.text)
        let arguments := Mapping.overlay (Mapping.insert r.arguments (.str target) (.str s)) said
        .ok ({ r with arguments, pending := false, extras := r.extras ++ extras }, [])
    | _, _ => .ok (r, ws)

/-- Reads all words. The fuel is their number. -/
def readWords (g : Grammar) : (fuel : Nat) → List Word → Reading → Except Stop Reading
  | 0, _, r => .ok r
  | fuel + 1, ws, r =>
    match ws with
    | .unknown s :: rest => g.readWords fuel rest { r with extras := r.extras ++ [s] }
    | .option _ name rule given :: rest => do
      let (arguments, rest) ← g.apply (← g.settingOf name rule given) rest r.arguments
      g.readWords fuel rest { r with arguments }
    | _ => do
      let (r, rest) ← g.takeOperand ws r
      if rest.length < ws.length then g.readWords fuel rest r
      else
        let stray := (ws.takeWhile fun w => !w.isOption).map Word.text
        let rest := ws.dropWhile fun w => !w.isOption
        let r := { r with extras := r.extras ++ stray }
        if rest.isEmpty then .ok r else g.readWords fuel rest r

/-- What a line says to a grammar. -/
def read (g : Grammar) (line : List String) : Outcome := do
  let ws ← g.wordsOf line
  let r ← g.readWords (ws.length + 1) ws { arguments := g.initial }
  match g.operand, r.pending with
  | .needed target, true => g.misuse s!"the following arguments are required: {target}"
  | _, _ => .ok (r.arguments, r.extras)

/-- The same for a whole line, in which no word may be left over. -/
def readAll (g : Grammar) (line : List String) : Except Stop Arguments := do
  match ← g.read line with
  | (args, []) => .ok args
  | (_, extras) => g.misuse ("unrecognized arguments: " ++ " ".intercalate extras)

end Grammar

/-! ### What arguments say -/

/-- The text of an argument; an empty one says nothing. -/
def textOf (args : Arguments) (target : String) : Option String :=
  match Mapping.get? args (.str target) with
  | some (.str s) => if s = "" then none else some s
  | _ => none

def textsOf (args : Arguments) (target : String) : List String :=
  match Mapping.get? args (.str target) with
  | some (.list items) => items.map Value.toText
  | _ => []

def isSet (args : Arguments) (target : String) : Bool :=
  match Mapping.get? args (.str target) with
  | some (.bool b) => b
  | _ => false

def wholeOf (args : Arguments) (target : String) : Option Int :=
  match Mapping.get? args (.str target) with
  | some (.int n) => some n
  | _ => none

end Stencil.Command
