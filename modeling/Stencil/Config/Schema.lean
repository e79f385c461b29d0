import Stencil.Value.Display

/-! Schemas of values. Checking a value against a schema gives every violation there is, each with the
place where it is; the configuration has a schema of its own. The library relies on a checker for not passing over
a violation, and for nothing else. -/
namespace Stencil.Config

/-- The kinds of values that schemas know. -/
inductive Kind where
  | object
  | array
  | string
  | integer
  | boolean
  | null
  deriving Repr, DecidableEq

namespace Kind

def name : Kind → String
  | object => "object"
  | array => "array"
  | string => "string"
  | integer => "integer"
  | boolean => "boolean"
  | null => "null"

/-- Whether a value is of a kind. A number is an integer if nothing follows its point; truth values are
no numbers. -/
def holds : Kind → Value → Bool
  | object, .dict _ => true
  | array, .list _ => true
  | string, .str _ => true
  | integer, .int _ => true
  | integer, .float x => (Number.Binary.ofFloat x).whole?.isSome
  | boolean, .bool _ => true
  | null, .null => true
  | _, _ => false

end Kind

/-- What a schema asks of a value. Rules about texts, numbers, lists and mappings say nothing about
values that are none. -/
inductive Rule where
  | kind (kinds : List Kind)
  | oneOf (words : List String)
  | notEmpty
  /-- Letters, digits, `_`, `.` and `-`, after a point if the name is `dotted`. -/
  | name (dotted : Bool)
  | least (n : Int)
  | items (rules : List Rule)
  /-- A mapping has no keys but these. -/
  | closed (names : List String)
  | members (fields : List (String × List Rule))
  deriving Repr

/-- A step on the way to a part of a value. -/
inductive Step where
  | index (n : Nat)
  | key (name : String)
  deriving Repr, DecidableEq

namespace Step

def text : Step → String
  | index n => toString n
  | key name => name

/-- Whether a step comes before another. -/
def before : Step → Step → Bool
  | index m, index n => m < n
  | key a, key b => a < b
  | index _, key _ => true
  | key _, index _ => false

end Step

/-- A way comes before another if its first different step does, or if the other one goes on from it. -/
def wayBefore : List Step → List Step → Bool
  | [], [] => false
  | [], _ :: _ => true
  | _ :: _, [] => false
  | a :: s, b :: t => if a = b then wayBefore s t else a.before b

/-- What is wrong, and where. -/
structure Violation where
  way : List Step
  message : String
  /-- Why the message cannot be written: it would show a value that cannot be shown. -/
  fault : Option ShowFault := none
  deriving Repr, DecidableEq

/-- A violation inside of the part that a step leads to. -/
def Violation.under (step : Step) (v : Violation) : Violation := { v with way := step :: v.way }

/-- The violation as it is reported. -/
def Violation.text (v : Violation) : String :=
  let place := if v.way = [] then "<root>" else ".".intercalate (v.way.map Step.text)
  s!"{place}: {v.message}"

/-- A value as messages show it. -/
def shownValue (v : Value) : String := String.ofList v.shown

/-- A violation at the place itself. -/
def here (v : Value) (complaint : String) : List Violation :=
  [⟨[], shownValue v ++ complaint, v.showFault?⟩]

/-- Characters of names. -/
def isNameChar (c : Char) : Bool := c.isAlphanum || c == '_' || c == '.' || c == '-'

/-- Whether a text is a name. A line feed may follow it. -/
def isName (dotted : Bool) (s : List Char) : Bool :=
  let s := if s.getLast? = some '\n' then s.dropLast else s
  match dotted, s with
  | true, '.' :: s => !s.isEmpty && s.all isNameChar
  | true, _ => false
  | false, s => !s.isEmpty && s.all isNameChar

/-- The pattern of names, as messages show it. -/
def namePattern (dotted : Bool) : String :=
  shownValue (.str (if dotted then "^\\.[A-Za-z0-9_.-]+$" else "^[A-Za-z0-9_.-]+$"))

/-- Whether a number is below a bound. -/
def isBelow (n : Int) : Value → Bool
  | .int m => m < n
  | .float x => x < Float.ofInt n
  | _ => false

/-- The keys that a mapping has besides the names, in the order of their texts. -/
def extraKeys (names : List String) (pairs : Mapping) : List Scalar :=
  let extra := (pairs.map Prod.fst).filter fun key =>
    match key with
    | .str s => !names.contains s
    | _ => true
  extra.mergeSort fun a b => (Value.scalar a).toText ≤ (Value.scalar b).toText

/-- The complaint about keys that should not be there. -/
def extraMessage (extra : List Scalar) : String :=
  let listing := ", ".intercalate (extra.map fun key => String.ofList key.shown)
  let verb := if extra.length = 1 then "was" else "were"
  s!"Additional properties are not allowed ({listing} {verb} unexpected)"

mutual

/-- The violations of one rule. -/
def Rule.check : Rule → Value → List Violation
  | .kind kinds, v =>
    if kinds.any (·.holds v.opened) then []
    else
      let names := kinds.map fun k => shownValue (.str k.name)
      here v (" is not of type " ++ ", ".intercalate names)
  | .oneOf words, v =>
    match v with
    | .scalar (.str s) =>
      if words.contains s then []
      else here v (" is not one of " ++ shownValue (.list (words.map .str)))
    | v => here v (" is not one of " ++ shownValue (.list (words.map .str)))
  | .notEmpty, v =>
    match v with
    | .scalar (.str s) => if s = "" then here v " should be non-empty" else []
    | _ => []
  | .name dotted, v =>
    match v with
    | .scalar (.str s) =>
      if isName dotted s.toList then [] else here v (" does not match " ++ namePattern dotted)
    | _ => []
  | .least n, v =>
    if isBelow n v then here v (" is less than the minimum of " ++ shownValue (.int n)) else []
  | .items rules, v =>
    match v.opened with
    | .list items =>
      (items.zipIdx.map fun (item, n) => (checkAll rules item).map (.under (.index n))).flatten
    | _ => []
  | .closed names, v =>
    match v.opened with
    | .dict pairs =>
      let extra := extraKeys names pairs
      if extra.isEmpty then [] else [⟨[], extraMessage extra, extra.findSome? (Scalar.showFault? 1)⟩]
    | _ => []
  | .members fields, v =>
    match v.opened with
    | .dict pairs => checkMembers fields pairs
    | _ => []

/-- The violations of rules, in the order of the rules. -/
def checkAll : List Rule → Value → List Violation
  | [], _ => []
  | rule :: rules, v => rule.check v ++ checkAll rules v

/-- The violations in the members of a mapping that are there. -/
def checkMembers : List (String × List Rule) → Mapping → List Violation
  | [], _ => []
  | (name, rules) :: fields, pairs =>
    (match Mapping.get? pairs (.str name) with
      | some v => (checkAll rules v).map (.under (.key name))
      | none => [])
    ++ checkMembers fields pairs

end

/-! ### What rules ask for -/

/-- What a value of a kind is. A number with nothing after its point may be given as a floating-point number. -/
def Kind.Shape : Kind → Value → Prop
  | .object, v => ∃ m, v = .dict m
  | .array, v => ∃ items, v = .list items
  | .string, v => ∃ text, v = .str text
  | .integer, v => (∃ n, v = .int n) ∨ ∃ x, v = .float x ∧ (Number.Binary.ofFloat x).whole?.isSome = true
  | .boolean, v => ∃ b, v = .bool b
  | .null, v => v = .null

mutual

/-- What a value is that keeps to a rule. -/
def Rule.Met : Rule → Value → Prop
  | .kind kinds, v => ∃ k ∈ kinds, k.Shape v.opened
  | .oneOf words, v => ∃ word ∈ words, v = .str word
  | .notEmpty, v => v ≠ .str ""
  | .name dotted, v => ∀ text, v = .str text → isName dotted text.toList = true
  | .least n, v => isBelow n v = false
  | .items rules, v => ∀ items, v.opened = .list items → ∀ w ∈ items, AllMet rules w
  | .closed names, v => ∀ m, v.opened = .dict m → ∀ p ∈ m, ∃ name ∈ names, p.1 = .str name
  | .members fields, v => ∀ m, v.opened = .dict m → MembersMet fields m

def AllMet : List Rule → Value → Prop
  | [], _ => True
  | rule :: rules, v => rule.Met v ∧ AllMet rules v

/-- What the members of a mapping are if those that are there keep to their rules. -/
def MembersMet : List (String × List Rule) → Mapping → Prop
  | [], _ => True
  | (name, rules) :: fields, m =>
    (∀ w, Mapping.get? m (.str name) = some w → AllMet rules w) ∧ MembersMet fields m

end

section

variable {k : Kind} {v : Value} {m : Mapping}

theorem Kind.shape_of_holds (h : k.holds v = true) : k.Shape v := by
  unfold holds at h
  split at h <;> simp_all [Shape]

theorem here_ne_nil {complaint : String} : here v complaint ≠ [] := by
  simp [here]

theorem exists_name_of_extraKeys {names : List String} (h : (extraKeys names m).isEmpty = true) :
    ∀ p ∈ m, ∃ name ∈ names, p.1 = .str name := by
  rw [extraKeys, List.isEmpty_iff] at h
  have hnil := List.filter_eq_nil_iff.mp (List.perm_nil.mp (h ▸ (List.mergeSort_perm _ _).symm))
  intro p hp
  have hkey := hnil p.1 (List.mem_map_of_mem hp)
  split at hkey
  · next text heq => exact ⟨text, by simpa using hkey, heq⟩
  · exact absurd rfl hkey

mutual

/-- A value against which a rule says nothing keeps to it. -/
theorem Rule.met_of_check : (rule : Rule) → {v : Value} → rule.check v = [] → rule.Met v
  | .kind kinds, v, h => by
    rw [Rule.check] at h
    rw [Rule.Met]
    split at h
    · next hany =>
      obtain ⟨k, hk, hholds⟩ := List.any_eq_true.mp hany
      exact ⟨k, hk, Kind.shape_of_holds hholds⟩
    · exact absurd h here_ne_nil
  | .oneOf words, v, h => by
    simp only [Rule.check] at h
    rw [Rule.Met]
    split at h
    · next text =>
      split at h
      · next hcontains => exact ⟨text, List.contains_iff_mem.mp hcontains, rfl⟩
      · exact absurd h here_ne_nil
    · exact absurd h here_ne_nil
  | .notEmpty, v, h => by
    rw [Rule.Met]
    rintro rfl
    cases h
  | .name dotted, v, h => by
    rw [Rule.Met]
    rintro text rfl
    simp only [Rule.check] at h
    split at h
    · assumption
    · exact absurd h here_ne_nil
  | .least n, v, h => by
    rw [Rule.check] at h
    rw [Rule.Met]
    split at h
    · exact absurd h here_ne_nil
    · next hbelow => exact Bool.eq_false_iff.mpr hbelow
  | .items rules, v, h => by
    rw [Rule.Met]
    intro items hv w hw
    rw [Rule.check, hv] at h
    obtain ⟨n, hn, rfl⟩ := List.mem_iff_getElem.mp hw
    have hnil := List.flatten_eq_nil_iff.mp h ((checkAll rules items[n]).map (.under (.index n)))
      (List.mem_map.mpr ⟨(items[n], n), List.mem_zipIdx_iff_getElem?.mpr (by simp [hn]), rfl⟩)
    exact allMet_of_checkAll rules (List.map_eq_nil_iff.mp hnil)
  | .closed names, v, h => by
    rw [Rule.Met]
    intro m hv
    simp only [Rule.check, hv] at h
    split at h
    · next hempty => exact exists_name_of_extraKeys hempty
    · cases h
  | .members fields, v, h => by
    rw [Rule.Met]
    intro m hv
    rw [Rule.check, hv] at h
    exact membersMet_of_checkMembers fields h

theorem allMet_of_checkAll : (rules : List Rule) → {v : Value} → checkAll rules v = [] → AllMet rules v
  | [], v, _ => by
    rw [AllMet]
    trivial
  | rule :: rules, v, h => by
    rw [checkAll, List.append_eq_nil_iff] at h
    rw [AllMet]
    exact ⟨rule.met_of_check h.1, allMet_of_checkAll rules h.2⟩

theorem membersMet_of_checkMembers : (fields : List (String × List Rule)) → {m : Mapping} →
    checkMembers fields m = [] → MembersMet fields m
  | [], m, _ => by
    rw [MembersMet]
    trivial
  | (name, rules) :: fields, m, h => by
    rw [checkMembers, List.append_eq_nil_iff] at h
    rw [MembersMet]
    refine ⟨fun w hw => allMet_of_checkAll rules ?_, membersMet_of_checkMembers fields h.2⟩
    simpa [hw] using h.1

end

end

/-- Something that tells the violations of rules. -/
structure Checker where
  check : List Rule → Value → List Violation
  /-- A value of which nothing is told keeps to the rules. -/
  allMet_of_check : ∀ {rules : List Rule} {v : Value}, check rules v = [] → AllMet rules v

/-- The checker that goes through the rules one after the other. -/
def Checker.own : Checker where
  check := checkAll
  allMet_of_check h := allMet_of_checkAll _ h

/-- All violations of rules, in the order of their places. -/
def Checker.violations (c : Checker) (rules : List Rule) (v : Value) : List Violation :=
  (c.check rules v).mergeSort fun a b => !wayBefore b.way a.way

/-- Where nothing is told, the rules are kept. -/
theorem Checker.allMet_of_violations {c : Checker} {rules : List Rule} {v : Value} (h : c.violations rules v = []) :
    AllMet rules v := by
  have hperm : (c.violations rules v).Perm (c.check rules v) := List.mergeSort_perm _ _
  rw [h] at hperm
  exact c.allMet_of_check hperm.nil_eq.symm

/-! ### The schema of the configuration -/

/-- A section that has no members but these. -/
def ruleSection (fields : List (String × List Rule)) : List Rule :=
  [.kind [.object], .closed (fields.map Prod.fst), .members fields]

def someText : List Rule := [.kind [.string], .notEmpty]

def textOrNothing : List Rule := [.kind [.string, .null]]

def templateRules : List Rule := ruleSection
  [("paths", [.kind [.array], .items someText]),
   ("extension", [.kind [.string], .name true]),
   ("layouts_dir", someText),
   ("components_dir", someText),
   ("create_missing", [.kind [.boolean]]),
   ("max_iterations", [.kind [.integer], .least 1]),
   ("default_layout", textOrNothing)]

def cacheRules : List Rule := ruleSection
  [("enabled", [.kind [.boolean]]),
   ("store", [.kind [.string], .oneOf ["filesystem", "memory"]]),
   ("directory", someText),
   ("namespace", [.kind [.string], .name false]),
   ("ttl", [.kind [.integer]])]

def renderRules : List Rule := ruleSection
  [("dump_compiled", [.kind [.boolean]]), ("dump_dir", someText)]

def loggingRules : List Rule := ruleSection
  [("level", [.kind [.string], .oneOf ["DEBUG", "INFO", "WARNING", "ERROR", "CRITICAL"]]),
   ("file", textOrNothing)]

/-- What a configuration has to be. It may have sections of other names. -/
def schema : List Rule :=
  [.kind [.object],
   .members [("templates", templateRules), ("cache", cacheRules), ("render", renderRules),
     ("logging", loggingRules)]]

end Stencil.Config
