import Stencil.Text.Quoted
import Stencil.Text.Pieces
import Stencil.Template.Braces
import Stencil.Unicode.Identifier

/-! The target language: plain text with tags that print a brace, show a value, loop over a collection,
and bind names. Here are the tags, their one spelling, and a reader that also admits other spacing. -/
namespace Stencil.Target

open Text (expect skipSpace needSpace)

/-- What a name can be bound to. -/
inductive Expr where
  | name (n : String)
  | nothing
  | literal (value : String)
  deriving Repr, DecidableEq

/-- A tag. -/
inductive Construct where
  | brace
  | «show» (name : String)
  | openLoop (index item collection : String)
  | closeLoop
  | openWith (bindings : List (String × Expr))
  | closeWith
  deriving Repr, DecidableEq

/-- The name that an expression is, if it is one. -/
def Expr.names : Expr → List String
  | name n => [n]
  | nothing | literal _ => []

/-- The names in a tag, in order. The token of a brace counts as a sign, not as a name. -/
def Construct.names : Construct → List String
  | brace | closeLoop | closeWith => []
  | «show» n => [n]
  | openLoop index item collection => [index, item, collection]
  | openWith bindings => bindings.flatMap fun b => b.1 :: b.2.names

/-- Characters that a literal holds as they are. -/
def isPlainInLiteral (c : Char) : Bool :=
  c.isAlphanum || c == ' ' || c == '_' || c == '.' || c == ',' || c == '-'

/-- A character inside a literal. -/
def literalChar (c : Char) : List Char := if isPlainInLiteral c then [c] else Text.codeEscape c

/-- A string literal: nothing in it can be taken for a quote, a tag or a directive. -/
def literalText (s : List Char) : List Char := '"' :: (s.flatMap literalChar ++ ['"'])

def Expr.text : Expr → List Char
  | name n => n.toList
  | nothing => "none".toList
  | literal value => literalText value.toList

/-- The bindings of a tag, separated by commas. -/
def bindingsText : List (String × Expr) → List Char
  | [] => []
  | [(k, e)] => k.toList ++ '=' :: e.text
  | (k, e) :: rest => k.toList ++ '=' :: (e.text ++ ',' :: ' ' :: bindingsText rest)

/-- The spelling of a tag. -/
def Construct.text : Construct → List Char
  | brace => Template.braceToken
  | «show» n => "\x7b\x7b ".toList ++ n.toList ++ "|display \x7d\x7d".toList
  | openLoop index item collection =>
    "\x7b% for ".toList ++ index.toList ++ ", ".toList ++ item.toList ++ " in ".toList
      ++ collection.toList ++ "|entries %\x7d".toList
  | closeLoop => "\x7b% endfor %\x7d".toList
  | openWith bindings => "\x7b% with ".toList ++ bindingsText bindings ++ " %\x7d".toList
  | closeWith => "\x7b% endwith %\x7d".toList

namespace Construct

theorem text_brace : brace.text = Template.braceToken := rfl

theorem text_show (n : String) :
    («show» n).text = "\x7b\x7b ".toList ++ n.toList ++ "|display \x7d\x7d".toList := rfl

theorem text_openLoop (index item collection : String) :
    (openLoop index item collection).text =
      "\x7b% for ".toList ++ index.toList ++ ", ".toList ++ item.toList ++ " in ".toList
        ++ collection.toList ++ "|entries %\x7d".toList := rfl

theorem text_closeLoop : closeLoop.text = "\x7b% endfor %\x7d".toList := rfl

theorem text_openWith (bindings : List (String × Expr)) :
    (openWith bindings).text =
      "\x7b% with ".toList ++ bindingsText bindings ++ " %\x7d".toList := rfl

theorem text_closeWith : closeWith.text = "\x7b% endwith %\x7d".toList := rfl

end Construct

/-- The value of a hexadecimal digit. -/
def hexValue? (c : Char) : Option Nat :=
  if '0' ≤ c ∧ c ≤ '9' then some (c.toNat - 48)
  else if 'a' ≤ c ∧ c ≤ 'f' then some (c.toNat - 87)
  else if 'A' ≤ c ∧ c ≤ 'F' then some (c.toNat - 55)
  else none

/-- `width` hexadecimal digits after the value `n` of those before them. -/
def takeHex : (width n : Nat) → List Char → Option (Nat × List Char)
  | 0, n, s => some (n, s)
  | _ + 1, _, [] => none
  | width + 1, n, c :: s => (hexValue? c).bind fun d => takeHex width (n * 16 + d) s

/-- The digits that the letter after a backslash announces. -/
def escapeWidth? (c : Char) : Option Nat :=
  if c = 'x' then some 2 else if c = 'u' then some 4 else if c = 'U' then some 8 else none

/-- The character of a backslash and one letter or sign. -/
def shortEscape? (c : Char) : Option Char :=
  match c with
  | 'n' => some '\n'
  | 't' => some '\t'
  | 'r' => some '\r'
  | '\\' => some '\\'
  | '\'' => some '\''
  | '"' => some '"'
  | _ => none

/-- The value of a literal after its opening quote, and what follows its closing one. -/
def readLiteral (quote : Char) : (fuel : Nat) → List Char → Option (List Char × List Char)
  | 0, _ => none
  | _ + 1, [] => none
  | fuel + 1, c :: s =>
    if c = quote then some ([], s)
    else if c = '\\' then
      match s with
      | [] => none
      | e :: s =>
        match escapeWidth? e with
        | some width =>
          match takeHex width 0 s with
          | some (n, s) => (readLiteral quote fuel s).map fun r => (Char.ofNat n :: r.1, r.2)
          | none => none
        | none =>
          match shortEscape? e with
          | some x => (readLiteral quote fuel s).map fun r => (x :: r.1, r.2)
          | none => (readLiteral quote fuel s).map fun r => (c :: e :: r.1, r.2)
    else (readLiteral quote fuel s).map fun r => (c :: r.1, r.2)

/-- Characters of the names in tags: those of words, and what else an identifier may go on with. A tag in which one
of these is too new is still found as a tag, and refused when the tags are read. -/
def isNamePart (c : Char) : Bool := Unicode.isWord c || Unicode.isIdentifierContinue c

/-- The longest name at the start of a text, which must not be empty, and what follows it. -/
def takeName (s : List Char) : Option (List Char × List Char) :=
  match s.takeWhile isNamePart with
  | [] => none
  | w => some (w, s.dropWhile isNamePart)

/-- An expression: a literal, a name, or the name of nothing. -/
def readExpr : List Char → Option (Expr × List Char)
  | '"' :: s => (readLiteral '"' (s.length + 1) s).map fun r => (.literal (String.ofList r.1), r.2)
  | '\'' :: s => (readLiteral '\'' (s.length + 1) s).map fun r => (.literal (String.ofList r.1), r.2)
  | s =>
    (takeName s).map fun r =>
      (if r.1 = "none".toList ∨ r.1 = "None".toList then .nothing else .name (String.ofList r.1), r.2)

/-- One or more bindings up to the end of the tag. -/
def readBindings : (fuel : Nat) → List Char → Option (List (String × Expr) × List Char)
  | 0, _ => none
  | fuel + 1, s => do
    let (k, s) ← takeName (skipSpace s)
    let s ← expect ['='] (skipSpace s)
    let (e, s) ← readExpr (skipSpace s)
    match skipSpace s with
    | ',' :: s => do
      let (rest, s) ← readBindings fuel s
      some ((String.ofList k, e) :: rest, s)
    | s => some ([(String.ofList k, e)], s)

/-- The rest of a tag that shows something. -/
def readShow (s : List Char) : Option (Construct × List Char) := do
  let (n, s) ← takeName (skipSpace s)
  match skipSpace s with
  | '|' :: s => do
    let s ← expect "display".toList (skipSpace s)
    let s ← expect ['}', '}'] (skipSpace s)
    some (.show (String.ofList n), s)
  | s => do
    let s ← expect ['}', '}'] s
    if n = "__lb".toList then some (.brace, s) else none

/-- The rest of a tag that does something. -/
def readStatement (s : List Char) : Option (Construct × List Char) := do
  let (keyword, s) ← takeName (skipSpace s)
  if keyword = "for".toList then do
    let (index, s) ← takeName (skipSpace s)
    let s ← expect [','] (skipSpace s)
    let (item, s) ← takeName (skipSpace s)
    let s ← expect ['i', 'n'] (skipSpace s)
    let s ← needSpace s
    let (collection, s) ← takeName s
    let s ← expect ['|'] (skipSpace s)
    let s ← expect "entries".toList (skipSpace s)
    let s ← expect ['%', '}'] (skipSpace s)
    some (.openLoop (String.ofList index) (String.ofList item) (String.ofList collection), s)
  else if keyword = "endfor".toList then do
    let s ← expect ['%', '}'] (skipSpace s)
    some (.closeLoop, s)
  else if keyword = "with".toList then do
    let (bindings, s) ← readBindings s.length s
    let s ← expect ['%', '}'] (skipSpace s)
    some (.openWith bindings, s)
  else if keyword = "endwith".toList then do
    let s ← expect ['%', '}'] (skipSpace s)
    some (.closeWith, s)
  else none

/-- A tag at the start of a text. -/
def Construct.read : List Char → Option (Construct × List Char)
  | '{' :: '{' :: s => readShow s
  | '{' :: '%' :: s => readStatement s
  | _ => none

theorem takeHex_suffix {width n m : Nat} {s rest : List Char}
    (h : takeHex width n s = some (m, rest)) : rest <:+ s := by
  induction width generalizing n s with
  | zero => simp only [takeHex, Option.some.injEq, Prod.mk.injEq] at h; exact h.2 ▸ List.suffix_rfl
  | succ width ih =>
    cases s with
    | nil => simp [takeHex] at h
    | cons c s =>
      obtain ⟨d, _, h⟩ := Option.bind_eq_some_iff.mp h
      exact (ih h).trans (List.suffix_cons c s)

theorem readLiteral_suffix {quote : Char} {fuel : Nat} {s v rest : List Char}
    (h : readLiteral quote fuel s = some (v, rest)) : rest <:+ s := by
  induction fuel generalizing s v with
  | zero => simp [readLiteral] at h
  | succ fuel ih =>
    have step {t : List Char} {x : List Char → List Char}
        (h : (readLiteral quote fuel t).map (fun r => (x r.1, r.2)) = some (v, rest)) :
        rest <:+ t := by
      obtain ⟨r, hr, he⟩ := Option.map_eq_some_iff.mp h
      cases he
      exact ih hr
    cases s with
    | nil => simp [readLiteral] at h
    | cons c s =>
      simp only [readLiteral] at h
      split at h
      · cases h; exact List.suffix_cons _ _
      split at h
      · cases s with
        | nil => cases h
        | cons e s =>
          refine List.IsSuffix.trans ?_ ((List.suffix_cons e s).trans (List.suffix_cons c (e :: s)))
          dsimp only at h
          split at h
          · split at h
            · exact (step h).trans (takeHex_suffix (by assumption))
            · cases h
          · split at h
            · exact step (x := List.cons _) h
            · exact step (x := fun l => c :: e :: l) h
      · exact (step h).trans (List.suffix_cons c s)

theorem takeName_suffix {s w rest : List Char} (h : takeName s = some (w, rest)) : rest <:+ s := by
  unfold takeName at h
  split at h
  · cases h
  · cases h
    exact List.dropWhile_suffix _

theorem readExpr_suffix {s rest : List Char} {e : Expr} (h : readExpr s = some (e, rest)) :
    rest <:+ s := by
  unfold readExpr at h
  split at h <;> obtain ⟨r, hr, he⟩ := Option.map_eq_some_iff.mp h <;> cases he
  · exact (readLiteral_suffix hr).trans (List.suffix_cons _ _)
  · exact (readLiteral_suffix hr).trans (List.suffix_cons _ _)
  · exact takeName_suffix hr

theorem readBindings_suffix {fuel : Nat} {s rest : List Char} {bindings : List (String × Expr)}
    (h : readBindings fuel s = some (bindings, rest)) : rest <:+ s := by
  induction fuel generalizing s bindings with
  | zero => simp [readBindings] at h
  | succ fuel ih =>
    simp only [readBindings, Option.bind_eq_bind] at h
    obtain ⟨⟨k, s₁⟩, h₁, h⟩ := Option.bind_eq_some_iff.mp h
    obtain ⟨s₂, h₂, h⟩ := Option.bind_eq_some_iff.mp h
    obtain ⟨⟨e, s₃⟩, h₃, h⟩ := Option.bind_eq_some_iff.mp h
    have hs : Text.skipSpace s₃ <:+ s :=
      (Text.skipSpace_suffix s₃).trans <| (readExpr_suffix h₃).trans <|
        (Text.skipSpace_suffix s₂).trans <| (Text.expect_suffix h₂).trans <|
        (Text.skipSpace_suffix s₁).trans <| (takeName_suffix h₁).trans (Text.skipSpace_suffix s)
    dsimp only at h
    split at h
    · next t heq =>
      obtain ⟨⟨r, t'⟩, h₄, h⟩ := Option.bind_eq_some_iff.mp h
      cases h
      exact (ih h₄).trans ((List.suffix_cons ',' t).trans (heq ▸ hs))
    · cases h; exact hs

theorem readShow_suffix {s rest : List Char} {c : Construct} (h : readShow s = some (c, rest)) :
    rest <:+ s := by
  simp only [readShow, Option.bind_eq_bind] at h
  obtain ⟨⟨n, s₁⟩, h₁, h⟩ := Option.bind_eq_some_iff.mp h
  have hs : Text.skipSpace s₁ <:+ s :=
    (Text.skipSpace_suffix s₁).trans <| (takeName_suffix h₁).trans (Text.skipSpace_suffix s)
  dsimp only at h
  split at h
  · next t heq =>
    obtain ⟨s₂, h₂, h⟩ := Option.bind_eq_some_iff.mp h
    obtain ⟨s₃, h₃, h⟩ := Option.bind_eq_some_iff.mp h
    cases h
    exact (Text.expect_suffix h₃).trans <| (Text.skipSpace_suffix s₂).trans <|
      (Text.expect_suffix h₂).trans <| (Text.skipSpace_suffix t).trans <|
      (List.suffix_cons '|' t).trans (heq ▸ hs)
  · obtain ⟨s₂, h₂, h⟩ := Option.bind_eq_some_iff.mp h
    split at h
    · cases h; exact (Text.expect_suffix h₂).trans hs
    · cases h

/-- The end of a statement leaves less of the text. -/
theorem statementEnd_suffix {s rest : List Char} (h : expect ['%', '}'] (skipSpace s) = some rest) :
    rest <:+ s :=
  (Text.expect_suffix h).trans (Text.skipSpace_suffix s)

theorem readStatement_suffix {s rest : List Char} {c : Construct}
    (h : readStatement s = some (c, rest)) : rest <:+ s := by
  simp only [readStatement, Option.bind_eq_bind] at h
  obtain ⟨⟨keyword, s₁⟩, h₁, h⟩ := Option.bind_eq_some_iff.mp h
  refine List.IsSuffix.trans ?_ ((takeName_suffix h₁).trans (Text.skipSpace_suffix s))
  dsimp only at h
  split at h
  · obtain ⟨⟨_, s₂⟩, h₂, h⟩ := Option.bind_eq_some_iff.mp h
    obtain ⟨s₃, h₃, h⟩ := Option.bind_eq_some_iff.mp h
    obtain ⟨⟨_, s₄⟩, h₄, h⟩ := Option.bind_eq_some_iff.mp h
    obtain ⟨s₅, h₅, h⟩ := Option.bind_eq_some_iff.mp h
    obtain ⟨s₆, h₆, h⟩ := Option.bind_eq_some_iff.mp h
    obtain ⟨⟨_, s₇⟩, h₇, h⟩ := Option.bind_eq_some_iff.mp h
    obtain ⟨s₈, h₈, h⟩ := Option.bind_eq_some_iff.mp h
    obtain ⟨s₉, h₉, h⟩ := Option.bind_eq_some_iff.mp h
    obtain ⟨s₁₀, h₁₀, h⟩ := Option.bind_eq_some_iff.mp h
    cases h
    exact (statementEnd_suffix h₁₀).trans <| (Text.expect_suffix h₉).trans <|
      (Text.skipSpace_suffix s₈).trans <| (Text.expect_suffix h₈).trans <|
      (Text.skipSpace_suffix s₇).trans <| (takeName_suffix h₇).trans <|
      (Text.needSpace_suffix h₆).1.trans <| (Text.expect_suffix h₅).trans <|
      (Text.skipSpace_suffix s₄).trans <| (takeName_suffix h₄).trans <|
      (Text.skipSpace_suffix s₃).trans <| (Text.expect_suffix h₃).trans <|
      (Text.skipSpace_suffix s₂).trans <| (takeName_suffix h₂).trans (Text.skipSpace_suffix s₁)
  split at h
  · obtain ⟨s₂, h₂, h⟩ := Option.bind_eq_some_iff.mp h
    cases h; exact statementEnd_suffix h₂
  split at h
  · obtain ⟨⟨_, s₂⟩, h₂, h⟩ := Option.bind_eq_some_iff.mp h
    obtain ⟨s₃, h₃, h⟩ := Option.bind_eq_some_iff.mp h
    cases h; exact (statementEnd_suffix h₃).trans (readBindings_suffix h₂)
  split at h
  · obtain ⟨s₂, h₂, h⟩ := Option.bind_eq_some_iff.mp h
    cases h; exact statementEnd_suffix h₂
  · cases h

theorem Construct.read_suffix {s rest : List Char} {c : Construct}
    (h : Construct.read s = some (c, rest)) : rest <:+ s ∧ rest.length < s.length := by
  unfold Construct.read at h
  split at h
  · next t =>
    have hs := readShow_suffix h
    exact ⟨hs.trans ((List.suffix_cons _ _).trans (List.suffix_cons _ _)),
      Nat.lt_of_le_of_lt hs.length_le (by simp only [List.length_cons]; omega)⟩
  · next t =>
    have hs := readStatement_suffix h
    exact ⟨hs.trans ((List.suffix_cons _ _).trans (List.suffix_cons _ _)),
      Nat.lt_of_le_of_lt hs.length_le (by simp only [List.length_cons]; omega)⟩
  · cases h

/-- Finds tags in a text. -/
def Construct.recogniser : Text.Recogniser Construct where
  read := Construct.read
  read_suffix h := (Construct.read_suffix h).1
  read_shorter h := (Construct.read_suffix h).2

end Stencil.Target
