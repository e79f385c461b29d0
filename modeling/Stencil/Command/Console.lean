import Stencil.Json.Printer
import Stencil.Session

/-! What commands print: text for readers, or JSON for tools. -/
namespace Stencil.Command

structure Console where
  json : Bool := false
  /-- How far JSON is indented for each level; without it JSON stands on one line. -/
  indent : Option Nat := some 2

namespace Console

/-- A mapping with texts for keys. -/
def fields (pairs : List (String × Value)) : Mapping := pairs.map fun p => (.str p.1, p.2)

/-- The JSON text of a value, on lines of its own. -/
def jsonText (c : Console) (v : Value) : Except Error (List Char) :=
  match Json.fault? v with
  | some fault => .error (.ofWriteFault c.indent.isNone fault)
  | none => .ok (Json.render ⟨true, c.indent⟩ 0 v ++ ['\n'])

/-- Prints a value as JSON. -/
def value (c : Console) (v : Value) : Act Unit := do Act.print (← Act.ofExcept (c.jsonText v))

/-- Prints a line. -/
def text (line : String) : Act Unit := Act.print (line.toList ++ ['\n'])

/-- Prints a result: its data for tools, a message for readers. -/
def success (c : Console) (data : Mapping) (message : String) (status : String := "success") :
    Act Unit :=
  if c.json then c.value (.dict (Mapping.overlay (fields [("status", .str status)]) data))
  else text message

/-- The fields that tools get about an error. -/
def errorFields (e : Error) (message code : String) : Mapping :=
  fields ([("error", .str code), ("message", .str message)]
    ++ (match e.payload? with
      | some p => [("code", .str p.kind.code), ("context", .dict p.context)]
      | none => []))

/-- Prints an error, with a message of its own unless another one is given. -/
def error (c : Console) (e : Error) (code : String := "error") (message : Option String := none) :
    Act Unit := do
  let own := (message.filter (· != "")).getD e.message
  if c.json then Act.printError (← Act.ofExcept (c.jsonText (.dict (errorFields e own code))))
  else Act.printError ("Error: ".toList ++ own.toList ++ ['\n'])

/-- Prints a value under a name, for readers only. -/
def entry (c : Console) (key : String) (v : Value) (lead : String := "  ") : Act Unit :=
  if c.json then pure ()
  else
    let shown := v.toText
    text s!"{lead}{key}: {shown}"

end Console

/-- Runs a command. An error is printed and makes the command fail. -/
def Console.guard (c : Console) (code : String) (run : Act Nat) : Act Nat := do
  match ← Act.attempt run with
  | .ok exit => return exit
  | .error e =>
    c.error e code
    return 1

end Stencil.Command
