import Stencil.Command.Pages
import Stencil.Yaml.Printer

/-! The commands around pages: clearing the render cache, and showing the configuration. -/
namespace Stencil.Command

/-- Clears the render cache of one page or of all, and says what it did. -/
def clearCache (args : Arguments) : Act Nat := do
  let console := consoleOf args
  console.guard "cache_clear_error" do
    let root ← rootOf args
    openLog args root
    let config := (← Config.load (some root)).config
    let settings ← Config.settingsOf root config
    let given := (Mapping.get? args (.str "template")).getD .null
    let name := match given with
      | .scalar (.str s) => some s
      | _ => none
    match ← Act.ofExcept (Cache.Renders.ofSettings settings) with
    | none =>
      console.success
        (Console.fields
          [("cleared", .bool false), ("template", given), ("reason", .str "cache disabled")])
        "Render cache is disabled; nothing to clear"
    | some cache =>
      let (cleared, _) ← cache.clear name
      let target := match textOf args "template" with
        | some page => s!"template '{page}'"
        | none => "all templates"
      console.success (Console.fields [("cleared", .bool cleared), ("template", given)])
        (if cleared then s!"Cleared render cache for {target}"
          else s!"No cached renders for {target}")
    return 0

/-- A part of a graph inside of the mappings that a key with dots names. -/
def nested (names : List String) (n : Nat) (g : Graph) : Nat × Graph :=
  names.foldr (fun name (n, g) =>
    let (key, g) := g.add (.scalar (.str name))
    g.add (.dict [(key, n)])) (n, g)

/-- Prints the configuration, or one value of it. -/
def showConfig (args : Arguments) : Act Nat := do
  let console := consoleOf args
  console.guard "config_show_error" do
    let layer := (← Config.load (some (← rootOf args))).layer
    let (root, g) := layer.toGraph
    let print (n : Nat) (g : Graph) : Act Nat := do
      if console.json then console.value (g.value n)
      else
        let text ← Act.ofExcept (Yaml.writeGraph g.sorted n)
        Console.text (String.ofList (Text.trimEnd text))
      return 0
    match textOf args "key" with
    | none => print root g
    | some key =>
      let names := (Text.splitOn '.' key.toList).map String.ofList
      let missing : Act Nat := do
        Console.text ("Key not found: " ++ key)
        return 1
      match g.part? root names with
      | none => missing
      | some n =>
        match g.cell n with
        | .scalar .null => missing
        | _ =>
          let (n, g) := nested (names.filter (· ≠ "")) n g
          print n g

end Stencil.Command
