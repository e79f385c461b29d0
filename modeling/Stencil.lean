import Stencil.Cache.Directory
import Stencil.Cache.Key
import Stencil.Cache.Memory
import Stencil.Cache.Renders
import Stencil.Cache.Store
import Stencil.Command.Console
import Stencil.Command.Line
import Stencil.Command.Pages
import Stencil.Command.Table
import Stencil.Command.Upkeep
import Stencil.Config.Coerce
import Stencil.Config.Load
import Stencil.Config.Override
import Stencil.Config.Schema
import Stencil.Config.Settings
import Stencil.Digest.Sha256
import Stencil.Engine
import Stencil.Engine.OfConfig
import Stencil.Error
import Stencil.Files.Access
import Stencil.Files.Json
import Stencil.Files.Path
import Stencil.Files.Tree
import Stencil.Files.Yaml
import Stencil.Json.Printer
import Stencil.Json.Reader
import Stencil.Log.Configure
import Stencil.Log.Journal
import Stencil.Main
import Stencil.Number.Binary
import Stencil.Number.FloatText
import Stencil.Number.Reader
import Stencil.Number.Shortest
import Stencil.Project
import Stencil.Proofs.Cache.Clearing
import Stencil.Proofs.Cache.Damage
import Stencil.Proofs.Cache.Directory
import Stencil.Proofs.Cache.History
import Stencil.Proofs.Cache.Interchange
import Stencil.Proofs.Cache.Key
import Stencil.Proofs.Cache.Memory
import Stencil.Proofs.Cache.Renders
import Stencil.Proofs.Config.Cached
import Stencil.Proofs.Config.Coerce
import Stencil.Proofs.Config.Load
import Stencil.Proofs.Config.Overrides
import Stencil.Proofs.Config.Precedence
import Stencil.Proofs.Config.Setting
import Stencil.Proofs.Config.Valid
import Stencil.Proofs.Engine.Building
import Stencil.Proofs.Engine.Cached
import Stencil.Proofs.Engine.Containment
import Stencil.Proofs.Engine.Dumps
import Stencil.Proofs.Engine.Uncached
import Stencil.Proofs.Engine.Views
import Stencil.Proofs.Files.Access
import Stencil.Proofs.Files.Directory
import Stencil.Proofs.Files.Layers
import Stencil.Proofs.Files.Looks
import Stencil.Proofs.Files.Names
import Stencil.Proofs.Files.Walk
import Stencil.Proofs.Json.Flat
import Stencil.Proofs.Json.Line
import Stencil.Proofs.Json.Numbers
import Stencil.Proofs.Json.ReadBack
import Stencil.Proofs.Json.Trees
import Stencil.Proofs.Mapping
import Stencil.Proofs.Number.Rounding
import Stencil.Proofs.Number.Scientific
import Stencil.Proofs.Number.Shortest
import Stencil.Proofs.Number.Unpacked
import Stencil.Proofs.Pieces
import Stencil.Proofs.Session
import Stencil.Proofs.Target.Literals
import Stencil.Proofs.Target.Markup
import Stencil.Proofs.Target.Names
import Stencil.Proofs.Target.Nesting
import Stencil.Proofs.Target.Occurrences
import Stencil.Proofs.Target.Reading
import Stencil.Proofs.Target.Tiling
import Stencil.Proofs.Template.Braces
import Stencil.Proofs.Template.DataNames
import Stencil.Proofs.Template.Growth
import Stencil.Proofs.Template.Inlining
import Stencil.Proofs.Template.Isolation
import Stencil.Proofs.Template.LayoutChoice
import Stencil.Proofs.Template.Layouts
import Stencil.Proofs.Template.Lightening
import Stencil.Proofs.Template.LiteralProps
import Stencil.Proofs.Template.LiteralText
import Stencil.Proofs.Template.Lookup
import Stencil.Proofs.Template.LoopRounds
import Stencil.Proofs.Template.Marks
import Stencil.Proofs.Template.Markup
import Stencil.Proofs.Template.Nesting
import Stencil.Proofs.Template.NormalForm
import Stencil.Proofs.Template.OpenMarks
import Stencil.Proofs.Template.PassLimit
import Stencil.Proofs.Template.Passes
import Stencil.Proofs.Template.Places
import Stencil.Proofs.Template.PrintedUses
import Stencil.Proofs.Template.PropItems
import Stencil.Proofs.Template.PropQuotes
import Stencil.Proofs.Template.Quotes
import Stencil.Proofs.Template.RecursionGuard
import Stencil.Proofs.Template.Remarks
import Stencil.Proofs.Template.Seams
import Stencil.Proofs.Template.Settling
import Stencil.Proofs.Template.Siblings
import Stencil.Proofs.Template.Spellings
import Stencil.Proofs.Template.Splices
import Stencil.Proofs.Template.StageSplices
import Stencil.Proofs.Template.StageTexts
import Stencil.Proofs.Template.Steps
import Stencil.Proofs.Template.Tallies
import Stencil.Proofs.Template.TiledSource
import Stencil.Proofs.Template.TiledStretches
import Stencil.Proofs.Template.Tree
import Stencil.Proofs.Template.TreeBlocks
import Stencil.Proofs.Template.TreePages
import Stencil.Proofs.Template.TreeRender
import Stencil.Proofs.Template.TreeRounds
import Stencil.Proofs.Template.TreeRun
import Stencil.Proofs.Template.TreeStages
import Stencil.Proofs.Template.TruthfulReport
import Stencil.Proofs.Template.Unread
import Stencil.Proofs.Template.Untraced
import Stencil.Proofs.Template.Uses
import Stencil.Proofs.Template.WrittenUses
import Stencil.Proofs.Text.PrefixCode
import Stencil.Proofs.Value.Filling
import Stencil.Proofs.Value.Fresh
import Stencil.Proofs.Value.Graph
import Stencil.Proofs.Value.GraphMerge
import Stencil.Proofs.Value.GraphSet
import Stencil.Proofs.Value.GraphWays
import Stencil.Proofs.Value.Knots
import Stencil.Proofs.Value.Layers
import Stencil.Proofs.Value.ListMerge
import Stencil.Proofs.Value.Places
import Stencil.Proofs.Value.Planted
import Stencil.Proofs.Value.Proper
import Stencil.Proofs.Words
import Stencil.Proofs.Yaml.Making
import Stencil.Recursion
import Stencil.Session
import Stencil.Target.Block
import Stencil.Target.Construct
import Stencil.Target.Grammar
import Stencil.Target.Run
import Stencil.Template.Braces
import Stencil.Template.Compiler
import Stencil.Template.Directive.Comment
import Stencil.Template.Directive.Component
import Stencil.Template.Directive.Layout
import Stencil.Template.Directive.Loop
import Stencil.Template.Directive.Mark
import Stencil.Template.Locator
import Stencil.Template.Prop
import Stencil.Template.Render
import Stencil.Template.Report
import Stencil.Template.Scope
import Stencil.Template.Stage.Components
import Stencil.Template.Stage.Layouts
import Stencil.Template.Stage.Loops
import Stencil.Template.Stage.Marks
import Stencil.Text.Base64
import Stencil.Text.Parts
import Stencil.Text.Pieces
import Stencil.Text.Quoted
import Stencil.Text.Space
import Stencil.Text.Utf8
import Stencil.Unicode.Case
import Stencil.Unicode.Compatibility
import Stencil.Unicode.Identifier
import Stencil.Unicode.Printable
import Stencil.Unicode.Ranges
import Stencil.Unicode.Word
import Stencil.Value.Basic
import Stencil.Value.Calendar
import Stencil.Value.Display
import Stencil.Value.Graph
import Stencil.Value.Layer
import Stencil.Value.Numeric
import Stencil.Value.Order
import Stencil.View
import Stencil.Yaml.Cursor
import Stencil.Yaml.Mark
import Stencil.Yaml.Node
import Stencil.Yaml.Node.Reader
import Stencil.Yaml.Node.Value
import Stencil.Yaml.Printer
import Stencil.Yaml.Scalar
import Stencil.Yaml.Sheet
import Stencil.Yaml.Style
import Stencil.Yaml.Tag
import Stencil.Yaml.Token.Basic
import Stencil.Yaml.Token.Scalar
import Stencil.Yaml.Token.Stream
