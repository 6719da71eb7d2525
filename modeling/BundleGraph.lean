import BundleGraph.Build.Files
import BundleGraph.Build.Options
import BundleGraph.Build.Report
import BundleGraph.Build.Run
import BundleGraph.ContentKind
import BundleGraph.Error
import BundleGraph.FileSystem.Basic
import BundleGraph.FileSystem.Disk
import BundleGraph.FileSystem.Memory
import BundleGraph.Graph.Basic
import BundleGraph.Graph.Module
import BundleGraph.Import.Basic
import BundleGraph.Import.Scan
import BundleGraph.Import.Script
import BundleGraph.Import.Stylesheet
import BundleGraph.Journal
import BundleGraph.Json.Basic
import BundleGraph.Json.Decimal
import BundleGraph.Json.Form.Basic
import BundleGraph.Json.Form.Build
import BundleGraph.Json.Form.Graph
import BundleGraph.Json.Form.Settings
import BundleGraph.Json.Merge
import BundleGraph.Json.Reader
import BundleGraph.Json.Writer
import BundleGraph.LogLevel
import BundleGraph.ModuleId
import BundleGraph.Path
import BundleGraph.Pattern.Automaton
import BundleGraph.Pattern.Basic
import BundleGraph.Pattern.CharClass
import BundleGraph.Pattern.ClassReader
import BundleGraph.Pattern.Grammar
import BundleGraph.Pattern.Reader
import BundleGraph.Pattern.Tree
import BundleGraph.Plugin.Filter
import BundleGraph.Plugin.Hook
import BundleGraph.Plugin.Load
import BundleGraph.Plugin.Registry
import BundleGraph.Plugin.Resolve
import BundleGraph.Plugin.Setup
import BundleGraph.Proofs.Build.BreadthFirst
import BundleGraph.Proofs.Build.Closure
import BundleGraph.Proofs.Build.Completion
import BundleGraph.Proofs.Build.OrderIndependence
import BundleGraph.Proofs.Graph.Changes
import BundleGraph.Proofs.Graph.Order
import BundleGraph.Proofs.Import.Scan
import BundleGraph.Proofs.Plugin.Identity
import BundleGraph.Proofs.Run.Account
import BundleGraph.Proofs.Run.AtMostOnce
import BundleGraph.Proofs.Run.Demand
import BundleGraph.Proofs.Run.InOrder
import BundleGraph.Proofs.Run.Memo
import BundleGraph.Proofs.Run.Outcome
import BundleGraph.Proofs.Run.Schedule
import BundleGraph.Proofs.Run.Task
import BundleGraph.Proofs.Run.Worklist
import BundleGraph.Script.Character
import BundleGraph.Script.Cursor
import BundleGraph.Script.Grammar.Arrow
import BundleGraph.Script.Grammar.Binding
import BundleGraph.Script.Grammar.Class
import BundleGraph.Script.Grammar.Declaration
import BundleGraph.Script.Grammar.Expression
import BundleGraph.Script.Grammar.Markup
import BundleGraph.Script.Grammar.Modifier
import BundleGraph.Script.Grammar.Module
import BundleGraph.Script.Grammar.Object
import BundleGraph.Script.Grammar.Statement
import BundleGraph.Script.Grammar.Target
import BundleGraph.Script.Grammar.Type
import BundleGraph.Script.Lexer
import BundleGraph.Script.Lexer.Number
import BundleGraph.Script.Lexer.Quoted
import BundleGraph.Script.Parse
import BundleGraph.Script.Token
import BundleGraph.Script.Tree
import BundleGraph.Settings.Basic
import BundleGraph.Settings.Layers
import BundleGraph.Settings.Loaders
import BundleGraph.Settings.Validation
import BundleGraph.Settings.Variable
import BundleGraph.Text.Ascii
import BundleGraph.Text.Blank
import BundleGraph.Text.CaseMap
import BundleGraph.Text.CharSet
import BundleGraph.Text.Lowercase
import BundleGraph.Toml.Number
import BundleGraph.Toml.Reader
import BundleGraph.Toml.Text
import BundleGraph.Toml.Tree
import BundleGraph.Unicode.Binary
import BundleGraph.Unicode.Category
import BundleGraph.Unicode.Fold
import BundleGraph.Unicode.Property
import BundleGraph.Unicode.Script
import BundleGraph.Proofs.Build.Accounting
import BundleGraph.Proofs.Run.Progress
import BundleGraph.Proofs.Build.Termination
import BundleGraph.Proofs.Build.Threshold
import BundleGraph.Proofs.Build.MemoTransparency
import BundleGraph.Proofs.Run.FirstRequest
import BundleGraph.Proofs.Run.EntriesFirst
import BundleGraph.Proofs.Build.SharedAnswers
import BundleGraph.Proofs.Plugin.Dispatch
import BundleGraph.Proofs.Plugin.Chain
import BundleGraph.Proofs.Plugin.Silence
import BundleGraph.Proofs.Run.Refusal
import BundleGraph.Proofs.Build.StoreSafety
import BundleGraph.Proofs.Run.Agenda
import BundleGraph.Proofs.Build.FirstFailure
import BundleGraph.Proofs.Build.Composition
import BundleGraph.Proofs.Build.Unseen
import BundleGraph.Proofs.Build.EntriesAlone
import BundleGraph.Proofs.Path
import BundleGraph.Proofs.Build.WithoutPlugins
import BundleGraph.Proofs.Build.EntryOrder
import BundleGraph.Proofs.Graph.History
import BundleGraph.Proofs.Graph.Marks
import BundleGraph.Proofs.Path.Clean
import BundleGraph.Proofs.Build.FileAnswers
import BundleGraph.Proofs.Build.FromFiles
import BundleGraph.Proofs.Graph.Queries
import BundleGraph.Proofs.Plugin.Draft
import BundleGraph.Proofs.Plugin.Registration
import BundleGraph.Proofs.FileSystem.Memory
import BundleGraph.Proofs.Build.FileProbes
import BundleGraph.Proofs.Build.DirectoryIndex
import BundleGraph.Proofs.Import.Stylesheet
import BundleGraph.Proofs.Import.Occurrence
import BundleGraph.Proofs.Import.Erasure
import BundleGraph.Proofs.Build.ListedNames
import BundleGraph.Proofs.Import.Comments
import BundleGraph.Proofs.Json.Entries
import BundleGraph.Proofs.Json.RoundTrip
import BundleGraph.Proofs.Settings.Loaders
import BundleGraph.Proofs.Path.Above
import BundleGraph.Proofs.FileSystem.PathMap
import BundleGraph.Proofs.Run.Telling
import BundleGraph.Proofs.Build.EventLog
import BundleGraph.Proofs.Json.Merge
import BundleGraph.Proofs.Settings.Sources
import BundleGraph.Proofs.Settings.Stacked
import BundleGraph.Proofs.Settings.Layers
