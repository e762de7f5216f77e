import ShapeKit.Text.Blank
import ShapeKit.Json.Value
import ShapeKit.Decimal.Shortest
import ShapeKit.Json.Reader
import ShapeKit.Json.Writer
import ShapeKit.ShapeId
import ShapeKit.Shape.Type
import ShapeKit.Shape.Basic
import ShapeKit.Shape.Builder
import ShapeKit.Model.Basic
import ShapeKit.Relationship
import ShapeKit.Trait.Uri
import ShapeKit.Selector.Syntax
import ShapeKit.Selector.Parser
import ShapeKit.Json.Decode
import ShapeKit.Validation.Event
import ShapeKit.Load.Error
import ShapeKit.Unicode.CodeSet
import ShapeKit.Unicode.Table.Category
import ShapeKit.Unicode.Table.Script
import ShapeKit.Unicode.Table.Binary
import ShapeKit.Unicode.Table.Age
import ShapeKit.Unicode.Table.Segment
import ShapeKit.Unicode.Table.CaseFold
import ShapeKit.Unicode.Table.Names
import ShapeKit.Unicode.Property
import ShapeKit.Unicode.Query
import ShapeKit.Regex.Error
import ShapeKit.Regex.Ast
import ShapeKit.Regex.Parse
import ShapeKit.Regex.Hir
import ShapeKit.Regex.Translate
import ShapeKit.Regex.Automaton
import ShapeKit.Regex.Match
import ShapeKit.Trait.Typed
import ShapeKit.Prelude
import ShapeKit.Graph.Neighbor
import ShapeKit.Graph.ShapeGraph
import ShapeKit.Decimal.Read
import ShapeKit.Selector.Eval
import ShapeKit.Validation.Suppression
import ShapeKit.Validation.NodeCheck
import ShapeKit.Validation.Builtin
import ShapeKit.Validation.Validator
import ShapeKit.Load.Loader
import ShapeKit.Load.Document
import ShapeKit.Load.Assembler
import ShapeKit.Load.Serialize
import ShapeKit.Report.Assembly
import ShapeKit.Report.Model
import ShapeKit.Diff
import ShapeKit.Cli.Output
import ShapeKit.Cli.Args
import ShapeKit.Storage.Path
import ShapeKit.Toml.Error
import ShapeKit.Toml.Reader
import ShapeKit.Toml.Value
import ShapeKit.Toml.Lexeme
import ShapeKit.Toml.Tables
import ShapeKit.Toml.Document
import ShapeKit.Storage.FileSystem
import ShapeKit.Storage.Memory
import ShapeKit.Storage.Config
import ShapeKit.Storage.Project
import ShapeKit.Cli.Run
import ShapeKit.Main
import ShapeKit.Proofs.ShapeBuild
import ShapeKit.Proofs.ModelMembers
import ShapeKit.Proofs.Keyed
import ShapeKit.Proofs.Finish
import ShapeKit.Proofs.References
import ShapeKit.Proofs.NodeWalk
import ShapeKit.Proofs.CompactText
import ShapeKit.Proofs.MergeRuns
import ShapeKit.Proofs.TraitApply
import ShapeKit.Proofs.Reload.ReadBack
import ShapeKit.Proofs.Reload.Rebuild
import ShapeKit.Proofs.IdText
import ShapeKit.Proofs.Reload.Steps
import ShapeKit.Proofs.Closure
import ShapeKit.Proofs.NeighborIndex
import ShapeKit.Proofs.SelectorLaws
import ShapeKit.Proofs.TopDown
import ShapeKit.Proofs.RepeatedValues
import ShapeKit.Proofs.DuplicateShapes
import ShapeKit.Proofs.Reassemble
import ShapeKit.Proofs.TraitDefinitions
import ShapeKit.Proofs.SetUniqueness
import ShapeKit.Proofs.Suppressions
import ShapeKit.Proofs.SelectorPositions
import ShapeKit.Proofs.RecursionCycles
import ShapeKit.Proofs.EventRoundTrip
import ShapeKit.Proofs.UriGrammar
import ShapeKit.Proofs.HttpLabels
import ShapeKit.Proofs.TraitConflicts
import ShapeKit.Proofs.IdOrder
import ShapeKit.Proofs.IntegerBounds
import ShapeKit.Proofs.ValueEquality
import ShapeKit.Proofs.ModelDiff
import ShapeKit.Proofs.Reload.RoundTrip
import ShapeKit.Proofs.Reload.LoadedIds
import ShapeKit.Proofs.Reload.LoadedShapes
import ShapeKit.Proofs.Reload.CleanLoads
import ShapeKit.Proofs.TraitDiscovery
import ShapeKit.Proofs.Reload.Traces
import ShapeKit.Proofs.Reload.Growth
import ShapeKit.Proofs.Reload.Repeated
