import AppSpec.Application.Basic
import AppSpec.Application.Category
import AppSpec.Application.DefaultPage
import AppSpec.Application.Definition
import AppSpec.Application.Merge
import AppSpec.Build.Cycle
import AppSpec.Build.Generator
import AppSpec.Build.Inventories
import AppSpec.Build.Service
import AppSpec.CommandLine.Arguments
import AppSpec.CommandLine.Program
import AppSpec.Compilation.Basic
import AppSpec.Compilation.Discovery
import AppSpec.Compilation.Pipeline
import AppSpec.Compilation.Stages
import AppSpec.Component
import AppSpec.Dialect
import AppSpec.Disk.Basic
import AppSpec.Disk.Fault
import AppSpec.Disk.Standard
import AppSpec.Disk.Writing
import AppSpec.Document.Basic
import AppSpec.Document.Comments
import AppSpec.Double.Basic
import AppSpec.Double.Layout
import AppSpec.Double.Rounding
import AppSpec.Double.Shortest
import AppSpec.FilePath
import AppSpec.Inventory.Basic
import AppSpec.Inventory.Json
import AppSpec.Main
import AppSpec.Project.Basic
import AppSpec.Project.Config
import AppSpec.Proofs.BadFiles
import AppSpec.Proofs.Declared
import AppSpec.Proofs.Entries
import AppSpec.Proofs.FlowEntry
import AppSpec.Proofs.GenerationGate
import AppSpec.Proofs.GeneratorCalls
import AppSpec.Proofs.LastDefinition
import AppSpec.Proofs.MergeStep
import AppSpec.Proofs.ModelPlacement
import AppSpec.Proofs.PipelineRun
import AppSpec.Report.Build
import AppSpec.Report.Diagnostic
import AppSpec.Report.ErrorBlock
import AppSpec.Report.Output
import AppSpec.Report.Status
import AppSpec.Section
import AppSpec.Setting
import AppSpec.Shell.Command
import AppSpec.Shell.Run
import AppSpec.Shell.Token
import AppSpec.Shell.Utility
import AppSpec.SmartForm.Basic
import AppSpec.SmartForm.Profile
import AppSpec.SmartForm.Rule
import AppSpec.SpecError
import AppSpec.Target
import AppSpec.Text.Blank
import AppSpec.Text.CharacterTable
import AppSpec.Text.LetterCase
import AppSpec.Text.Lossy
import AppSpec.Text.Quoted
import AppSpec.Text.Span
import AppSpec.Toml.Datetime
import AppSpec.Toml.Fault
import AppSpec.Toml.Scalar
import AppSpec.Toml.Statement
import AppSpec.Toml.Table
import AppSpec.Toml.Token
import AppSpec.Value.Basic
import AppSpec.Value.Decidable
import AppSpec.Value.Entries
import AppSpec.Value.Mapping
import AppSpec.Version
import AppSpec.Watch.Event
import AppSpec.Watch.Scheduler
import AppSpec.Watch.Session
import AppSpec.Yaml.Cursor
import AppSpec.Yaml.Error
import AppSpec.Yaml.Event
import AppSpec.Yaml.Implicit
import AppSpec.Yaml.Node
import AppSpec.Yaml.ScalarText
import AppSpec.Yaml.Token
import AppSpec.Yaml.TokenStream
import AppSpec.Proofs.Debounce
import AppSpec.Proofs.Dispatch
import AppSpec.Proofs.ModelConflicts
import AppSpec.Proofs.WholeSections
import AppSpec.Proofs.ComponentTree
import AppSpec.Proofs.DefaultPages
import AppSpec.Proofs.DialectParts
import AppSpec.Proofs.PathParts
import AppSpec.Proofs.DiskGrowth
import AppSpec.Proofs.DiskWriting
import AppSpec.Proofs.Neighbours
import AppSpec.Proofs.OutputUnseen
import AppSpec.Proofs.Rebuild
import AppSpec.Proofs.SchedulerUse
import AppSpec.Proofs.ComponentOrder
import AppSpec.Proofs.FormOrder
import AppSpec.Proofs.WatchedFiles
import AppSpec.Proofs.StatusLedger
import AppSpec.Proofs.HeldBackPages
import AppSpec.Proofs.StreamKeys
import AppSpec.Proofs.CheckedBuild
import AppSpec.Proofs.CommentLines
import AppSpec.Proofs.ModelSpellings
import AppSpec.Proofs.FeatureSpellings
import AppSpec.Proofs.TakenSteps
import AppSpec.Proofs.DirectoryScans
import AppSpec.Proofs.InventoryText
import AppSpec.Proofs.VersionText
import AppSpec.Proofs.DiscoveredFiles
import AppSpec.Proofs.RefusedConfig
