import Foldback.Categories
import Foldback.CommandLine.Options
import Foldback.CommandLine.Parse
import Foldback.CommandLine.Reads
import Foldback.CommandLine.Run
import Foldback.Console.Event
import Foldback.Console.Filter.Basic
import Foldback.Console.Filter.Reader
import Foldback.Console.Layout
import Foldback.Console.Paint
import Foldback.Diff.Chunk
import Foldback.Diff.Hunk
import Foldback.Diff.LineOp
import Foldback.Diff.Script
import Foldback.Diff.Unified
import Foldback.Disk.Basic
import Foldback.Disk.Error
import Foldback.Disk.Path
import Foldback.Fold.Merge
import Foldback.Main
import Foldback.Pattern.Basic
import Foldback.Pattern.Reader
import Foldback.Pattern.Support
import Foldback.Proofs.Workspace.Containment
import Foldback.Proofs.Workspace.Plans
import Foldback.Proofs.Workspace.Settling
import Foldback.Proofs.Workspace.Previews
import Foldback.Proofs.Disk.Rewriting
import Foldback.Proofs.Template.FilesRead
import Foldback.Proofs.Template.Mentions
import Foldback.Proofs.Fold.SingleLines
import Foldback.Proofs.Disk.Footprint
import Foldback.Proofs.Disk.Parent
import Foldback.Proofs.Disk.Walk
import Foldback.Proofs.Diff.Context
import Foldback.Proofs.Diff.Flattening
import Foldback.Proofs.Diff.Hunks
import Foldback.Proofs.Diff.Longest
import Foldback.Proofs.Diff.Patch
import Foldback.Proofs.Diff.PatchText
import Foldback.Proofs.Diff.Replay
import Foldback.Proofs.Diff.Tiling
import Foldback.Proofs.Diff.Trimming
import Foldback.Proofs.Text.Lines
import Foldback.Proofs.Template.Commands
import Foldback.Proofs.Template.Escape
import Foldback.Proofs.Template.Places
import Foldback.Report
import Foldback.Rule.Basic
import Foldback.Rule.Condition
import Foldback.Rule.Reader
import Foldback.Rule.Token
import Foldback.Settings.Basic
import Foldback.Settings.Toml
import Foldback.Template.Block
import Foldback.Template.Builtin
import Foldback.Template.Command
import Foldback.Template.Directive
import Foldback.Template.Error
import Foldback.Template.Pass
import Foldback.Template.Placeholder
import Foldback.Text.Blank
import Foldback.Text.CodePoint
import Foldback.Text.Cut
import Foldback.Text.Extender
import Foldback.Text.Letter
import Foldback.Text.Lines
import Foldback.Text.Names
import Foldback.Text.Printable
import Foldback.Text.Quoted
import Foldback.Text.Ranges
import Foldback.Text.Word
import Foldback.Traced
import Foldback.Workspace.Basic
import Foldback.Workspace.Batch
import Foldback.Workspace.Pool
import Foldback.Workspace.Steps
import Foldback.Proofs.Template.LineNumbers
import Foldback.Proofs.Fold.Weave
import Foldback.Proofs.Fold.Pieces
import Foldback.Proofs.Fold.RoundTrip
import Foldback.Proofs.Fold.OtherCategories
import Foldback.Proofs.Fold.Unchanged
import Foldback.Proofs.Fold.Locality
import Foldback.Proofs.Rule.NormalForm
import Foldback.Proofs.Rule.Grammar
import Foldback.Proofs.Rule.Reading
import Foldback.Proofs.Rule.Scanning
import Foldback.Proofs.Rule.Printing
import Foldback.Proofs.Template.Outline
import Foldback.Proofs.Template.Nesting
import Foldback.Proofs.Disk.Destination
import Foldback.Proofs.Fold.Shares
import Foldback.Proofs.Workspace.Quiescence
import Foldback.Proofs.Disk.Making
import Foldback.Proofs.Disk.Names
import Foldback.Proofs.Disk.Site
import Foldback.Proofs.Workspace.Interference
import Foldback.Proofs.Workspace.Alone
import Foldback.Proofs.Workspace.Laying
import Foldback.Proofs.Workspace.Beside
import Foldback.Proofs.Workspace.Independence
import Foldback.Proofs.Workspace.Batches
import Foldback.Proofs.Workspace.Reasons
import Foldback.Proofs.Template.Pieces
import Foldback.Proofs.Template.Occurrences
import Foldback.Proofs.Template.Balance
import Foldback.Proofs.Rule.Faults
import Foldback.Proofs.Rule.Leaves
import Foldback.Proofs.Rule.Cutting
import Foldback.Proofs.Rule.Slices
import Foldback.Proofs.Workspace.Rereading
import Foldback.Proofs.Template.Tables
import Foldback.Proofs.Template.Literals
import Foldback.Proofs.Settings.CategoryLists
