import TableShell.Calendar
import TableShell.Cell
import TableShell.Command.Basic
import TableShell.Command.Files
import TableShell.Command.Listing
import TableShell.Command.Naming
import TableShell.Command.Run
import TableShell.CommandLine
import TableShell.CommandLine.Arguments
import TableShell.CommandLine.LogFilter
import TableShell.CompareOp
import TableShell.Completion.Basic
import TableShell.Completion.Shell
import TableShell.Completion.Suggestion
import TableShell.Config
import TableShell.Editor.Basic
import TableShell.Editor.Event
import TableShell.Editor.LineBuffer
import TableShell.Failure
import TableShell.FileSystem.Basic
import TableShell.FileSystem.Change
import TableShell.FileSystem.Contents
import TableShell.FileSystem.Lookup
import TableShell.FileSystem.Path
import TableShell.Filter
import TableShell.Grammar
import TableShell.History
import TableShell.History.Store
import TableShell.Line.Context
import TableShell.Line.Words
import TableShell.Main
import TableShell.Number.Binary64
import TableShell.Number.FixedPlaces
import TableShell.Number.Integer
import TableShell.Number.Reading
import TableShell.Output
import TableShell.Pairs
import TableShell.Pipeline
import TableShell.Proofs.Cell.Order
import TableShell.Proofs.Command.Directories
import TableShell.Proofs.Command.Effects
import TableShell.Proofs.Command.Failures
import TableShell.Proofs.Command.ListingBySize
import TableShell.Proofs.Command.Stores
import TableShell.Proofs.Completion.Candidates
import TableShell.Proofs.Completion.CompletedNames
import TableShell.Proofs.Completion.Names
import TableShell.Proofs.Completion.Position
import TableShell.Proofs.Completion.Soundness
import TableShell.Proofs.Completion.Suggested
import TableShell.Proofs.Editor.Accepting
import TableShell.Proofs.Editor.Cancelling
import TableShell.Proofs.Editor.CompletedPath
import TableShell.Proofs.Editor.Consistency
import TableShell.Proofs.Editor.Cycling
import TableShell.Proofs.Editor.Ghost
import TableShell.Proofs.Editor.Reachability
import TableShell.Proofs.Editor.Refinement
import TableShell.Proofs.Editor.Ring
import TableShell.Proofs.Editor.Runs
import TableShell.Proofs.Editor.SubmittedLines
import TableShell.Proofs.Editor.Walking
import TableShell.Proofs.Editor.Zipper
import TableShell.Proofs.Fallible
import TableShell.Proofs.FileSystem.Growth
import TableShell.Proofs.FileSystem.Tree
import TableShell.Proofs.FileSystem.Writing
import TableShell.Proofs.Filter.Exchange
import TableShell.Proofs.Filter.Projection
import TableShell.Proofs.Filter.Provenance
import TableShell.Proofs.Filter.Results
import TableShell.Proofs.Filter.SortedBlocks
import TableShell.Proofs.Filter.StableSorting
import TableShell.Proofs.History.Bounds
import TableShell.Proofs.History.Counting
import TableShell.Proofs.History.Limits
import TableShell.Proofs.History.Lines
import TableShell.Proofs.History.Persistence
import TableShell.Proofs.History.Ranking
import TableShell.Proofs.History.Recording
import TableShell.Proofs.History.Saving
import TableShell.Proofs.Line.Agreement
import TableShell.Proofs.Line.Characters
import TableShell.Proofs.Line.Classification
import TableShell.Proofs.Line.Context
import TableShell.Proofs.Line.Cursor
import TableShell.Proofs.Line.LastWord
import TableShell.Proofs.Line.Quoting
import TableShell.Proofs.Line.Scanning
import TableShell.Proofs.Lookup
import TableShell.Proofs.Matching
import TableShell.Proofs.Number.Decimal
import TableShell.Proofs.Number.Rounding
import TableShell.Proofs.Number.Scaling
import TableShell.Proofs.Number.Tenths
import TableShell.Proofs.Number.Value
import TableShell.Proofs.Pairs.Changes
import TableShell.Proofs.Pairs.Lines
import TableShell.Proofs.Pairs.Saving
import TableShell.Proofs.Pipeline.Blame
import TableShell.Proofs.Pipeline.FailingLine
import TableShell.Proofs.Pipeline.Stores
import TableShell.Proofs.Screen.Composition
import TableShell.Proofs.Screen.Redrawing
import TableShell.Proofs.Size.Literal
import TableShell.Proofs.Size.Order
import TableShell.Proofs.Size.Shown
import TableShell.Proofs.StableSort.Mapping
import TableShell.Proofs.StableSort.Order
import TableShell.Proofs.Table.Alignment
import TableShell.Proofs.Table.Order
import TableShell.Proofs.Text.Boundary
import TableShell.Proofs.Text.LetterCase
import TableShell.Proofs.Text.Lines
import TableShell.Proofs.Text.Order
import TableShell.Proofs.Text.Trimming
import TableShell.Regex.Bracket
import TableShell.Regex.Checking
import TableShell.Regex.Escape
import TableShell.Regex.Fault
import TableShell.Regex.Group
import TableShell.Regex.Reader
import TableShell.Regex.Reading
import TableShell.Regex.Tree
import TableShell.Screen
import TableShell.Session
import TableShell.Size
import TableShell.StableSort
import TableShell.StableSort.Insertion
import TableShell.StableSort.Merging
import TableShell.StableSort.Quick
import TableShell.StableSort.Runs
import TableShell.StableSort.Short
import TableShell.Table
import TableShell.Table.Layout
import TableShell.Terminal
import TableShell.Text.Alphanumeric
import TableShell.Text.Ascii
import TableShell.Text.Blank
import TableShell.Text.CharWidth
import TableShell.Text.CodeRange
import TableShell.Text.LetterCaseTable
import TableShell.Text.Lowercase
import TableShell.Text.Offset
import TableShell.Text.Order
import TableShell.Text.Search
import TableShell.Text.Width
import TableShell.Text.WidthTable
import TableShell.Toml.Document
import TableShell.Toml.Item
import TableShell.Toml.Quoted
import TableShell.Toml.Scalar
import TableShell.Toml.Scanner
