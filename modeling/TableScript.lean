import TableScript.Arguments
import TableScript.Builtin.Basic
import TableScript.Capture.Path
import TableScript.Capture.Table
import TableScript.Capture.Trie
import TableScript.Config
import TableScript.ErrorCode
import TableScript.Eval.Block
import TableScript.Eval.Builtins
import TableScript.Eval.Call
import TableScript.Eval.Defer
import TableScript.Eval.Evaluator
import TableScript.Eval.Expression
import TableScript.Eval.Function
import TableScript.Eval.Machine
import TableScript.Eval.Outside
import TableScript.Eval.Script
import TableScript.Eval.Statement
import TableScript.Exit
import TableScript.Fault.Basic
import TableScript.Fault.Report
import TableScript.FileSystem
import TableScript.Json.Basic
import TableScript.Json.Draft
import TableScript.Json.Number
import TableScript.Json.Parser
import TableScript.Json.Printer
import TableScript.Log.Filter
import TableScript.Log.Level
import TableScript.Log.Note
import TableScript.Log.Source
import TableScript.Main
import TableScript.Number.Double
import TableScript.Number.Range
import TableScript.Number.Shortest
import TableScript.Number.Text
import TableScript.Pattern.Basic
import TableScript.Pattern.Meaning
import TableScript.Pattern.Parser
import TableScript.Pattern.Program
import TableScript.Pattern.Replace
import TableScript.Pattern.Search
import TableScript.Pattern.Syntax
import TableScript.Pattern.Weight
import TableScript.Program
import TableScript.Proofs.Capture.Columns
import TableScript.Proofs.Capture.Fields
import TableScript.Proofs.Capture.Merge
import TableScript.Proofs.Capture.Rows
import TableScript.Proofs.Capture.Shape
import TableScript.Proofs.Capture.Trace
import TableScript.Proofs.Eval.ExitCode
import TableScript.Proofs.Eval.Frames
import TableScript.Proofs.Eval.Guarantee
import TableScript.Proofs.Eval.Quiet
import TableScript.Proofs.Eval.Steps
import TableScript.Proofs.Value.Failures
import TableScript.Proofs.Value.Names
import TableScript.Proofs.Value.Order
import TableScript.Shell.Arithmetic
import TableScript.Shell.Basic
import TableScript.Shell.Builtin
import TableScript.Shell.Calculate
import TableScript.Shell.Edit
import TableScript.Shell.Expansion
import TableScript.Shell.FileUtility
import TableScript.Shell.Filter
import TableScript.Shell.Format
import TableScript.Shell.Glob
import TableScript.Shell.Option
import TableScript.Shell.Reader
import TableScript.Shell.Session
import TableScript.Shell.System
import TableScript.Shell.Test
import TableScript.Shell.Word
import TableScript.Text.Ansi
import TableScript.Text.Blank
import TableScript.Text.Case
import TableScript.Text.CaseTable
import TableScript.Text.CharSet
import TableScript.Text.Detail
import TableScript.Text.EditDistance
import TableScript.Text.EscapeSequence
import TableScript.Text.Highlight
import TableScript.Text.Lossy
import TableScript.Text.Quoted
import TableScript.Text.Rich
import TableScript.Text.Split
import TableScript.Text.Style
import TableScript.Text.Unprintable
import TableScript.Tree.Basic
import TableScript.Tree.Operator
import TableScript.Tree.Reader
import TableScript.Tree.Record
import TableScript.Tree.Writer
import TableScript.Unicode.Age
import TableScript.Unicode.Break
import TableScript.Unicode.Category
import TableScript.Unicode.Fold
import TableScript.Unicode.Name
import TableScript.Unicode.Property
import TableScript.Unicode.Script
import TableScript.Unicode.ScriptExtension
import TableScript.Value.Basic
import TableScript.Value.Detail
import TableScript.Value.Document
import TableScript.Value.Equality
import TableScript.Value.Index
import TableScript.Value.Kind
import TableScript.Value.Number
import TableScript.Value.Operator
import TableScript.Value.Order
import TableScript.Value.Rows
import TableScript.Value.Scope
import TableScript.Value.Show
import TableScript.Value.Table
import TableScript.Proofs.Value.Sorting
import TableScript.Proofs.Eval.Chronicle
import TableScript.Proofs.Eval.Deferral
import TableScript.Proofs.Eval.ResultCount
import TableScript.Proofs.Eval.Hygiene
import TableScript.Proofs.Eval.Bugs
import TableScript.Proofs.Tree.Survival
import TableScript.Proofs.Number.Comparison
import TableScript.Proofs.Value.Bisimilarity
import TableScript.Proofs.Value.Unfolding
import TableScript.Proofs.Eval.Isolation
import TableScript.Proofs.Text.Characters
import TableScript.Proofs.Number.Order
import TableScript.Proofs.Value.Agreement
import TableScript.Proofs.Eval.Looks
import TableScript.Proofs.Capture.Errors
import TableScript.Proofs.Json.Reordering
import TableScript.Proofs.Capture.OrderFree
import TableScript.Proofs.Value.Making
import TableScript.Proofs.Eval.Reading
import TableScript.Proofs.Value.Assignment
import TableScript.Proofs.Eval.Binding
import TableScript.Proofs.Eval.Blocks
import TableScript.Proofs.Number.Rank
import TableScript.Proofs.Number.Mixed
import TableScript.Proofs.Value.Reversal
import TableScript.Proofs.Value.Documents
import TableScript.Proofs.Value.Slots
import TableScript.Proofs.Eval.Updates
import TableScript.Proofs.Eval.ExitRequests
import TableScript.Proofs.Value.Resolution
import TableScript.Proofs.Value.Sequences
import TableScript.Proofs.Number.ReadBack
import TableScript.Proofs.Value.Members
import TableScript.Proofs.CommandLine
import TableScript.Proofs.Fault.Carets
import TableScript.Proofs.Text.Highlighting
import TableScript.Proofs.Value.Layout
import TableScript.Proofs.Number.Counting
import TableScript.Proofs.Configuration
import TableScript.Proofs.Text.Splitting
import TableScript.Proofs.TrailingSwitch
import TableScript.Proofs.Text.EditDistance
import TableScript.Proofs.Text.Recolouring
import TableScript.Proofs.Text.Layering
import TableScript.Proofs.Fault.Position
