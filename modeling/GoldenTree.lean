import GoldenTree.Case.Files
import GoldenTree.Case.Load
import GoldenTree.Case.Outcome
import GoldenTree.Case.Run
import GoldenTree.Case.Verdict
import GoldenTree.ConcreteTree
import GoldenTree.Config
import GoldenTree.Decimal.Shortest
import GoldenTree.Diff.Compact
import GoldenTree.Diff.Edit
import GoldenTree.Diff.Script
import GoldenTree.Diff.Unified
import GoldenTree.Digest.Hex
import GoldenTree.Digest.Md5
import GoldenTree.Disk.FileSystem
import GoldenTree.Disk.Path
import GoldenTree.Disk.Walk
import GoldenTree.Golden.Compare
import GoldenTree.Golden.Header
import GoldenTree.Golden.Marker
import GoldenTree.Golden.Normal
import GoldenTree.Golden.Reconcile
import GoldenTree.Grammar.Derivation
import GoldenTree.Grammar.Lexer
import GoldenTree.Grammar.Parser
import GoldenTree.Grammar.Rule
import GoldenTree.Grammar.Symbol
import GoldenTree.Main
import GoldenTree.Migration.Audit
import GoldenTree.Migration.Rule
import GoldenTree.ParseTree.Basic
import GoldenTree.ParseTree.Build
import GoldenTree.ParseTree.Render
import GoldenTree.Pattern.Basic
import GoldenTree.Pattern.Bracket
import GoldenTree.Pattern.Build
import GoldenTree.Pattern.Escape
import GoldenTree.Pattern.Expr
import GoldenTree.Pattern.Flags
import GoldenTree.Pattern.Layout
import GoldenTree.Pattern.Look
import GoldenTree.Pattern.Reader
import GoldenTree.Recognition.Memo
import GoldenTree.Recognition.Recognizer
import GoldenTree.Recognition.Session
import GoldenTree.Recognition.Entering
import GoldenTree.Reference.Dump
import GoldenTree.Reference.Line
import GoldenTree.Reference.Render
import GoldenTree.Report.Case
import GoldenTree.Report.Duration
import GoldenTree.Report.Json
import GoldenTree.Report.Logger
import GoldenTree.Suite
import GoldenTree.Text.Affix
import GoldenTree.Text.Blank
import GoldenTree.Text.CharSet
import GoldenTree.Text.Letter
import GoldenTree.Text.LineBreak
import GoldenTree.Text.Lines
import GoldenTree.Text.Position
import GoldenTree.Text.Printable
import GoldenTree.Text.Quoted
import GoldenTree.Text.Ranges
import GoldenTree.Text.Replace
import GoldenTree.Text.Timestamp
import GoldenTree.Text.Utf8
import GoldenTree.Text.Utf8Range
import GoldenTree.Token
import GoldenTree.Tool.Arguments
import GoldenTree.Tool.Migrate
import GoldenTree.Tool.Result
import GoldenTree.Tool.Triage
import GoldenTree.Tree.Basic
import GoldenTree.Tree.Difference
import GoldenTree.Tree.Dump
import GoldenTree.Tree.Outline
import GoldenTree.Unicode.Age
import GoldenTree.Unicode.Break
import GoldenTree.Unicode.Category
import GoldenTree.Unicode.ClassName
import GoldenTree.Unicode.Folding
import GoldenTree.Unicode.Packed
import GoldenTree.Unicode.Property
import GoldenTree.Unicode.Script
import GoldenTree.Proofs.Grammar.Language
import GoldenTree.Proofs.Grammar.Reading
import GoldenTree.Proofs.Grammar.Trees
import GoldenTree.Proofs.Grammar.File
import GoldenTree.Proofs.Grammar.Acceptance
import GoldenTree.Proofs.Disk.Resolution
import GoldenTree.Proofs.Text.Pieces
import GoldenTree.Proofs.Text.Position
import GoldenTree.Proofs.Cut
import GoldenTree.Proofs.Grammar.Lexeme
import GoldenTree.Proofs.Grammar.Scan
import GoldenTree.Proofs.Grammar.Conservation
import GoldenTree.Proofs.ParseTree.Terminals
import GoldenTree.Proofs.Disk.Parent
import GoldenTree.Proofs.Disk.Directories
import GoldenTree.Proofs.Disk.Siblings
import GoldenTree.Proofs.Case.Loaded
import GoldenTree.Proofs.Text.Breaks
import GoldenTree.Proofs.Golden.Normal
import GoldenTree.Proofs.Golden.Fixpoint
import GoldenTree.Proofs.Golden.Header
import GoldenTree.Proofs.Tree.Outline
import GoldenTree.Proofs.Tree.Subtrees
import GoldenTree.Proofs.Tree.Pass
import GoldenTree.Proofs.Tree.Parents
import GoldenTree.Proofs.Tree.Differences
import GoldenTree.Proofs.Reference.Errors
import GoldenTree.Proofs.Reference.ReadBack
import GoldenTree.Proofs.Text.Trim
import GoldenTree.Proofs.Tree.ReadBack
import GoldenTree.Proofs.ParseTree.Lines
import GoldenTree.Proofs.ParseTree.ReadBack
import GoldenTree.Proofs.Case.Rendering
import GoldenTree.Proofs.Golden.Reconcile
import GoldenTree.Proofs.Golden.Comparison
import GoldenTree.Proofs.Golden.Written
import GoldenTree.Proofs.Golden.Again
import GoldenTree.Proofs.Golden.LineStyle
import GoldenTree.Proofs.Golden.Difference
import GoldenTree.Proofs.Golden.FirstLine
import GoldenTree.Proofs.Case.Exits
import GoldenTree.Proofs.Case.Authority
import GoldenTree.Proofs.Case.Effects
import GoldenTree.Proofs.Recognition.Contents
import GoldenTree.Proofs.Recognition.Simulation
import GoldenTree.Proofs.Recognition.History
import GoldenTree.Proofs.Recognition.Workers
import GoldenTree.Proofs.Disk.Frame
import GoldenTree.Proofs.Case.Frame
import GoldenTree.Proofs.Disk.Components
import GoldenTree.Proofs.Suite.Order
import GoldenTree.Proofs.Case.Listing
import GoldenTree.Proofs.Case.Identity
import GoldenTree.Proofs.Case.Sources
import GoldenTree.Proofs.Disk.Overwrite
import GoldenTree.Proofs.Migration.Audit
import GoldenTree.Proofs.Migration.Again
import GoldenTree.Proofs.Golden.Outline
import GoldenTree.Proofs.Migration.DryRun
import GoldenTree.Proofs.Migration.Renaming
import GoldenTree.Proofs.Migration.Header
import GoldenTree.Proofs.Case.Promotion
import GoldenTree.Proofs.Grammar.Agreement
import GoldenTree.Proofs.Grammar.Returns
import GoldenTree.Proofs.ParseTree.Returns
import GoldenTree.Grammar.Unguarded
import GoldenTree.Proofs.Grammar.Entries
import GoldenTree.Proofs.Grammar.Termination
import GoldenTree.Proofs.Grammar.Words
import GoldenTree.Proofs.Grammar.LoneReturns
import GoldenTree.Proofs.Grammar.Walk
import GoldenTree.Proofs.ParseTree.ErrorOrder
import GoldenTree.Proofs.ParseTree.Conversion
import GoldenTree.Proofs.Recognition.Interning
import GoldenTree.Proofs.Report.Threshold
import GoldenTree.Proofs.ParseTree.Iteration
import GoldenTree.Proofs.Text.Escape
