import NumericLanguage.Text.Utf8
import NumericLanguage.Text.Newline
import NumericLanguage.Text.DecimalDigit
import NumericLanguage.Number.Notation
import NumericLanguage.Source.Position
import NumericLanguage.Diagnostic.Basic
import NumericLanguage.Diagnostic.Log
import NumericLanguage.Token.Basic
import NumericLanguage.Token.Element
import NumericLanguage.Token.Cursor
import NumericLanguage.Journal
import NumericLanguage.Scope.Declaration
import NumericLanguage.Scope.Display
import NumericLanguage.Scope.Inference
import NumericLanguage.Statement.Basic
import NumericLanguage.Statement.Fault
import NumericLanguage.Statement.Recovery
import NumericLanguage.Statement.Parse
import NumericLanguage.Statement.Rules
import NumericLanguage.Analysis.Basic
import NumericLanguage.Analysis.Strict
import NumericLanguage.File.Contents
import NumericLanguage.File.Tree
import NumericLanguage.Command.Arguments
import NumericLanguage.Command.Run
import NumericLanguage.Main
import NumericLanguage.Proofs.Checking.Refinement
import NumericLanguage.Proofs.Analysis.Options
import NumericLanguage.Proofs.Recovery.Containment
import NumericLanguage.Proofs.Scanning.Lexeme
import NumericLanguage.Proofs.Scanning.LongestMatch
import NumericLanguage.Proofs.Scanning.Partition
import NumericLanguage.Proofs.Scoping.Frame
import NumericLanguage.Proofs.Scoping.Balance
import NumericLanguage.Proofs.Scanning.Indexed
import NumericLanguage.Proofs.Analysis.Safety
import NumericLanguage.Proofs.Analysis.Anchors
import NumericLanguage.Proofs.Parsing.Course
import NumericLanguage.Proofs.Scanning.Lines
import NumericLanguage.Proofs.Analysis.Order
import NumericLanguage.Proofs.Reading.Independence
import NumericLanguage.Proofs.Analysis.Piecewise
import NumericLanguage.Proofs.Analysis.Trace
import NumericLanguage.Proofs.Analysis.Strictness
import NumericLanguage.Proofs.Grammar.Extent
import NumericLanguage.Proofs.Recovery.Brackets
import NumericLanguage.Proofs.Recovery.Blocks
import NumericLanguage.Proofs.Recovery.Semicolons
import NumericLanguage.Proofs.Checking.Narrowing
import NumericLanguage.Proofs.Scoping.Chronicle
import NumericLanguage.Proofs.Text.Encoding
import NumericLanguage.Proofs.Command.Status
import NumericLanguage.Proofs.Recovery.Progress
import NumericLanguage.Proofs.Layout.Pairing
import NumericLanguage.Proofs.Layout.Agreement
import NumericLanguage.Proofs.Layout.Insensitivity
import NumericLanguage.Proofs.Scanning.Separation
import NumericLanguage.Proofs.Analysis.Spelling
import NumericLanguage.Proofs.Recovery.Skipping
import NumericLanguage.Proofs.Parsing.Bounds
import NumericLanguage.Proofs.Recovery.NestedBlocks
import NumericLanguage.Proofs.Scoping.Keyed
import NumericLanguage.Proofs.Scanning.Integers
import NumericLanguage.Proofs.Analysis.Declarations
import NumericLanguage.Proofs.Scanning.Positions
import NumericLanguage.Proofs.Analysis.Locations
import NumericLanguage.Proofs.Parsing.Capture
