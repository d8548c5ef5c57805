import Treebank.CommandLine.Arguments
import Treebank.CommandLine.Run
import Treebank.Description
import Treebank.Diagnostic
import Treebank.Event
import Treebank.File
import Treebank.File.Folder
import Treebank.Forest
import Treebank.Forest.Edit
import Treebank.Head.Category
import Treebank.Head.Collins
import Treebank.Head.Finder
import Treebank.Json
import Treebank.Main
import Treebank.Notice
import Treebank.Pattern
import Treebank.Pattern.Reader
import Treebank.Pattern.Token
import Treebank.Proofs.Candidates
import Treebank.Proofs.CommandLine.Arguments
import Treebank.Proofs.CommandLine.Run
import Treebank.Proofs.CommandLine.Work
import Treebank.Proofs.Forest.Ancestors
import Treebank.Proofs.Forest.Calls
import Treebank.Proofs.Forest.Descent
import Treebank.Proofs.Forest.Edit
import Treebank.Proofs.Forest.Grafting
import Treebank.Proofs.Forest.Linked
import Treebank.Proofs.Forest.PairedEdit
import Treebank.Proofs.Forest.Pairing
import Treebank.Proofs.Forest.Planting
import Treebank.Proofs.Forest.Plugging
import Treebank.Proofs.Forest.Position
import Treebank.Proofs.Forest.Preorder
import Treebank.Proofs.Forest.Removal
import Treebank.Proofs.Forest.Shape
import Treebank.Proofs.Forest.Splice
import Treebank.Proofs.Forest.Standing
import Treebank.Proofs.Forest.Ways
import Treebank.Proofs.Head.Chain
import Treebank.Proofs.Head.Choice
import Treebank.Proofs.Pattern.Delimited
import Treebank.Proofs.Pattern.Derived
import Treebank.Proofs.Pattern.Faults
import Treebank.Proofs.Pattern.Grammar
import Treebank.Proofs.Pattern.Proper
import Treebank.Proofs.Pattern.Reading
import Treebank.Proofs.Pattern.RoundTrip
import Treebank.Proofs.Pattern.Scanning
import Treebank.Proofs.Pattern.Unambiguous
import Treebank.Proofs.Pattern.Written
import Treebank.Proofs.Reduction.Agreement
import Treebank.Proofs.Reduction.Budget
import Treebank.Proofs.Reduction.Course
import Treebank.Proofs.Reduction.Cutting
import Treebank.Proofs.Reduction.Echo
import Treebank.Proofs.Reduction.Fixpoint
import Treebank.Proofs.Reduction.Snapshot
import Treebank.Proofs.Reduction.Structure
import Treebank.Proofs.Reduction.Trace
import Treebank.Proofs.Regex.Groups
import Treebank.Proofs.Regex.Replacement
import Treebank.Proofs.Relation.Closure
import Treebank.Proofs.Relation.Converse
import Treebank.Proofs.Relation.Order
import Treebank.Proofs.Relation.Partition
import Treebank.Proofs.Relation.Span
import Treebank.Proofs.Relation.Walk
import Treebank.Proofs.Rule.Comment
import Treebank.Proofs.Rule.Format
import Treebank.Proofs.Rule.Loading
import Treebank.Proofs.Rule.Naming
import Treebank.Proofs.Rule.Reading
import Treebank.Proofs.Search.Answers
import Treebank.Proofs.Search.Assignment
import Treebank.Proofs.Search.Bindings
import Treebank.Proofs.Search.BoundNames
import Treebank.Proofs.Search.History
import Treebank.Proofs.Search.Matches
import Treebank.Proofs.Search.Meaning
import Treebank.Proofs.Search.Notes
import Treebank.Proofs.Search.Rearrangement
import Treebank.Proofs.Search.Reports
import Treebank.Proofs.Search.SurelyBound
import Treebank.Proofs.Search.Tour
import Treebank.Proofs.Session.Corpus
import Treebank.Proofs.Session.Ending
import Treebank.Proofs.Session.Isolation
import Treebank.Proofs.Session.Job
import Treebank.Proofs.Session.Pool
import Treebank.Proofs.Session.Stages
import Treebank.Proofs.Session.Totals
import Treebank.Proofs.Site
import Treebank.Proofs.Statement.Captures
import Treebank.Proofs.Statement.Decoration
import Treebank.Proofs.Statement.Faults
import Treebank.Proofs.Statement.Quoted
import Treebank.Proofs.Statement.Reading
import Treebank.Proofs.Statement.Replacement
import Treebank.Proofs.Statement.RoundTrip
import Treebank.Proofs.Statement.Slashes
import Treebank.Proofs.Statement.Splitting
import Treebank.Proofs.Statement.Words
import Treebank.Proofs.Surgery.Accepted
import Treebank.Proofs.Surgery.Adjunction
import Treebank.Proofs.Surgery.Agreement
import Treebank.Proofs.Surgery.Coindexing
import Treebank.Proofs.Surgery.Copies
import Treebank.Proofs.Surgery.Cutting
import Treebank.Proofs.Surgery.Deletion
import Treebank.Proofs.Surgery.Detached
import Treebank.Proofs.Surgery.Excision
import Treebank.Proofs.Surgery.Failures
import Treebank.Proofs.Surgery.Index
import Treebank.Proofs.Surgery.Linked
import Treebank.Proofs.Surgery.Naming
import Treebank.Proofs.Surgery.Placement
import Treebank.Proofs.Surgery.Run
import Treebank.Proofs.Surgery.Soundness
import Treebank.Proofs.Surgery.State
import Treebank.Proofs.Surgery.Untouched
import Treebank.Proofs.Text.Blank
import Treebank.Proofs.Tree.Bracketed
import Treebank.Proofs.Tree.Legible
import Treebank.Proofs.Tree.Reader
import Treebank.Proofs.Tree.Substitution
import Treebank.Proofs.Tree.Token
import Treebank.Reduction
import Treebank.Reduction.Result
import Treebank.Reduction.Snapshot
import Treebank.Regex.CharSet
import Treebank.Regex.CharTest
import Treebank.Regex.Choice
import Treebank.Regex.Error
import Treebank.Regex.Escape
import Treebank.Regex.Expr
import Treebank.Regex.Group
import Treebank.Regex.Matching
import Treebank.Regex.Reader
import Treebank.Regex.Reading
import Treebank.Regex.Repetition
import Treebank.Regex.Replacement
import Treebank.Regex.Scanner
import Treebank.Relation
import Treebank.Relation.Candidates
import Treebank.Rule
import Treebank.Rule.Loading
import Treebank.Rule.Reader
import Treebank.Search.Answers
import Treebank.Search.Bindings
import Treebank.Search.Cursor
import Treebank.Search.Matching
import Treebank.Session
import Treebank.Session.Pool
import Treebank.Site
import Treebank.Statement
import Treebank.Statement.Captures
import Treebank.Statement.Reader
import Treebank.Statement.Replacement
import Treebank.Statement.Template
import Treebank.Statement.Token
import Treebank.Surgery
import Treebank.Surgery.Effect
import Treebank.Surgery.Index
import Treebank.Text.Blank
import Treebank.Text.Case
import Treebank.Text.CutSet
import Treebank.Text.Digit
import Treebank.Text.Hex
import Treebank.Text.Identifier
import Treebank.Text.Letter
import Treebank.Text.Lines
import Treebank.Text.Lowercase
import Treebank.Text.Name
import Treebank.Text.Name.Alias
import Treebank.Text.Name.Alphabet
import Treebank.Text.Name.EastAsian
import Treebank.Text.Name.Historic
import Treebank.Text.Name.Pictograph
import Treebank.Text.Name.Symbol
import Treebank.Text.Name.Table
import Treebank.Text.Number
import Treebank.Text.Printable
import Treebank.Text.Quoted
import Treebank.Text.Utf8
import Treebank.Tree
import Treebank.Tree.Bracketed
import Treebank.Tree.Reader
