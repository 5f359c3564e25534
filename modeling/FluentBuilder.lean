import FluentBuilder.Blueprint
import FluentBuilder.BuilderImport
import FluentBuilder.BuilderText
import FluentBuilder.CommandLine.Execution
import FluentBuilder.CommandLine.Invocation
import FluentBuilder.CommandLine.Switch
import FluentBuilder.Config
import FluentBuilder.Decimal.Binary64
import FluentBuilder.Decimal.Shortest
import FluentBuilder.Document.Calendar
import FluentBuilder.Document.Cursor
import FluentBuilder.Document.Fault
import FluentBuilder.Document.Graph
import FluentBuilder.Document.Layout
import FluentBuilder.Document.Meaning
import FluentBuilder.Document.Number
import FluentBuilder.Document.Property
import FluentBuilder.Document.Scalar
import FluentBuilder.Document.Stamp
import FluentBuilder.Document.Tag
import FluentBuilder.Document.Token
import FluentBuilder.Document.Value
import FluentBuilder.Library
import FluentBuilder.Lineage
import FluentBuilder.Main
import FluentBuilder.Naming
import FluentBuilder.Path
import FluentBuilder.Processing.Diagnostic
import FluentBuilder.Processing.Emission
import FluentBuilder.Processing.Loading
import FluentBuilder.Processing.Rendering
import FluentBuilder.Processing.Round
import FluentBuilder.Processing.Run
import FluentBuilder.Processing.Setup
import FluentBuilder.Proofs.Blueprint
import FluentBuilder.Proofs.BuilderText
import FluentBuilder.Proofs.CommandLine.Configuration
import FluentBuilder.Proofs.CommandLine.Exit
import FluentBuilder.Proofs.CommandLine.Recheck
import FluentBuilder.Proofs.Config
import FluentBuilder.Proofs.Layout
import FluentBuilder.Proofs.Library
import FluentBuilder.Proofs.Lineage.Consistency
import FluentBuilder.Proofs.Lineage.Descent
import FluentBuilder.Proofs.Lineage.Line
import FluentBuilder.Proofs.Lineage.Merge
import FluentBuilder.Proofs.Lineage.Outside
import FluentBuilder.Proofs.Lineage.Restriction
import FluentBuilder.Proofs.Lineage.Special
import FluentBuilder.Proofs.Outcome
import FluentBuilder.Proofs.Path
import FluentBuilder.Proofs.Processing.Accounting
import FluentBuilder.Proofs.Processing.Arrangement
import FluentBuilder.Proofs.Processing.Atomicity
import FluentBuilder.Proofs.Processing.Delivery
import FluentBuilder.Proofs.Processing.Dependence
import FluentBuilder.Proofs.Processing.DryRun
import FluentBuilder.Proofs.Processing.Element
import FluentBuilder.Proofs.Processing.FixedPoint
import FluentBuilder.Proofs.Processing.Footprint
import FluentBuilder.Proofs.Processing.Generation
import FluentBuilder.Proofs.Processing.Halting
import FluentBuilder.Proofs.Processing.Hiding
import FluentBuilder.Proofs.Processing.Interference
import FluentBuilder.Proofs.Processing.Loading
import FluentBuilder.Proofs.Processing.Passes
import FluentBuilder.Proofs.Processing.Regeneration
import FluentBuilder.Proofs.Processing.Reloading
import FluentBuilder.Proofs.Processing.Repetition
import FluentBuilder.Proofs.Processing.Round
import FluentBuilder.Proofs.Processing.Running
import FluentBuilder.Proofs.Processing.Settled
import FluentBuilder.Proofs.Processing.Sharing
import FluentBuilder.Proofs.Processing.Spelling
import FluentBuilder.Proofs.Processing.Unreadable
import FluentBuilder.Proofs.Processing.Verdict
import FluentBuilder.Proofs.Resolving.Builder
import FluentBuilder.Proofs.Resolving.Canonical
import FluentBuilder.Proofs.Resolving.Faults
import FluentBuilder.Proofs.Resolving.Forward
import FluentBuilder.Proofs.Resolving.Fragments
import FluentBuilder.Proofs.Resolving.Frame
import FluentBuilder.Proofs.Resolving.Host
import FluentBuilder.Proofs.Resolving.Imports
import FluentBuilder.Proofs.Resolving.Meaning
import FluentBuilder.Proofs.Resolving.Memo
import FluentBuilder.Proofs.Resolving.NonNull
import FluentBuilder.Proofs.Resolving.Quoting
import FluentBuilder.Proofs.Resolving.ReadBack
import FluentBuilder.Proofs.Resolving.Reference
import FluentBuilder.Proofs.Resolving.Restated
import FluentBuilder.Proofs.Resolving.Serving
import FluentBuilder.Proofs.Resolving.Spelling
import FluentBuilder.Proofs.Resolving.Termination
import FluentBuilder.Proofs.Schema.Imported
import FluentBuilder.Proofs.Schema.Membership
import FluentBuilder.Proofs.Schema.Mirror
import FluentBuilder.Proofs.Schema.Unrelated
import FluentBuilder.Proofs.Schema.Walk
import FluentBuilder.Proofs.Session.Clash
import FluentBuilder.Proofs.Session.Fields
import FluentBuilder.Proofs.Session.History
import FluentBuilder.Proofs.Session.Slots
import FluentBuilder.Proofs.Source.Bindings
import FluentBuilder.Proofs.Source.Extending
import FluentBuilder.Proofs.Source.Kind
import FluentBuilder.Proofs.Source.Marked
import FluentBuilder.Proofs.Source.Reading
import FluentBuilder.Proofs.Source.Rehinted
import FluentBuilder.Proofs.Source.Relative
import FluentBuilder.Proofs.Source.Spelling
import FluentBuilder.Proofs.Source.Split
import FluentBuilder.Proofs.Source.Undecorated
import FluentBuilder.Proofs.Stateful
import FluentBuilder.Proofs.Store.Alike
import FluentBuilder.Proofs.Store.Extension
import FluentBuilder.Proofs.Store.Faults
import FluentBuilder.Proofs.Store.Nodes
import FluentBuilder.Proofs.Store.Obstacles
import FluentBuilder.Proofs.Store.Resolved
import FluentBuilder.Proofs.Store.Rooted
import FluentBuilder.Proofs.Store.Sound
import FluentBuilder.Proofs.Store.Writing
import FluentBuilder.Proofs.Syntax.Attempts
import FluentBuilder.Proofs.Syntax.Completeness
import FluentBuilder.Proofs.Syntax.Consumption
import FluentBuilder.Proofs.Syntax.Expressions
import FluentBuilder.Proofs.Syntax.Joined
import FluentBuilder.Proofs.Syntax.Keeping
import FluentBuilder.Proofs.Syntax.Levels
import FluentBuilder.Proofs.Syntax.Lexemes
import FluentBuilder.Proofs.Syntax.Loops
import FluentBuilder.Proofs.Syntax.Patterns
import FluentBuilder.Proofs.Syntax.Phrases
import FluentBuilder.Proofs.Syntax.Shortness
import FluentBuilder.Proofs.Syntax.Spelling
import FluentBuilder.Proofs.Syntax.Statements
import FluentBuilder.Proofs.Syntax.Unescape
import FluentBuilder.Proofs.Table
import FluentBuilder.Proofs.Text.Case
import FluentBuilder.Proofs.Text.CodePoints
import FluentBuilder.Proofs.Text.Dotted
import FluentBuilder.Proofs.Text.Identifier
import FluentBuilder.Proofs.Text.Normal
import FluentBuilder.Proofs.Text.Utf8
import FluentBuilder.Resolver
import FluentBuilder.Schema
import FluentBuilder.Session
import FluentBuilder.Source.Declaration
import FluentBuilder.Source.Kind
import FluentBuilder.Source.Module
import FluentBuilder.Source.Reading
import FluentBuilder.Source.Tree
import FluentBuilder.Store
import FluentBuilder.Syntax.Expr
import FluentBuilder.Syntax.Fault
import FluentBuilder.Syntax.Grammar
import FluentBuilder.Syntax.Grammar.Argument
import FluentBuilder.Syntax.Grammar.Atom
import FluentBuilder.Syntax.Grammar.Compound
import FluentBuilder.Syntax.Grammar.Comprehension
import FluentBuilder.Syntax.Grammar.Condition
import FluentBuilder.Syntax.Grammar.Operator
import FluentBuilder.Syntax.Grammar.Parameter
import FluentBuilder.Syntax.Grammar.Parser
import FluentBuilder.Syntax.Grammar.Pattern
import FluentBuilder.Syntax.Grammar.Rule
import FluentBuilder.Syntax.Grammar.Sequence
import FluentBuilder.Syntax.Grammar.Simple
import FluentBuilder.Syntax.Grammar.Target
import FluentBuilder.Syntax.Hint
import FluentBuilder.Syntax.Interpolation
import FluentBuilder.Syntax.Lexer
import FluentBuilder.Syntax.Literal
import FluentBuilder.Syntax.Printer
import FluentBuilder.Syntax.Reader
import FluentBuilder.Syntax.SourceText
import FluentBuilder.Syntax.Statement
import FluentBuilder.Syntax.Token
import FluentBuilder.Table
import FluentBuilder.Text.Blank
import FluentBuilder.Text.Case
import FluentBuilder.Text.CharTable
import FluentBuilder.Text.CharacterName
import FluentBuilder.Text.CharacterName.Letters
import FluentBuilder.Text.CharacterName.Notation
import FluentBuilder.Text.CharacterName.Scripts
import FluentBuilder.Text.CharacterName.Signs
import FluentBuilder.Text.CharacterName.Syllables
import FluentBuilder.Text.CodePoints
import FluentBuilder.Text.Composition
import FluentBuilder.Text.Digit
import FluentBuilder.Text.Dotted
import FluentBuilder.Text.Identifier
import FluentBuilder.Text.Printable
import FluentBuilder.Text.Quoted
import FluentBuilder.Text.Utf8
import FluentBuilder.TypeRef
