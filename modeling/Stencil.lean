import Stencil.Text.Blank
import Stencil.Text.Lines
import Stencil.Text.Find
import Stencil.Failure
import Stencil.Number.Binary64
import Stencil.Number.Shortest
import Stencil.Text.Property
import Stencil.Text.Letter
import Stencil.Text.Case
import Stencil.Text.Identifier
import Stencil.Expr.Value
import Stencil.Expr.Hash
import Stencil.Expr.SetTable
import Stencil.Expr.DictTable
import Stencil.Text.Quoted
import Stencil.Expr.Same
import Stencil.Expr.Order
import Stencil.Number.Integer
import Stencil.Expr.Show
import Stencil.Expr.Iterate
import Stencil.Number.Fixed
import Stencil.Expr.Format
import Stencil.Expr.Collection
import Stencil.Expr.Percent
import Stencil.Expr.Arith
import Stencil.Expr.Index
import Stencil.Text.Encoding
import Stencil.Text.Punycode
import Stencil.Text.Codec
import Stencil.Expr.Machine
import Stencil.Expr.Argument
import Stencil.Expr.Method.Text
import Stencil.Expr.Sort
import Stencil.Expr.Method.Number
import Stencil.Expr.Method.Collection
import Stencil.Expr.Method.Bytes
import Stencil.Number.Reading
import Stencil.Expr.Call
import Stencil.Expr.GrammarFault
import Stencil.Expr.Term
import Stencil.Expr.Token
import Stencil.Text.CharName
import Stencil.Expr.Literal
import Stencil.Expr.Grammar.Basic
import Stencil.Expr.Grammar.Expression
import Stencil.Expr.Grammar.Parameter
import Stencil.Expr.Grammar.Pattern
import Stencil.Expr.Grammar.Statement
import Stencil.Expr.Program
import Stencil.Expr.Bindings
import Stencil.Expr.Eval
import Stencil.Expr.Evaluator
import Stencil.Text.SameLetter
import Stencil.Pattern.Syntax
import Stencil.Pattern.Fault
import Stencil.Pattern.Reader
import Stencil.Pattern.Match
import Stencil.Substitution
import Stencil.Scope
import Stencil.Command
import Stencil.Path
import Stencil.Log
import Stencil.Tree
import Stencil.Template
import Stencil.Render
import Stencil.FileTree
import Stencil.Parameter
import Stencil.Settings
import Stencil.Generator
import Stencil.Arguments
import Stencil.CommandLine
import Stencil.Main
import Stencil.Proofs.Effects
import Stencil.Proofs.Replacing
import Stencil.Proofs.Filtering
import Stencil.Proofs.Commands
import Stencil.Proofs.Rendering
import Stencil.Proofs.Literal
import Stencil.Proofs.Composition
import Stencil.Proofs.Errors
import Stencil.Proofs.Containment
import Stencil.Proofs.Pulling
import Stencil.Proofs.Balance
import Stencil.Proofs.Paths
import Stencil.Proofs.Files
import Stencil.Proofs.Units
import Stencil.Proofs.Cells
import Stencil.Proofs.Independence
import Stencil.Proofs.Outline
import Stencil.Proofs.Pairing
import Stencil.Proofs.Stops
import Stencil.Proofs.Groups
import Stencil.Proofs.Sharing
import Stencil.Proofs.Diagnostics
import Stencil.Proofs.Blanks
import Stencil.Proofs.Matching
import Stencil.Proofs.Grammar
import Stencil.Proofs.Readings
import Stencil.Proofs.Classification
import Stencil.Proofs.Reprinting
import Stencil.Proofs.Sequence
import Stencil.Proofs.Alone
import Stencil.Proofs.Moments
import Stencil.Proofs.Showing
import Stencil.Proofs.Reasons
import Stencil.Proofs.Alike
import Stencil.Proofs.Erasure
import Stencil.Proofs.Utf8
import Stencil.Proofs.LineEnds
import Stencil.Proofs.Piecewise
import Stencil.Proofs.Verbatim
import Stencil.Proofs.Names
import Stencil.Proofs.Padding
import Stencil.Proofs.Brackets
import Stencil.Proofs.Mirror
import Stencil.Proofs.Protocol
import Stencil.Proofs.Status
import Stencil.Proofs.Drawing
import Stencil.Proofs.Limits
import Stencil.Proofs.Endless
import Stencil.Proofs.Steady
import Stencil.Proofs.Operators
import Stencil.Proofs.Calls
import Stencil.Proofs.Evaluation
import Stencil.Proofs.Lengthening
import Stencil.Proofs.Advancing
import Stencil.Proofs.Gaps
import Stencil.Proofs.Attempts
import Stencil.Proofs.Unwinding
import Stencil.Proofs.Simplifying
import Stencil.Proofs.Collapsing
import Stencil.Proofs.Runs
import Stencil.Proofs.Edges
import Stencil.Proofs.Spacing
import Stencil.Proofs.Lettering
import Stencil.Proofs.Placeholders
import Stencil.Proofs.Recording
import Stencil.Proofs.Storing
import Stencil.Proofs.Telling
import Stencil.Proofs.Augmented
import Stencil.Proofs.Definitions
import Stencil.Proofs.Inserting
import Stencil.Proofs.Commenting
import Stencil.Proofs.Handling
import Stencil.Proofs.Charting
import Stencil.Proofs.NameTokens
import Stencil.Proofs.SoleNames
import Stencil.Proofs.Recalling
