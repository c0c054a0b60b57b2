import Parley.Callable
import Parley.Command
import Parley.Command.Arguments
import Parley.Context
import Parley.Engine
import Parley.Eval
import Parley.EvalError
import Parley.Expr
import Parley.Expr.Parser
import Parley.Json
import Parley.Json.Printer
import Parley.Json.Quoted
import Parley.Json.Reader
import Parley.Main
import Parley.Number.Binary64
import Parley.Number.Decimal
import Parley.Number.Numeral
import Parley.Number.Shortest
import Parley.Number.Spelling
import Parley.Number.Whole
import Parley.Operator
import Parley.Page
import Parley.Pattern
import Parley.Pattern.CharClass
import Parley.Pattern.Program
import Parley.Pattern.Reader
import Parley.Pattern.Regex
import Parley.Pattern.Size
import Parley.Proofs.Grammar
import Parley.Proofs.Parser.Sound
import Parley.Settings
import Parley.SyntaxError
import Parley.Template
import Parley.Text.Blank
import Parley.Time.Duration
import Parley.Time.Moment
import Parley.Time.Notation
import Parley.Token
import Parley.Token.Lexer
import Parley.Unicode.Age
import Parley.Unicode.Category
import Parley.Unicode.Folding
import Parley.Unicode.Name
import Parley.Unicode.Property
import Parley.Unicode.PropertyList
import Parley.Unicode.Script
import Parley.Unicode.ScriptExtension
import Parley.Unicode.Segmentation
import Parley.Unicode.Table
import Parley.Url
import Parley.Value
import Parley.Value.Arithmetic
import Parley.Value.Json
import Parley.Value.Object
import Parley.Value.Search
import Parley.Vocabulary
import Parley.World
import Parley.Proofs.Parser.Complete
import Parley.Proofs.Parser.Accepts
import Parley.Proofs.Eval.Basic
import Parley.Proofs.Eval.Calls
import Parley.Proofs.Layers
import Parley.Proofs.Template
import Parley.Proofs.Token.Cut
import Parley.Proofs.Token.Tiling
import Parley.Proofs.Template.Quotes
import Parley.Proofs.Parser.Predictive
import Parley.Proofs.Expr.Bare
import Parley.Proofs.Eval.Bare
import Parley.Proofs.Expr.Leaves
import Parley.Proofs.Expr.Print
import Parley.Proofs.Expr.Grouped
import Parley.Proofs.Expr.Places
import Parley.Proofs.Eval.Names
import Parley.Proofs.Eval.Gap
import Parley.Proofs.Eval.Blame
import Parley.Proofs.Value.Functions
import Parley.Proofs.Value.Paired
import Parley.Proofs.Eval.InStep
import Parley.Proofs.Vocabulary
import Parley.Proofs.Engine
import Parley.Proofs.Eval.Checked
import Parley.Proofs.Eval.Literal
import Parley.Proofs.Eval.Formula
import Parley.Proofs.Template.Pieces
import Parley.Proofs.Json.Layout
import Parley.Proofs.Json.Reads
import Parley.Proofs.Json.Context
import Parley.Proofs.Parser.Holes
import Parley.Proofs.Parser.Walk
import Parley.Proofs.Parser.Cascade
import Parley.Proofs.Parser.Columns
import Parley.Proofs.Token.Joined
import Parley.Proofs.Token.QuotePairs
import Parley.Proofs.Number.Binary64
import Parley.Proofs.Number.Rounding
import Parley.Proofs.Number.FloatArithmetic
import Parley.Proofs.Number.FromFloat
import Parley.Proofs.Number.ToFloat
import Parley.Proofs.Value.Exact
import Parley.Proofs.Number.ShortDigits
import Parley.Proofs.Value.Mixed
import Parley.Proofs.Value.Neutral
import Parley.Proofs.Number.Equality
import Parley.Proofs.Number.Nearest
import Parley.Proofs.Value.Equality
import Parley.Proofs.Eval.Index
import Parley.Proofs.Eval.Navigation
import Parley.Proofs.Layers.Merge
import Parley.Proofs.Json.RoundTrip
import Parley.Proofs.Expr.Chain
import Parley.Proofs.Eval.Connectives
import Parley.Proofs.Eval.Concatenation
import Parley.Proofs.Text.Words
import Parley.Proofs.Time.Duration
import Parley.Proofs.Time.Notation
import Parley.Proofs.Url
import Parley.Proofs.Time.Relative
import Parley.Proofs.Page
import Parley.Proofs.Pattern
