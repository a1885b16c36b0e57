import ContentGate.CommandLine
import ContentGate.Commerce.Catalog
import ContentGate.Commerce.Lookup
import ContentGate.Commerce.Memo
import ContentGate.Commerce.Transients
import ContentGate.Condition.Expression
import ContentGate.Condition.Operator
import ContentGate.Condition.Predicate
import ContentGate.Condition.Stored
import ContentGate.Condition.Value
import ContentGate.Decimal.Binary
import ContentGate.Decimal.Layout
import ContentGate.Decimal.Reading
import ContentGate.Decimal.Shortest
import ContentGate.Evaluation.Compare
import ContentGate.Evaluation.Context
import ContentGate.Evaluation.Error
import ContentGate.Evaluation.Evaluator
import ContentGate.Evaluation.Functions
import ContentGate.Fixture
import ContentGate.Invocation.Basic
import ContentGate.Invocation.Compile
import ContentGate.Invocation.Error
import ContentGate.Invocation.Kind
import ContentGate.Invocation.Options
import ContentGate.Invocation.Report
import ContentGate.Json.Basic
import ContentGate.Json.Reader
import ContentGate.Json.Record
import ContentGate.Json.Writer
import ContentGate.Main
import ContentGate.Markup.Entity
import ContentGate.Markup.EntityTable
import ContentGate.Markup.Noise
import ContentGate.Notation.Direct
import ContentGate.Notation.Formula
import ContentGate.Notation.ParseError
import ContentGate.Notation.Quoting
import ContentGate.Notation.Token
import ContentGate.Page
import ContentGate.Proofs.Condition.Nodes
import ContentGate.Proofs.Decimal.Digits
import ContentGate.Proofs.Evaluation.InTurn
import ContentGate.Proofs.Evaluation.Running
import ContentGate.Proofs.Evaluation.Effects
import ContentGate.Proofs.Invocation.Accounting
import ContentGate.Proofs.Invocation.Sandbox
import ContentGate.Proofs.Notation.DirectNodes
import ContentGate.Proofs.Notation.Grammar
import ContentGate.Proofs.Notation.Lexing
import ContentGate.Proofs.Notation.Reading
import ContentGate.Proofs.Page.FailClosed
import ContentGate.Proofs.Page.Meaning
import ContentGate.Proofs.Page.Template
import ContentGate.Proofs.Page.Verdict
import ContentGate.Proofs.Tag.Scanning
import ContentGate.Proofs.Text.Blank
import ContentGate.Proofs.Text.FirstWord
import ContentGate.Settings.Basic
import ContentGate.Settings.Path
import ContentGate.Settings.Rendering
import ContentGate.Settings.Setting
import ContentGate.Settings.VariableFile
import ContentGate.Settings.Variables
import ContentGate.Site
import ContentGate.Tag.AttributeText
import ContentGate.Tag.Attributes
import ContentGate.Tag.Branches
import ContentGate.Tag.Names
import ContentGate.Tag.Segment
import ContentGate.Text.Blank
import ContentGate.Text.Letters
import ContentGate.Text.Printable
import ContentGate.Text.Search
import ContentGate.Visitor
import ContentGate.Yaml.Basic
import ContentGate.Yaml.Reader
import ContentGate.Proofs.Json.RoundTrip
import ContentGate.Proofs.Commerce.SkuMaps
import ContentGate.Proofs.Commerce.Lookups
import ContentGate.Proofs.Commerce.Saving
import ContentGate.Proofs.Page.Caching
import ContentGate.Proofs.Notation.Marks
import ContentGate.Proofs.Notation.Splitting
import ContentGate.Proofs.Notation.DirectReading
import ContentGate.Proofs.Notation.DirectPhrases
import ContentGate.Proofs.Notation.DirectRoundTrip
import ContentGate.Proofs.Evaluation.Alike
import ContentGate.Proofs.Notation.Precedence
import ContentGate.Proofs.Notation.DirectLevels
import ContentGate.Proofs.Notation.Standing
import ContentGate.Proofs.Notation.Spellings
import ContentGate.Proofs.Notation.DirectRows
import ContentGate.Proofs.Notation.WrittenRows
import ContentGate.Proofs.Notation.ReadingLimits
import ContentGate.Proofs.Notation.FrontEnds
import ContentGate.Proofs.Notation.Cutting
import ContentGate.Proofs.Notation.DirectEnds
import ContentGate.Proofs.Notation.Gaps
import ContentGate.Proofs.Notation.TightGaps
import ContentGate.Proofs.Notation.OperandGaps
import ContentGate.Proofs.Notation.Spacing
import ContentGate.Proofs.Tag.Sources
import ContentGate.Proofs.Tag.Offsets
import ContentGate.Proofs.Page.Withheld
import ContentGate.Proofs.Page.Nesting
import ContentGate.Proofs.Markup.Signs
import ContentGate.Proofs.Invocation.Blocks
import ContentGate.Proofs.Tag.Assignments
import ContentGate.Proofs.Tag.Entries
import ContentGate.Proofs.Tag.ReadBack
import ContentGate.Proofs.Tag.Rewriting
import ContentGate.Proofs.Commerce.SkuLimit
import ContentGate.Proofs.Commerce.Failing
import ContentGate.Proofs.Invocation.Order
import ContentGate.Proofs.Notation.Counting
import ContentGate.Proofs.Invocation.Height
import ContentGate.Proofs.Condition.Logical
import ContentGate.Proofs.Evaluation.Logical
import ContentGate.Proofs.Invocation.BuiltIn
import ContentGate.Proofs.Commerce.Causes
import ContentGate.Proofs.Page.PurchaseFailures
import ContentGate.Proofs.Page.Granting
import ContentGate.Proofs.Tag.Representable
import ContentGate.Proofs.Tag.Forms
import ContentGate.Proofs.Tag.Coverage
import ContentGate.Proofs.Decimal.Order
import ContentGate.Proofs.Evaluation.Bracketing
import ContentGate.Proofs.Evaluation.Comparison
import ContentGate.Proofs.Notation.TokenPlaces
import ContentGate.Proofs.Notation.Refusals
import ContentGate.Proofs.Markup.Noise
import ContentGate.Proofs.Notation.Asking
import ContentGate.Proofs.Notation.DirectForms
import ContentGate.Proofs.Notation.DirectNesting
import ContentGate.Proofs.Notation.Strings
import ContentGate.Proofs.Notation.DirectSlices
import ContentGate.Proofs.Notation.UpFront
import ContentGate.Proofs.Tag.Escaping
import ContentGate.Proofs.Commerce.Ledger
import ContentGate.Proofs.Commerce.Queries
import ContentGate.Proofs.Decimal.Integers
import ContentGate.Proofs.Evaluation.SameQuestions
import ContentGate.Proofs.Json.Faithful
import ContentGate.Proofs.Condition.StoredForm
import ContentGate.Proofs.Invocation.LeadingInteger
import ContentGate.Proofs.Tag.Numbering
import ContentGate.Proofs.Tag.Depth
import ContentGate.Proofs.Json.Pretty
import ContentGate.Proofs.Invocation.Listing
