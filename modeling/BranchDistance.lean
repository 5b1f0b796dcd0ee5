import BranchDistance.Binary64
import BranchDistance.Cache
import BranchDistance.Calendar.Date
import BranchDistance.Calendar.Temporal
import BranchDistance.Column
import BranchDistance.Condition
import BranchDistance.Config
import BranchDistance.Config.Toml
import BranchDistance.Count
import BranchDistance.Deadline
import BranchDistance.Decimal.Basic
import BranchDistance.Decimal.Layout
import BranchDistance.Decimal.Reading
import BranchDistance.Decimal.Shortest
import BranchDistance.Digest.Sha256
import BranchDistance.Distance
import BranchDistance.Driver
import BranchDistance.Engine
import BranchDistance.Error
import BranchDistance.Evaluate.Arithmetic
import BranchDistance.Evaluate.Condition
import BranchDistance.Evaluate.Leaf
import BranchDistance.Evaluate.Relation
import BranchDistance.Evaluate.Run
import BranchDistance.Failure
import BranchDistance.Fingerprint
import BranchDistance.Json
import BranchDistance.Log
import BranchDistance.Metrics
import BranchDistance.Outcome
import BranchDistance.Row
import BranchDistance.Row.Reading
import BranchDistance.Row.Scope
import BranchDistance.Sql.Atom
import BranchDistance.Sql.Call
import BranchDistance.Sql.Change
import BranchDistance.Sql.ColumnDefinition
import BranchDistance.Sql.Expr
import BranchDistance.Sql.Factor
import BranchDistance.Sql.Grammar
import BranchDistance.Sql.Interval
import BranchDistance.Sql.JsonTable
import BranchDistance.Sql.Keyword
import BranchDistance.Sql.Operand
import BranchDistance.Sql.Operator
import BranchDistance.Sql.Pivot
import BranchDistance.Sql.Query
import BranchDistance.Sql.RowPattern
import BranchDistance.Sql.Rule
import BranchDistance.Sql.Scan
import BranchDistance.Sql.Select
import BranchDistance.Sql.Sources
import BranchDistance.Sql.Statement
import BranchDistance.Sql.Statement.Alteration
import BranchDistance.Sql.Statement.Basic
import BranchDistance.Sql.Statement.Creation
import BranchDistance.Sql.Statement.Merge
import BranchDistance.Sql.Statement.Prepared
import BranchDistance.Sql.Statement.Privilege
import BranchDistance.Sql.Statement.Removal
import BranchDistance.Sql.Statement.Session
import BranchDistance.Sql.Statement.Table
import BranchDistance.Sql.Statement.Transfer
import BranchDistance.Sql.Statement.Upkeep
import BranchDistance.Sql.Token
import BranchDistance.Sql.TypeName
import BranchDistance.Target
import BranchDistance.Target.Error
import BranchDistance.Target.OfExpr
import BranchDistance.Target.OfText
import BranchDistance.Text.Alignment
import BranchDistance.Text.Alphabetic
import BranchDistance.Text.Blank
import BranchDistance.Text.Cased
import BranchDistance.Text.Digits
import BranchDistance.Text.Fold
import BranchDistance.Text.Hidden
import BranchDistance.Text.LowerCase
import BranchDistance.Text.Pattern
import BranchDistance.Text.Quoted
import BranchDistance.Text.Ranges
import BranchDistance.Toml.Document
import BranchDistance.Toml.Literal
import BranchDistance.Toml.Table
import BranchDistance.Value
import BranchDistance.Value.Coercion
import BranchDistance.Proofs.Binary64.Rounding
import BranchDistance.Proofs.Binary64.Sign
import BranchDistance.Proofs.Binary64.Order
import BranchDistance.Proofs.Binary64.Symmetry
import BranchDistance.Proofs.Binary64.Magnitude
import BranchDistance.Proofs.Binary64.Comparison
import BranchDistance.Proofs.Binary64.Quotient
import BranchDistance.Proofs.Binary64.Integer
import BranchDistance.Proofs.Text.Blank
import BranchDistance.Proofs.Decimal.Integer
import BranchDistance.Proofs.Text.Edit
import BranchDistance.Proofs.Text.Pattern
import BranchDistance.Proofs.Text.CaseFold
import BranchDistance.Proofs.Text.LowerCase
import BranchDistance.Proofs.Text.ByteOrder
import BranchDistance.Proofs.Text.Alignment
import BranchDistance.Proofs.Text.Order
import BranchDistance.Proofs.Row
import BranchDistance.Proofs.Distance
import BranchDistance.Proofs.Distance.Sum
import BranchDistance.Proofs.Distance.Formula
import BranchDistance.Proofs.Outcome
import BranchDistance.Proofs.Result
import BranchDistance.Proofs.Evaluate.Run
import BranchDistance.Proofs.Evaluate.Meaning
import BranchDistance.Proofs.Evaluate.Leaf
import BranchDistance.Proofs.Evaluate.Calculus
import BranchDistance.Proofs.Evaluate.Integral
import BranchDistance.Proofs.Evaluate.Coherence
import BranchDistance.Proofs.Calendar.Date
import BranchDistance.Proofs.Calendar.Reading
import BranchDistance.Proofs.Calendar.Spelling
import BranchDistance.Proofs.Calendar.Chronology
import BranchDistance.Proofs.Evaluate.Gradient
import BranchDistance.Proofs.Evaluate.Quotation
import BranchDistance.Proofs.Evaluate.Connective
import BranchDistance.Proofs.Evaluate.Negation
import BranchDistance.Proofs.Evaluate.Panic
import BranchDistance.Proofs.Evaluate.Mirror
import BranchDistance.Proofs.Evaluate.Replacement
import BranchDistance.Proofs.Evaluate.Expansion
import BranchDistance.Proofs.Evaluate.Operand
import BranchDistance.Proofs.Evaluate.Arithmetic
import BranchDistance.Proofs.Evaluate.Alias
import BranchDistance.Proofs.Evaluate.Fault
import BranchDistance.Proofs.Engine.Events
import BranchDistance.Proofs.Engine.Panic
import BranchDistance.Proofs.Engine.Timeout
import BranchDistance.Proofs.Engine.Accounting
import BranchDistance.Proofs.Metrics.Saturation
import BranchDistance.Proofs.Engine.History
import BranchDistance.Proofs.Engine.Warning
import BranchDistance.Proofs.Cache.Identity
import BranchDistance.Proofs.Engine.Rows
import BranchDistance.Proofs.Target.Chain
import BranchDistance.Proofs.Target.Reference
import BranchDistance.Proofs.Target.Probe
import BranchDistance.Proofs.Sql.Scan
import BranchDistance.Proofs.Sql.Rule
import BranchDistance.Proofs.Sql.Statement
import BranchDistance.Proofs.Sql.Precedence
import BranchDistance.Proofs.Sql.Integer
import BranchDistance.Proofs.Target.Statement
import BranchDistance.Proofs.Target.Integer
import BranchDistance.Proofs.Target.Precedence
