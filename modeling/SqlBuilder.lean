import SqlBuilder.Condition.Guard
import SqlBuilder.Expr.Arithmetic
import SqlBuilder.Expr.Column
import SqlBuilder.Progression.Membership
import SqlBuilder.RecordSet
import SqlBuilder.Select
import SqlBuilder.Statement.SetBlock
import SqlBuilder.Writer
import SqlBuilder.Term.Write
import SqlBuilder.Proofs.Rendering.Defects
import SqlBuilder.Proofs.Rendering.Dollars
import SqlBuilder.Proofs.Rendering.Placeholders
import SqlBuilder.Proofs.Identifiers.Spelling
import SqlBuilder.Proofs.Statements.Columns
import SqlBuilder.Proofs.Conditions.Recipe
import SqlBuilder.Proofs.Conditions.WhereClause
import SqlBuilder.Proofs.Conditions.Grammar
import SqlBuilder.Proofs.Conditions.Layout
import SqlBuilder.Proofs.Conditions.Value
import SqlBuilder.Proofs.Conditions.Meaning
import SqlBuilder.Proofs.Rendering.Independence
import SqlBuilder.Proofs.Identifiers.Reading
import SqlBuilder.Proofs.Statements.Draft
import SqlBuilder.Proofs.Statements.History
import SqlBuilder.Proofs.Statements.Validation
import SqlBuilder.Proofs.Rendering.FirstDefect
import SqlBuilder.Proofs.Progressions.Enumeration
import SqlBuilder.Proofs.Evaluation.Like
import SqlBuilder.Proofs.Evaluation.Row
import SqlBuilder.Proofs.Progressions.Membership
import SqlBuilder.Proofs.Conditions.TextMatch
import SqlBuilder.Proofs.Conditions.Arguments
import SqlBuilder.Proofs.Identifiers.Comment
import SqlBuilder.Proofs.Rendering.Scan
import SqlBuilder.Proofs.Rendering.Closed
import SqlBuilder.Proofs.Statements.Blocks
import SqlBuilder.Proofs.Progressions.Restep
import SqlBuilder.Proofs.Progressions.Empty
import SqlBuilder.Proofs.Conditions.Monoid
import SqlBuilder.Proofs.Rendering.Template
import SqlBuilder.Proofs.Identifiers.Qualified
import SqlBuilder.Proofs.Statements.Clauses
import SqlBuilder.Proofs.Conditions.Guards
import SqlBuilder.Proofs.Logging.Shortening
import SqlBuilder.Proofs.Evaluation.Ranking
import SqlBuilder.Proofs.Conditions.NormalForm
import SqlBuilder.Proofs.Progressions.Machine
import SqlBuilder.Proofs.Rendering.KeptByWriting
import SqlBuilder.Expr.Methods
