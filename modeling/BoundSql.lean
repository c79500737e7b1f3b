import BoundSql.Condition.Combinators
import BoundSql.Condition.Describe
import BoundSql.Decimal.Reader
import BoundSql.Draft.Modification
import BoundSql.Draft.Select
import BoundSql.Json.Access
import BoundSql.Json.Reader
import BoundSql.Json.Stored
import BoundSql.Proofs.ConditionChains
import BoundSql.Proofs.ConditionLaws
import BoundSql.Proofs.Erasure
import BoundSql.Proofs.ExpressionReading
import BoundSql.Proofs.FirstDeclarations
import BoundSql.Proofs.KeyCollisions
import BoundSql.Proofs.LexicalScope
import BoundSql.Proofs.LiteralSafety
import BoundSql.Proofs.OptionalSettings
import BoundSql.Proofs.OwnTables
import BoundSql.Proofs.Pruning
import BoundSql.Proofs.Reports
import BoundSql.Proofs.RowMajor
import BoundSql.Proofs.SelectStages
import BoundSql.Proofs.UnionPaging
import BoundSql.Proofs.WhereClause
import BoundSql.Proofs.WireDecoding
import BoundSql.Proofs.WrittenStatements
import BoundSql.Rendered
import BoundSql.Schema.Registry
import BoundSql.Value.Wire
