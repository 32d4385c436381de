import DocumentQuery.Expr.Builder
import DocumentQuery.Expr.Equality
import DocumentQuery.Interchange.Writer
import DocumentQuery.Json.Reader
import DocumentQuery.Proofs.Cache.Kept
import DocumentQuery.Proofs.Cache.Origin
import DocumentQuery.Proofs.Cache.Registration
import DocumentQuery.Proofs.Cache.Run
import DocumentQuery.Proofs.Cache.Serial
import DocumentQuery.Proofs.Double.Format
import DocumentQuery.Proofs.Double.Order
import DocumentQuery.Proofs.Double.Rounding
import DocumentQuery.Proofs.Engine.Call
import DocumentQuery.Proofs.Engine.Failure
import DocumentQuery.Proofs.Engine.Final
import DocumentQuery.Proofs.Expr.Access
import DocumentQuery.Proofs.Expr.Chain
import DocumentQuery.Proofs.Filter.Condition
import DocumentQuery.Proofs.Filter.Leaves
import DocumentQuery.Proofs.Filter.Meaning
import DocumentQuery.Proofs.Filter.Reader
import DocumentQuery.Proofs.Filter.Tree
import DocumentQuery.Proofs.Filter.Turned
import DocumentQuery.Proofs.Interchange.Path
import DocumentQuery.Proofs.Json.Written
import DocumentQuery.Proofs.Like.Literal
import DocumentQuery.Proofs.Like.Matches
import DocumentQuery.Proofs.Like.Regex
import DocumentQuery.Proofs.Like.Shortcut
import DocumentQuery.Proofs.Path.Canonical
import DocumentQuery.Proofs.Path.Grammar
import DocumentQuery.Proofs.Path.Obtained
import DocumentQuery.Proofs.Path.RoundTrip
import DocumentQuery.Proofs.Projection.Bindings
import DocumentQuery.Proofs.Provision.Again
import DocumentQuery.Proofs.Provision.Keeps
import DocumentQuery.Proofs.Provision.Refusal
import DocumentQuery.Proofs.Provision.Run
import DocumentQuery.Proofs.Provision.Schemas
import DocumentQuery.Proofs.Regex.Standard
import DocumentQuery.Proofs.Sql.Closed
import DocumentQuery.Proofs.Sql.Ddl
import DocumentQuery.Proofs.Sql.ExtractionCall
import DocumentQuery.Proofs.Sql.Numbering
import DocumentQuery.Proofs.Sql.Parameters
import DocumentQuery.Proofs.Sql.Piece
import DocumentQuery.Proofs.Sql.Placeholders
import DocumentQuery.Proofs.Sql.SourcePath
import DocumentQuery.Proofs.Sql.Token
import DocumentQuery.Proofs.Statement.Placeholders
import DocumentQuery.Proofs.Statement.Shape
import DocumentQuery.Proofs.Statement.Tokens
import DocumentQuery.Proofs.Statement.Values
import DocumentQuery.Proofs.Table.Cache
import DocumentQuery.Proofs.Table.ColumnMap
import DocumentQuery.Proofs.Table.CreateText
import DocumentQuery.Proofs.Table.Reported
import DocumentQuery.Proofs.Table.StoredText
import DocumentQuery.Proofs.Text.CaseFold
import DocumentQuery.Proofs.Text.Lowercase
import DocumentQuery.Proofs.Text.Words
import DocumentQuery.Proofs.Value.Order
import DocumentQuery.Session
import DocumentQuery.Sql.Placeholder
import DocumentQuery.Store.Row
