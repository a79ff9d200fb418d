import TableQuery.Connection.Session
import TableQuery.Declaration.Enumeration
import TableQuery.Proofs.Building.Deferral
import TableQuery.Proofs.Building.Result
import TableQuery.Proofs.Conjunction
import TableQuery.Proofs.Constant.Independence
import TableQuery.Proofs.Constant.Integers
import TableQuery.Proofs.Constant.Types
import TableQuery.Proofs.Conversion.RoundTrip
import TableQuery.Proofs.Declaration.Items
import TableQuery.Proofs.Declaration.Schema
import TableQuery.Proofs.Embedding.Membership
import TableQuery.Proofs.Function.Affixes
import TableQuery.Proofs.Function.Arity
import TableQuery.Proofs.Function.Trimming
import TableQuery.Proofs.Meaning.Agreement
import TableQuery.Proofs.Meaning.Membership
import TableQuery.Proofs.Ordering.Compilation
import TableQuery.Proofs.Outcome.Compilation
import TableQuery.Proofs.Parameters
import TableQuery.Proofs.Pattern.Statement
import TableQuery.Proofs.PlainFilter
import TableQuery.Proofs.Quantity.Agreement
import TableQuery.Proofs.Quantity.Emulation
import TableQuery.Proofs.Quotation
import TableQuery.Proofs.Renaming.Compilation
import TableQuery.Proofs.Rows.Existence
import TableQuery.Proofs.Rows.Last
import TableQuery.Proofs.Rows.Paging
import TableQuery.Proofs.Schema.Lookup
import TableQuery.Proofs.Scoping.OwnColumns
import TableQuery.Proofs.Scoping.References
import TableQuery.Proofs.Scoping.Refusals
import TableQuery.Proofs.Scoping.Resolution
import TableQuery.Proofs.Shape.Texts
import TableQuery.Proofs.Sharing
import TableQuery.Proofs.Turning.Compilation
import TableQuery.Proofs.Values
import TableQuery.Query.Build
import TableQuery.Sql.Statement
import TableQuery.Typed.Literal
import TableQuery.Typed.Term
