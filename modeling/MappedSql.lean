import MappedSql.Document.Configuration
import MappedSql.Document.Database
import MappedSql.Document.Interceptor
import MappedSql.Session.Desk
import MappedSql.Proofs.Template.Binding
import MappedSql.Proofs.Execution.Calls
import MappedSql.Proofs.Session.Interleaving
import MappedSql.Proofs.Template.Independence
import MappedSql.Proofs.Session.Balance
import MappedSql.Proofs.Session.Batching
import MappedSql.Proofs.Template.Precompiled
import MappedSql.Proofs.Cache.Overlay
import MappedSql.Proofs.Execution.Failures
import MappedSql.Proofs.Session.Renewal
import MappedSql.Proofs.Session.Proceeding
import MappedSql.Proofs.Session.Repeating
import MappedSql.Proofs.Placeholder.Alignment
import MappedSql.Proofs.Placeholder.Typing
import MappedSql.Proofs.Template.Escapes
import MappedSql.Proofs.Session.Weaving
import MappedSql.Proofs.Session.Protocol
import MappedSql.Proofs.Session.Origins
import MappedSql.Proofs.Template.Filtering
import MappedSql.Proofs.Template.Settling
import MappedSql.Proofs.Expr.Paths
import MappedSql.Proofs.Expr.Printing
import MappedSql.Proofs.Execution.GeneratedKeys
import MappedSql.Proofs.Storage.Protocol
import MappedSql.Proofs.Cache.Hashing
import MappedSql.Proofs.Expr.Comparing
import MappedSql.Proofs.Value.Coercing
import MappedSql.Proofs.Value.Documents
import MappedSql.Proofs.Template.Overrides
import MappedSql.Proofs.Template.Clauses
import MappedSql.Proofs.Template.Scoping
import MappedSql.Proofs.Template.Splicing
import MappedSql.Proofs.Marker.Numbering
import MappedSql.Proofs.Marker.Regions
import MappedSql.Proofs.Rows.Paging
import MappedSql.Proofs.Cache.Layers
import MappedSql.Proofs.Value.Assigning
import MappedSql.Proofs.Statement.Selection
import MappedSql.Proofs.Expr.Integers
import MappedSql.Proofs.Placeholder.Printing
import MappedSql.Proofs.Execution.Refused
import MappedSql.Proofs.Rows.Naming
import MappedSql.Proofs.Value.Paths
import MappedSql.Proofs.Template.Offsets
