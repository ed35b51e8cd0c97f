import SqlBuilder.Config.Document
import SqlBuilder.Inspect
import SqlBuilder.Json.Reader
import SqlBuilder.Postgres.Prepare
import SqlBuilder.Proofs.Arrays.Encoded
import SqlBuilder.Proofs.Assembly.Placement
import SqlBuilder.Proofs.Binding.Calls
import SqlBuilder.Proofs.Calls.Clauses
import SqlBuilder.Proofs.Columns.Quoting
import SqlBuilder.Proofs.CommonTables.Listing
import SqlBuilder.Proofs.Conditions.Filters
import SqlBuilder.Proofs.Literals.Unambiguous
import SqlBuilder.Proofs.Nesting.Failures
import SqlBuilder.Proofs.Quoting.DollarStrings
import SqlBuilder.Proofs.Rendering.Blank
import SqlBuilder.Proofs.Scanning.Containment
import SqlBuilder.Proofs.Trees.Roots
import SqlBuilder.Proofs.Unions.Reading
import SqlBuilder.Value.Constant
