import CivicRegistry.Binary64.Notation
import CivicRegistry.Binary64.Order
import CivicRegistry.Binary64.Reading
import CivicRegistry.Binary64.Shortest
import CivicRegistry.Calendar.Date
import CivicRegistry.Calendar.Instant
import CivicRegistry.Calendar.Moment
import CivicRegistry.Calendar.Timestamp
import CivicRegistry.Criteria.Administration
import CivicRegistry.Criteria.Basic
import CivicRegistry.Criteria.Blocks
import CivicRegistry.Criteria.People
import CivicRegistry.Criteria.Reading
import CivicRegistry.Criteria.Selection
import CivicRegistry.Criteria.Violations
import CivicRegistry.Criteria.WardNumbers
import CivicRegistry.Digest.Sha256
import CivicRegistry.Entity.Attribute
import CivicRegistry.Entity.Basic
import CivicRegistry.Entity.Field
import CivicRegistry.Entity.Row
import CivicRegistry.Entity.Token
import CivicRegistry.Entity.Vocabulary
import CivicRegistry.Geography
import CivicRegistry.Http.Bearer
import CivicRegistry.Http.Body
import CivicRegistry.Http.Endpoint
import CivicRegistry.Http.Fault
import CivicRegistry.Http.Gateway
import CivicRegistry.Http.MediaType
import CivicRegistry.Http.Message
import CivicRegistry.Http.Target
import CivicRegistry.Intake.Refusal
import CivicRegistry.Intake.Schema
import CivicRegistry.Intake.Shape
import CivicRegistry.Json.Numeral
import CivicRegistry.Json.Outline
import CivicRegistry.Json.Passage
import CivicRegistry.Json.Printer
import CivicRegistry.Json.Scanner
import CivicRegistry.Json.Value
import CivicRegistry.Naming
import CivicRegistry.Paging
import CivicRegistry.Predicate.Basic
import CivicRegistry.Predicate.Builder
import CivicRegistry.Predicate.Match
import CivicRegistry.Projection
import CivicRegistry.Proofs.Binary64.Amount
import CivicRegistry.Proofs.Binary64.Conversion
import CivicRegistry.Proofs.Binary64.Nearest
import CivicRegistry.Proofs.Criteria.Accumulation
import CivicRegistry.Proofs.Criteria.Blame
import CivicRegistry.Proofs.Criteria.Lowering
import CivicRegistry.Proofs.Criteria.Meaning
import CivicRegistry.Proofs.Criteria.NormalForm
import CivicRegistry.Proofs.Criteria.Paging
import CivicRegistry.Proofs.Criteria.Restating
import CivicRegistry.Proofs.Criteria.Sequences
import CivicRegistry.Proofs.Criteria.Statements
import CivicRegistry.Proofs.Criteria.Validation
import CivicRegistry.Proofs.Entity.Resolution
import CivicRegistry.Proofs.Http.Admission
import CivicRegistry.Proofs.Http.Logout
import CivicRegistry.Proofs.Http.Refusing
import CivicRegistry.Proofs.Http.Searching
import CivicRegistry.Proofs.Intake.FirstRefusal
import CivicRegistry.Proofs.Intake.Reordering
import CivicRegistry.Proofs.Json.Numbers
import CivicRegistry.Proofs.Json.Printing
import CivicRegistry.Proofs.Json.Rearranging
import CivicRegistry.Proofs.Mentions
import CivicRegistry.Proofs.Naming
import CivicRegistry.Proofs.Predicate.Combination
import CivicRegistry.Proofs.Predicate.Grouping
import CivicRegistry.Proofs.Predicate.Search
import CivicRegistry.Proofs.Predicate.View
import CivicRegistry.Proofs.Projection
import CivicRegistry.Proofs.Projection.Printing
import CivicRegistry.Proofs.Ranking
import CivicRegistry.Proofs.Ranking.Lawfulness
import CivicRegistry.Proofs.Revocation.Calls
import CivicRegistry.Proofs.Revocation.Carrying
import CivicRegistry.Proofs.Revocation.History
import CivicRegistry.Proofs.Revocation.Interleaving
import CivicRegistry.Proofs.Revocation.Intervals
import CivicRegistry.Proofs.Revocation.Ledger
import CivicRegistry.Proofs.Revocation.Lifecycle
import CivicRegistry.Proofs.Revocation.Lifespan
import CivicRegistry.Proofs.Revocation.Outages
import CivicRegistry.Proofs.Revocation.Rotation
import CivicRegistry.Proofs.Revocation.Stage
import CivicRegistry.Proofs.Revocation.Standing
import CivicRegistry.Proofs.Service.Surroundings
import CivicRegistry.Proofs.Settings.Starting
import CivicRegistry.Proofs.Sql.Agreement
import CivicRegistry.Proofs.Sql.Answering
import CivicRegistry.Proofs.Sql.ClauseReading
import CivicRegistry.Proofs.Sql.ClauseText
import CivicRegistry.Proofs.Sql.Consistency
import CivicRegistry.Proofs.Sql.ListingReading
import CivicRegistry.Proofs.Sql.Lowering
import CivicRegistry.Proofs.Sql.Meaning
import CivicRegistry.Proofs.Sql.Numbering
import CivicRegistry.Proofs.Sql.Path
import CivicRegistry.Proofs.Sql.Patterns
import CivicRegistry.Proofs.Sql.Placeholders
import CivicRegistry.Proofs.Sql.Reading
import CivicRegistry.Proofs.Sql.Refusal
import CivicRegistry.Proofs.Sql.Selection
import CivicRegistry.Proofs.Sql.Skeleton
import CivicRegistry.Proofs.Sql.StatementReading
import CivicRegistry.Proofs.Sql.Stored
import CivicRegistry.Proofs.Sql.Text
import CivicRegistry.Proofs.Store.Agreement
import CivicRegistry.Proofs.Store.Arrangement
import CivicRegistry.Proofs.Store.Keeping
import CivicRegistry.Proofs.Store.Pages
import CivicRegistry.Proofs.Text.Blank
import CivicRegistry.Proofs.Text.Encodings
import CivicRegistry.Proofs.Text.Lowercase
import CivicRegistry.Proofs.Token.Issued
import CivicRegistry.Proofs.Token.Opening
import CivicRegistry.Proofs.Token.Reading
import CivicRegistry.Proofs.Token.Verdict
import CivicRegistry.Proofs.Value.Comparison
import CivicRegistry.Proofs.Value.Order
import CivicRegistry.Ranking
import CivicRegistry.Service.Host
import CivicRegistry.Service.Procedure
import CivicRegistry.Service.Question
import CivicRegistry.Service.Search
import CivicRegistry.Settings.Basic
import CivicRegistry.Settings.Check
import CivicRegistry.Settings.Environment
import CivicRegistry.Sql.Clause
import CivicRegistry.Sql.Column
import CivicRegistry.Sql.Statement
import CivicRegistry.Store.Cell
import CivicRegistry.Store.Fault
import CivicRegistry.Store.Relational
import CivicRegistry.Store.Table
import CivicRegistry.Text.Base64Url
import CivicRegistry.Text.Blank
import CivicRegistry.Text.CaseTables
import CivicRegistry.Text.CombiningClass
import CivicRegistry.Text.CompositeTable
import CivicRegistry.Text.Composition
import CivicRegistry.Text.Decimal
import CivicRegistry.Text.Hex
import CivicRegistry.Text.Lowercase
import CivicRegistry.Text.Mark
import CivicRegistry.Text.Occurrence
import CivicRegistry.Text.Ranges
import CivicRegistry.Text.Utf8
import CivicRegistry.Token.Claims
import CivicRegistry.Token.Fault
import CivicRegistry.Token.Issuer
import CivicRegistry.Token.KeyDescription
import CivicRegistry.Token.Ledger
import CivicRegistry.Token.Signed
import CivicRegistry.Url.Address
import CivicRegistry.Url.Basic
import CivicRegistry.Url.Domain.Direction
import CivicRegistry.Url.Domain.DirectionTable
import CivicRegistry.Url.Domain.Joiner
import CivicRegistry.Url.Domain.JoiningTable
import CivicRegistry.Url.Domain.Mapping
import CivicRegistry.Url.Domain.MappingTable
import CivicRegistry.Url.Domain.Name
import CivicRegistry.Url.Domain.Punycode
import CivicRegistry.Uuid
import CivicRegistry.Value
