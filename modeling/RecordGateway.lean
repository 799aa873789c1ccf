import RecordGateway.Compilation.Basic
import RecordGateway.Configuration.Json
import RecordGateway.Configuration.Load
import RecordGateway.Credential.Counted
import RecordGateway.Credential.Fixed
import RecordGateway.Data.Account
import RecordGateway.Data.Account.Json
import RecordGateway.Data.Contact
import RecordGateway.Data.Contact.Json
import RecordGateway.Decimal.Shortest
import RecordGateway.Entity.Json
import RecordGateway.Gateway
import RecordGateway.Grant.Exchange
import RecordGateway.Json.Printer
import RecordGateway.Json.Reader
import RecordGateway.Mapping.Table
import RecordGateway.NativeQuery.Json
import RecordGateway.OData.Options
import RecordGateway.Records.Client
import RecordGateway.Script.Backend
import RecordGateway.Script.Basic
import RecordGateway.Store.Calls
import RecordGateway.Url.Reader
import RecordGateway.Value.Json
import RecordGateway.Proofs.Filter.Meaning
import RecordGateway.Proofs.Pattern.Matching
import RecordGateway.Proofs.Compilation.Meaning
import RecordGateway.Proofs.Attributes
import RecordGateway.Proofs.Records.Contracts
import RecordGateway.Proofs.Sharing.Patch
import RecordGateway.Proofs.Sharing.Replace
import RecordGateway.Proofs.Store.RecordMap
import RecordGateway.Proofs.Store.Refinement
import RecordGateway.Proofs.Store.Journal
import RecordGateway.Proofs.Store.VersionOrder
import RecordGateway.Proofs.Store.Sorting
import RecordGateway.Proofs.Store.ResultOrder
import RecordGateway.Proofs.Compilation.Windows
import RecordGateway.Proofs.Grant.Ledger
import RecordGateway.Proofs.Store.Pages
import RecordGateway.Proofs.Grant.Provenance
import RecordGateway.Proofs.Script.Runs
import RecordGateway.Proofs.Records.Refusals
import RecordGateway.Proofs.Records.Openings
import RecordGateway.Proofs.Script.Tokens
import RecordGateway.Proofs.Records.Delegation
import RecordGateway.Proofs.Records.LocalResults
import RecordGateway.Proofs.Records.ScopeSession
import RecordGateway.Proofs.Records.Readiness
import RecordGateway.Proofs.Script.Outcomes
import RecordGateway.Proofs.Records.Projection
import RecordGateway.Proofs.Uuid
import RecordGateway.Proofs.Data.RoundTrip
import RecordGateway.Proofs.Records.Undisturbed
import RecordGateway.Proofs.Records.ReadBack
import RecordGateway.Proofs.Grant.Reuse
import RecordGateway.Proofs.Compilation.Defects
import RecordGateway.Proofs.Compilation.DeMorgan
import RecordGateway.Proofs.Compilation.Reconstruction
import RecordGateway.Proofs.Records.Unshared
import RecordGateway.Proofs.Records.Remainder
import RecordGateway.Proofs.Compilation.Outline
import RecordGateway.Proofs.Compilation.Paging
import RecordGateway.Proofs.Store.Columns
import RecordGateway.Proofs.OData.Lowering
import RecordGateway.Proofs.OData.ExactNumbers
import RecordGateway.Proofs.Store.Schedule
import RecordGateway.Proofs.Text.Words
import RecordGateway.Proofs.OData.FieldLists
import RecordGateway.Proofs.Records.Spellings
import RecordGateway.Proofs.Records.Identity
import RecordGateway.Proofs.Pattern.Language
