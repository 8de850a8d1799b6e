import Warrant.Text.Capital
import Warrant.Text.Numeral
import Warrant.Text.Hex
import Warrant.Text.Quoted
import Warrant.Text.Utf8
import Warrant.Number.Shortest
import Warrant.Fault
import Warrant.Time.Instant
import Warrant.Time.Reader
import Warrant.Time.Span
import Warrant.Uuid.Reader
import Warrant.Value.Text
import Warrant.Value.Equality
import Warrant.Value.Stored
import Warrant.Json.Octets
import Warrant.Path
import Warrant.Conditions.Match
import Warrant.Conditions.Resolve
import Warrant.Conditions.Unresolved
import Warrant.Vocabulary
import Warrant.Entity
import Warrant.Resource
import Warrant.Rule
import Warrant.Ability
import Warrant.RuleCache
import Warrant.Notice
import Warrant.Guard
import Warrant.Ownership
import Warrant.RuleChange
import Warrant.Json.Writer
import Warrant.Settings
import Warrant.LogLevel
import Warrant.Http.Cors
import Warrant.Audit.Entry
import Warrant.Value.Identifier
import Warrant.Store
import Warrant.Audit.Query
import Warrant.Mutation.Accounts
import Warrant.Seed
import Warrant.View
import Warrant.Http.Request
import Warrant.Http.Response
import Warrant.Http.Route
import Warrant.Http.App
import Warrant.Main
import Warrant.Proofs.Coherence
import Warrant.Proofs.Isolation
import Warrant.Proofs.Degradation
import Warrant.Proofs.Coarsening
import Warrant.Proofs.Admission
import Warrant.Proofs.Conditionality
import Warrant.Proofs.Requests
import Warrant.Proofs.Reassignment
import Warrant.Proofs.Provenance
import Warrant.Proofs.Writers
import Warrant.Proofs.Recounting
import Warrant.Proofs.Silence
import Warrant.Proofs.AuditTrail
import Warrant.Proofs.Identifiers
import Warrant.Proofs.Portraits
import Warrant.Proofs.Replay
import Warrant.Proofs.Disclosure
import Warrant.Proofs.Cells
import Warrant.Proofs.Overlap
import Warrant.Proofs.Overwriting
import Warrant.Proofs.Effects
import Warrant.Proofs.Enforcement
import Warrant.Proofs.Frame
import Warrant.Proofs.Likeness
import Warrant.Proofs.Revocation
import Warrant.Proofs.Verdicts
import Warrant.Proofs.Reflexivity
import Warrant.Proofs.Substitution
import Warrant.Proofs.BulkRemoval
import Warrant.Proofs.Diagnosis
import Warrant.Proofs.Grid
import Warrant.Proofs.Spelling
import Warrant.Proofs.Scrutiny
import Warrant.Proofs.Nesting
import Warrant.Proofs.Constancy
import Warrant.Proofs.Acceptance
import Warrant.Proofs.Abreast
import Warrant.Proofs.Belonging
import Warrant.Proofs.Names
import Warrant.Proofs.Pages
import Warrant.Proofs.Reseeding
import Warrant.Proofs.Storing
import Warrant.Proofs.Supplies
import Warrant.Proofs.BulkAddition
import Warrant.Proofs.Retention
import Warrant.Proofs.Poisoning
