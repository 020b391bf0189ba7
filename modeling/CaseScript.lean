import CaseScript.Case.Requirements
import CaseScript.Command.Bench
import CaseScript.Http.Address
import CaseScript.Main
import CaseScript.Proofs.Step.Cancellation
import CaseScript.Proofs.Template.Loop
import CaseScript.Proofs.Template.Passes
import CaseScript.Proofs.Template.Quotes
import CaseScript.Proofs.Step.Logged
import CaseScript.Proofs.Sql.Depth
import CaseScript.Proofs.Unicode.Words
import CaseScript.Proofs.Sql.Parts
import CaseScript.Proofs.Sql.Sigma
import CaseScript.Proofs.Sql.Even
import CaseScript.Proofs.Sql.Shape
import CaseScript.Proofs.Check.Masked
import CaseScript.Proofs.Check.Opposed
import CaseScript.Proofs.Check.Reasons
import CaseScript.Proofs.Source.Tiers
import CaseScript.Proofs.Url.Rooted
import CaseScript.Proofs.Case.Isolation
import CaseScript.Proofs.Step.Deadline
import CaseScript.Proofs.Step.Instances
import CaseScript.Proofs.Step.Gates
import CaseScript.Proofs.Step.Checks
import CaseScript.Proofs.Step.Outcomes
import CaseScript.Proofs.Step.Visits
import CaseScript.Proofs.Step.Written
import CaseScript.Proofs.Retry.Conjunction
import CaseScript.Proofs.Case.Statuses
import CaseScript.Proofs.Http.Slots
import CaseScript.Proofs.Template.Bound
import CaseScript.Proofs.Check.Membership
import CaseScript.Proofs.Check.Occurrence
import CaseScript.Proofs.Check.Containment
import CaseScript.Proofs.Check.Patterns
import CaseScript.Proofs.Store.Writes
import CaseScript.Proofs.Http.StandIn
import CaseScript.Proofs.Sql.Fold
import CaseScript.Proofs.Sql.Listing
import CaseScript.Proofs.Check.Hidden
import CaseScript.Proofs.Check.Numbers
import CaseScript.Proofs.Source.Tables
import CaseScript.Proofs.Report.Files
import CaseScript.Proofs.Retry.Thresholds
import CaseScript.Proofs.Step.Addresses
import CaseScript.Proofs.Http.Documents
import CaseScript.Proofs.Store.Paths
