import ClusterLink.CommandLine.Run
import ClusterLink.Files
import ClusterLink.Filter.Script
import ClusterLink.Json.Reading
import ClusterLink.Main
import ClusterLink.TrustStore
import ClusterLink.Violation.Reading
import ClusterLink.Proofs.Access
import ClusterLink.Proofs.Tls.Rules
import ClusterLink.Proofs.Credentials.Rules
import ClusterLink.Proofs.Hosts
import ClusterLink.Proofs.Endpoint.Path
import ClusterLink.Proofs.Validation.Acceptance
import ClusterLink.Proofs.Validation.Consistency
import ClusterLink.Proofs.Validation.Rejection
import ClusterLink.Proofs.Validation.Preservation
import ClusterLink.Proofs.Filter.Start
import ClusterLink.Proofs.Filter.Discipline
import ClusterLink.Proofs.Filter.Counts
import ClusterLink.Proofs.Filter.States
import ClusterLink.Proofs.Filter.Registration
import ClusterLink.Proofs.Endpoint.Reading
import ClusterLink.Proofs.Validation.Downgrade
import ClusterLink.Proofs.Text.Hex
import ClusterLink.Proofs.Endpoint.Host
import ClusterLink.Proofs.Endpoint.Segments
import ClusterLink.Proofs.Endpoint.Text
import ClusterLink.Proofs.Endpoint.Settled
import ClusterLink.Proofs.Endpoint.RoundTrip
import ClusterLink.Proofs.Validation.OtherHosts
import ClusterLink.Proofs.Validation.Idempotence
import ClusterLink.Proofs.Validation.Inference
import ClusterLink.Proofs.Validation.Selection
import ClusterLink.Proofs.Secrecy.Noninterference
import ClusterLink.Proofs.Filter.Accounting
import ClusterLink.Proofs.CommandLine.Verdicts
import ClusterLink.Proofs.Settings.Reading
import ClusterLink.Proofs.Secrecy.Files
import ClusterLink.Proofs.Settings.RoundTrip
import ClusterLink.Proofs.Tls.Table
import ClusterLink.Proofs.Endpoint.Agreement
import ClusterLink.Proofs.Credentials.Table
import ClusterLink.Proofs.Validation.Surroundings
import ClusterLink.Proofs.Validation.Questions
import ClusterLink.Proofs.Endpoint.Clean
import ClusterLink.Proofs.Endpoint.Spelling
import ClusterLink.Proofs.Endpoint.UserInfo
import ClusterLink.Proofs.Target.Schemes
import ClusterLink.Proofs.Event
import ClusterLink.Proofs.Endpoint.Openings
import ClusterLink.Proofs.Credentials.ApiKey
import ClusterLink.Proofs.CommandLine.Listing
import ClusterLink.Proofs.CommandLine.Display
