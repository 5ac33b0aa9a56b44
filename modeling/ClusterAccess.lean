import ClusterAccess.CommandLine.Surroundings
import ClusterAccess.Main
import ClusterAccess.Proofs.Client.LeastRecent
import ClusterAccess.Proofs.System.ServiceIdentity
import ClusterAccess.Proofs.System.Sharing
import ClusterAccess.Proofs.System.Conformity
import ClusterAccess.Proofs.Request.Effects
import ClusterAccess.Proofs.Client.Faithful
import ClusterAccess.Proofs.Request.Conduct
import ClusterAccess.Proofs.System.Caching
import ClusterAccess.Proofs.System.Strictness
import ClusterAccess.Proofs.Wire.Encoding
import ClusterAccess.Proofs.Wire.Kinds
import ClusterAccess.Proofs.Credential.Impersonation
import ClusterAccess.Proofs.Request.Presented
import ClusterAccess.Proofs.System.Sending
import ClusterAccess.Proofs.Json.Fields
import ClusterAccess.Proofs.Wire.Review
import ClusterAccess.Proofs.CommandLine.Messages
import ClusterAccess.Proofs.CommandLine.Attribution
import ClusterAccess.Proofs.Config.Serving
import ClusterAccess.Proofs.Client.Families
import ClusterAccess.Proofs.System.Blame
import ClusterAccess.Proofs.Request.Cancellation
import ClusterAccess.Proofs.Resource.Grammar
import ClusterAccess.Proofs.Request.EventListing
import ClusterAccess.Proofs.Request.ExactIdentity
import ClusterAccess.Proofs.Access.EntryPoints
import ClusterAccess.Proofs.Wire.Verdict
import ClusterAccess.Proofs.Config.Variables
import ClusterAccess.Proofs.Config.Files
