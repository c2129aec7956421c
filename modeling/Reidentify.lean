import Reidentify.Main
import Reidentify.Proofs.Archive.Chronicle
import Reidentify.Proofs.Archive.Search
import Reidentify.Proofs.Artifact.Ascent
import Reidentify.Proofs.Artifact.Refusal
import Reidentify.Proofs.Artifact.RoundTrip
import Reidentify.Proofs.Descriptor.Signature
import Reidentify.Proofs.Outcome.Records
import Reidentify.Proofs.Pass.Diagnosis
import Reidentify.Proofs.Pass.Grouping
import Reidentify.Proofs.Pass.Layers
import Reidentify.Proofs.Pass.Members
import Reidentify.Proofs.Pass.Partition
import Reidentify.Proofs.Pass.Pool
import Reidentify.Proofs.Pass.Rearrangement
import Reidentify.Proofs.Pass.Restriction
import Reidentify.Proofs.Pass.Robustness
import Reidentify.Proofs.Pass.Solution
import Reidentify.Proofs.Pass.Strategies
import Reidentify.Proofs.Pass.Verdict
import Reidentify.Proofs.Query.Composition
import Reidentify.Proofs.Query.Stability
import Reidentify.Proofs.Renaming.Pass
import Reidentify.Proofs.Report.Rebinding
import Reidentify.Proofs.Shell.Numbers
import Reidentify.Report.Changes
