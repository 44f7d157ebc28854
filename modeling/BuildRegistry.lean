import BuildRegistry.Main
import BuildRegistry.Proofs.Runs
import BuildRegistry.Proofs.Lookup
import BuildRegistry.Proofs.Immutability
import BuildRegistry.Proofs.Ownership
import BuildRegistry.Proofs.Traversal
import BuildRegistry.Proofs.PackageListing
import BuildRegistry.Proofs.DeploymentListing
import BuildRegistry.Proofs.Store.Histories
import BuildRegistry.Proofs.Verification
import BuildRegistry.Proofs.Archive
import BuildRegistry.Proofs.Validity
import BuildRegistry.Proofs.Publication.RoundTrip
import BuildRegistry.Proofs.PackageListing.Tags
import BuildRegistry.Proofs.Resolution
import BuildRegistry.Proofs.PackageListing.Entries
import BuildRegistry.Proofs.Latest
import BuildRegistry.Proofs.Http.Credentials
import BuildRegistry.Proofs.Store.Keys
import BuildRegistry.Proofs.DeployedContracts
import BuildRegistry.Proofs.Refusals
import BuildRegistry.Proofs.Archive.Building
import BuildRegistry.Proofs.Store.Bundles
import BuildRegistry.Proofs.Store.Deletion
import BuildRegistry.Proofs.Publication.Acceptance
import BuildRegistry.Proofs.Publication.Contents
import BuildRegistry.Proofs.Version.Precedence
import BuildRegistry.Proofs.Verification.Marking
import BuildRegistry.Proofs.Recording
import BuildRegistry.Proofs.Json.Pretty
import BuildRegistry.Proofs.Archive.Unpacking
import BuildRegistry.Proofs.Version.Grammar
import BuildRegistry.Proofs.Bytecode.Decoding
import BuildRegistry.Proofs.Bytecode.Metadata
import BuildRegistry.Proofs.Store.Outputs
import BuildRegistry.Proofs.Decimal.Checked
import BuildRegistry.Proofs.DeploymentListing.Cursors
import BuildRegistry.Proofs.Verification.Origins
import BuildRegistry.Proofs.DeploymentListing.Packages
import BuildRegistry.Proofs.Recording.Data
