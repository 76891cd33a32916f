import EnclaveProvenance.Main
import EnclaveProvenance.Measurement.Written
import EnclaveProvenance.Proofs.Attestation.Codec
import EnclaveProvenance.Proofs.Attestation.Encodings
import EnclaveProvenance.Proofs.Certificate.Paths
import EnclaveProvenance.Proofs.CommandLine.ExitStatus
import EnclaveProvenance.Proofs.Cose.Levels
import EnclaveProvenance.Proofs.Measurements.Comparison
import EnclaveProvenance.Proofs.Measurements.Fingerprints
import EnclaveProvenance.Proofs.Report.Failures
import EnclaveProvenance.Proofs.Retrieval.Bundles
import EnclaveProvenance.Proofs.Retrieval.Digests
import EnclaveProvenance.Proofs.Transparency.Envelope
import EnclaveProvenance.Proofs.Transparency.Periods
import EnclaveProvenance.Proofs.Transparency.Predicates
import EnclaveProvenance.Proofs.Transparency.SignedEntry
import EnclaveProvenance.Proofs.Transparency.UsableEntries
import EnclaveProvenance.Proofs.Transparency.Workflows
