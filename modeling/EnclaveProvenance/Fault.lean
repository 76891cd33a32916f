import EnclaveProvenance.Fault.Evidence
import EnclaveProvenance.Fault.Supply

/-!
Failures of a run, by their causes, with the class and the message that are reported for them.
-/

namespace EnclaveProvenance

inductive Fault
  | malformedBundle (defect : BundleDefect)
  | malformedDocument (defect : DocumentDefect)
  | untrustedSigner (defect : SignerDefect)
  | signatureInvalid (defect : SealDefect)
  | identityMismatch (defect : IdentityDefect)
  | missingClaim (defect : ClaimDefect)
  | registerMissing (index : RegisterIndex)
  | request (defect : RequestDefect)
  | answer (defect : AnswerDefect)
  | config (defect : ConfigDefect)
  | file (defect : FileDefect)
  | internal (text : String)
deriving DecidableEq, Repr

/-- Classes of failures; both failures of retrieval are one class, so that "the bytes could not be
had" is told from "the bytes did not verify". -/
inductive FaultKind
  | malformedBundle
  | malformedDocument
  | untrustedSigner
  | signatureInvalid
  | identityMismatch
  | missingClaim
  | registerMissing
  | transport
  | config
  | internal
deriving DecidableEq, Repr

def FaultKind.text : FaultKind → String
  | .malformedBundle => "MalformedBundle"
  | .malformedDocument => "MalformedDocument"
  | .untrustedSigner => "UntrustedSigner"
  | .signatureInvalid => "SignatureInvalid"
  | .identityMismatch => "IdentityMismatch"
  | .missingClaim => "MissingClaim"
  | .registerMissing => "RegisterMissing"
  | .transport => "Transport"
  | .config => "Config"
  | .internal => "Internal"

namespace Fault

def kind : Fault → FaultKind
  | .malformedBundle _ => .malformedBundle
  | .malformedDocument _ => .malformedDocument
  | .untrustedSigner _ => .untrustedSigner
  | .signatureInvalid _ => .signatureInvalid
  | .identityMismatch _ => .identityMismatch
  | .missingClaim _ => .missingClaim
  | .registerMissing _ => .registerMissing
  | .request _ => .transport
  | .answer _ => .transport
  | .config _ => .config
  | .file _ => .config
  | .internal _ => .internal

def isTransport (fault : Fault) : Bool := fault.kind = .transport

def message : Fault → String
  | .malformedBundle defect => "Malformed bundle: " ++ defect.message
  | .malformedDocument defect => "Malformed attestation document: " ++ defect.message
  | .untrustedSigner defect => untrustedLead ++ defect.message
  | .signatureInvalid defect => "Signature invalid: " ++ defect.message
  | .identityMismatch defect => "Identity mismatch: " ++ defect.message
  | .missingClaim defect => "Missing claim: " ++ defect.message
  | .registerMissing index => s!"Register PCR{index} missing"
  | .request defect => "HTTP request failed: " ++ defect.message
  | .answer defect => "Attestation fetch failed: " ++ defect.message
  | .config defect => "Invalid configuration: " ++ defect.message
  | .file defect => "IO error: " ++ defect.message
  | .internal text => "Internal error: " ++ text

end Fault

end EnclaveProvenance
