import EnclaveProvenance.Certificate.Error

/-!
What can be wrong before any evidence is looked at: with the configuration, its files, and the
retrieval of the inputs.
-/

namespace EnclaveProvenance

inductive TrustedRootDefect
  | undecodable
  | mediaType (found : String)
  | notBase64 (field : String)
  | certificate (authority : String) (error : CertificateError)
  | emptyChain (authority : String)
  | noAuthorities
  | noLogs
deriving DecidableEq, Repr

def TrustedRootDefect.message : TrustedRootDefect → String
  | .undecodable => Text.unstatedDetail
  | .mediaType found => s!"unexpected media type {found}"
  | .notBase64 field => s!"Malformed bundle: {field} is not valid base64: {Text.unstatedDetail}"
  | .certificate authority error => s!"{authority}: {error.message}"
  | .emptyChain authority => s!"{authority} has an empty certificate chain"
  | .noAuthorities => "no certificate authorities"
  | .noLogs => "no usable transparency logs"

inductive ConfigDefect
  | undecodable
  | noRegisters
  | attestationPath (path : String)
  | emptyIssuer
  | noTrustedRoot
  | trustedRoot (defect : TrustedRootDefect)
  | nitroRoot (error : CertificateError)
  | stated (text : String)
deriving DecidableEq, Repr

def ConfigDefect.message : ConfigDefect → String
  | .undecodable => Text.unstatedDetail
  | .noRegisters => "registers must not be empty"
  | .attestationPath path => s!"attestation_path {path} must start with '/'"
  | .emptyIssuer => "oidc_issuer must not be empty"
  | .noTrustedRoot => "sigstore_trusted_root is not set"
  | .trustedRoot defect => s!"trusted root: {defect.message}"
  | .nitroRoot error => s!"Nitro root certificate: {error.message}"
  | .stated text => text

inductive FileDefect
  | notFound
  | stated (text : String)
deriving DecidableEq, Repr

def FileDefect.message : FileDefect → String
  | .notFound => "No such file or directory (os error 2)"
  | .stated text => text

inductive RequestDefect
  | builder (url : Option String)
  | sending (url : String)
  | stated (text : String)
deriving DecidableEq, Repr

def RequestDefect.message : RequestDefect → String
  | .builder none => "builder error"
  | .builder (some url) => s!"builder error for url ({url})"
  | .sending url => s!"error sending request for url ({url})"
  | .stated text => text

inductive AnswerDefect
  | status (url : String) (code : Nat) (reason : Option String)
  | release
  | noDigest (tag : String)
  | response
  | noAttestations
  | stated (text : String)
deriving DecidableEq, Repr

def AnswerDefect.message : AnswerDefect → String
  | .status url code (some reason) => s!"{url}: HTTP {code} {reason}: {reason}"
  | .status url code none => s!"{url}: HTTP {code} <unknown status code>: Unknown error"
  | .release => s!"failed to parse release: {Text.unstatedDetail}"
  | .noDigest tag => s!"release {tag} does not announce an EIF hash"
  | .response => s!"failed to parse attestation response: {Text.unstatedDetail}"
  | .noAttestations => "no attestations found"
  | .stated text => text

end EnclaveProvenance
