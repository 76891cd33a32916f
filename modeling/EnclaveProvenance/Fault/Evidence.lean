import EnclaveProvenance.Certificate.Error
import EnclaveProvenance.Measurement

/-!
What can be wrong with the evidence: with the form of a bundle or a document, with who signed it,
with the signature, with the identity behind it, and with what it claims. In every class `stated`
is a cause that the caller gives in words.
-/

namespace EnclaveProvenance

inductive BundleDefect
  | undecodable
  | mediaType (found : String)
  | noSignatures
  | notBase64 (field : String)
  | emptyChain
  | noCertificate
  | certificate (error : CertificateError)
  | notInteger (field value : String)
  | bodyNotJson
  | negativeTime (time : Int)
  | truncatedScts
  | sctVersion (version : UInt8)
  | trailingSctBytes
  | trailingListBytes
  | sctListNotOctets
  | payloadType (found : String)
  | statement
  | registerKey (key : String)
  | repeatedRegister (index : RegisterIndex)
  | registerNotText (key : String)
  | registerNotHex (key : String) (error : Hex.Error)
  | stated (text : String)
deriving DecidableEq, Repr

def BundleDefect.message : BundleDefect → String
  | .undecodable => s!"invalid bundle: {Text.unstatedDetail}"
  | .mediaType found => s!"unsupported media type {found}"
  | .noSignatures => "DSSE envelope has no signatures"
  | .notBase64 field => s!"{field} is not valid base64: {Text.unstatedDetail}"
  | .emptyChain => "empty certificate chain"
  | .noCertificate => "no signing certificate"
  | .certificate error => s!"signing certificate: {error.message}"
  | .notInteger field value => s!"{field} is not an integer: {value}"
  | .bodyNotJson => s!"canonicalizedBody is not JSON: {Text.unstatedDetail}"
  | .negativeTime time => s!"negative integration time {time}"
  | .truncatedScts => "truncated SCT list"
  | .sctVersion version => s!"unsupported SCT version {version}"
  | .trailingSctBytes => "trailing bytes after SCT"
  | .trailingListBytes => "trailing bytes after SCT list"
  | .sctListNotOctets => s!"SCT list extension: {Text.unstatedDetail}"
  | .payloadType found => s!"unexpected payload type {found}"
  | .statement => s!"invalid in-toto statement: {Text.unstatedDetail}"
  | .registerKey key => s!"{key} is not a canonical register key"
  | .repeatedRegister index => s!"PCR{index} claimed more than once"
  | .registerNotText key => s!"{key} is not a string"
  | .registerNotHex key error => s!"{key} is not hex: {error.message}"
  | .stated text => text

inductive DocumentDefect
  | format (found : String)
  | bodyNotBase64
  | envelope
  | notSign1
  | algorithm (found : String)
  | noPayload
  | payload
  | emptyModuleId
  | digest (found : String)
  | zeroTimestamp
  | registerCount (count : Nat)
  | registerIndex (index : RegisterIndex)
  | registerLength (index : RegisterIndex) (length : Nat)
  | emptyAuthorities
  | certificateLength (length : Nat)
  | tooLong (field : String) (limit : Nat)
  | certificate (error : CertificateError)
  | stated (text : String)
deriving DecidableEq, Repr

def DocumentDefect.message : DocumentDefect → String
  | .format found => s!"unsupported attestation format {found}"
  | .bodyNotBase64 => s!"invalid base64 body: {Text.unstatedDetail}"
  | .envelope => s!"invalid attestation envelope: {Text.unstatedDetail}"
  | .notSign1 => s!"invalid COSE_Sign1: {Text.unstatedDetail}"
  | .algorithm found => s!"unsupported COSE algorithm {found}"
  | .noPayload => "COSE_Sign1 has no payload"
  | .payload => s!"invalid attestation payload: {Text.unstatedDetail}"
  | .emptyModuleId => "empty module_id"
  | .digest found => s!"unsupported digest {found}"
  | .zeroTimestamp => "zero timestamp"
  | .registerCount count => s!"{count} PCRs, expected 1..=32"
  | .registerIndex index => s!"PCR index {index} out of range"
  | .registerLength index length => s!"PCR{index} has length {length}"
  | .emptyAuthorities => "empty cabundle"
  | .certificateLength length => s!"certificate length {length} out of range"
  | .tooLong field limit => s!"{field} longer than {limit} bytes"
  | .certificate error => error.message
  | .stated text => text

inductive BodyMismatch
  | kind (logged declared : String)
  | unsupportedKind (kind : String)
  | noHash
  | hash
  | noSignatures
  | signature
deriving DecidableEq, Repr

def BodyMismatch.message : BodyMismatch → String
  | .kind logged declared => s!"body kind {logged} vs {declared}"
  | .unsupportedKind logged => s!"unsupported entry kind {logged}"
  | .noHash => "no payload hash"
  | .hash => "payload hash differs"
  | .noSignatures => "no signatures"
  | .signature => "envelope signature not logged"

inductive SctDefect
  | unknownLog (logId : Bytes)
  | outsideValidity (time : Int)
  | scheme (hash signature : UInt8)
  | rejected (log : String)
deriving DecidableEq, Repr

def SctDefect.message : SctDefect → String
  | .unknownLog logId => s!"unknown CT log {Hex.encode logId}"
  | .outsideValidity time => s!"SCT time {time} outside the CT log key validity"
  | .scheme hash signature => s!"unsupported SCT signature scheme {hash}/{signature}"
  | .rejected log => s!"SCT from {log}: signature verification failed: signature error"

def untrustedLead : String := "Untrusted signer: "

inductive SignerDefect
  | unknownLog (logId : Bytes)
  | outsideLogValidity (index time : Int)
  | noPromise (index : Int)
  | promise (index : Int)
  | body (mismatch : BodyMismatch)
  | noEntries
  | certificate (error : CertificateError)
  | noAuthority (time : Int)
  | fewScts (verified required : Nat) (last : Option SctDefect)
  | issuer (found expected : String)
  | noIssuer
  | attestation (error : CertificateError)
  | stated (text : String)
deriving DecidableEq, Repr

def SignerDefect.message : SignerDefect → String
  | .unknownLog logId => s!"unknown transparency log {Hex.encode logId}"
  | .outsideLogValidity index time =>
    s!"entry {index} integrated at {time} outside the log key validity"
  | .noPromise index => s!"entry {index} has no signed entry timestamp"
  | .promise index =>
    s!"signed entry timestamp of entry {index}: signature verification failed: signature error"
  | .body mismatch => s!"log entry does not match envelope: {mismatch.message}"
  | .noEntries => "bundle has no transparency log entries"
  | .certificate error => s!"signing certificate: {error.message}"
  | .noAuthority time => s!"no certificate authority valid at {time}"
  | .fewScts verified required none =>
    s!"signing certificate has {verified} verified SCTs of {required} required"
  | .fewScts verified required (some defect) =>
    s!"signing certificate has {verified} verified SCTs of {required} required: " ++
      untrustedLead ++ defect.message
  | .issuer found expected => s!"certificate issued for OIDC issuer {found}, expected {expected}"
  | .noIssuer => "certificate has no OIDC issuer"
  | .attestation error => s!"attestation certificate chain: {error.message}"
  | .stated text => text

inductive SealDefect
  | envelope
  | documentLength (length : Nat)
  | document
  | stated (text : String)
deriving DecidableEq, Repr

def SealDefect.message : SealDefect → String
  | .envelope => "DSSE signature verification failed"
  | .documentLength length => s!"ES384 signature has length {length}"
  | .document => "attestation document: signature verification failed: signature error"
  | .stated text => text

inductive IdentityDefect
  | digest (given : String)
  | unattested (digest : String)
  | notRepository (given : String)
  | noRepository
  | repository (found expected : String)
  | noWorkflow (lead : String)
  | notRelease (workflow : String)
  | stated (text : String)
deriving DecidableEq, Repr

def IdentityDefect.message : IdentityDefect → String
  | .digest given => s!"expected digest {given} is not a hex SHA-256 digest"
  | .unattested expected => s!"bundle does not attest digest {expected}"
  | .notRepository given => s!"expected repository {given} is not of the form owner/name"
  | .noRepository => "certificate names no repository"
  | .repository found expected => s!"certificate is for repository {found}, expected {expected}"
  | .noWorkflow lead => s!"no workflow identity under {lead}"
  | .notRelease workflow => s!"workflow {workflow} did not run for a release tag"
  | .stated text => text

inductive ClaimDefect
  | predicateType (found : String)
  | noRegisters
  | stated (text : String)
deriving DecidableEq, Repr

def ClaimDefect.message : ClaimDefect → String
  | .predicateType found => s!"unsupported predicate type {found}"
  | .noRegisters => "predicate has no PCR values"
  | .stated text => text

end EnclaveProvenance
