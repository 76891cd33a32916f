import EnclaveProvenance.Transparency.Identity
import EnclaveProvenance.Transparency.LogEntry
import EnclaveProvenance.Transparency.Sct
import EnclaveProvenance.Transparency.Statement

/-!
Verification of a bundle against trust anchors and an identity policy, without any network: the log
entry, the signing certificate at the time of the entry, its timestamps, its identity, the
signature of the envelope, and last what the statement says.
-/

namespace EnclaveProvenance

def inTotoPayloadType : String := "application/vnd.in-toto+json"

/-- What an envelope's signature covers: a name, the type and the payload, the latter two after
their lengths in decimal. -/
def preAuthenticationEncoding (payloadType : String) (payload : Bytes) : Bytes :=
  let typeBytes := Bytes.ofText payloadType
  Bytes.ofText "DSSEv1 " ++ Bytes.ofText (toString typeBytes.length) ++ [0x20] ++ typeBytes ++
    [0x20] ++ Bytes.ofText (toString payload.length) ++ [0x20] ++ payload

def normalizeDigest (digest : String) : Except Fault String :=
  let octets := Bytes.ofText digest
  if octets.length = 64 ∧ octets.all Hex.isDigit then .ok (Text.lowercase digest)
  else .error (.identityMismatch (.digest digest))

structure TransparencyVerifier where
  root : TrustedRoot
  policy : IdentityPolicy
  sctThreshold : Nat
deriving DecidableEq, Repr

namespace TransparencyVerifier

def standard (root : TrustedRoot) : TransparencyVerifier := ⟨root, .standard, 1⟩

/-- The issuer under the first authority in force that a leaf chains to; the failure under the last
one counts if there is none. -/
def findIssuer (leaf : Certificate) (time : Nat) (last : SignerDefect) :
    List CertificateAuthority → Except Fault Certificate
  | [] => .error (.untrustedSigner last)
  | authority :: rest =>
    match authority.chain with
    | [] => findIssuer leaf time last rest
    | issuer :: _ =>
      if authority.validity.contains time then
        match Certificate.checkChain (leaf :: authority.chain) time with
        | .ok () => .ok issuer
        | .error error => findIssuer leaf time (.certificate error) rest
      else findIssuer leaf time last rest

def validateChain (verifier : TransparencyVerifier) (leaf : Certificate) (time : Int) :
    Except Fault Certificate :=
  if time < 0 then .error (.malformedBundle (.negativeTime time))
  else findIssuer leaf time.toNat (.noAuthority time) verifier.root.authorities

/-- A signature that starts like a DER sequence is read as one. -/
def envelopeEncoding (signature : Bytes) : SignatureEncoding :=
  if signature.head? = some Der.sequenceTag then .der else .fixed

def checkEnvelope (leaf : Certificate) (payloadType : String) (payload : Bytes)
    (signatures : List Bytes) : Except Fault Unit := do
  let key ← leaf.publicKey.mapError fun error => .untrustedSigner (.certificate error)
  let signed := preAuthenticationEncoding payloadType payload
  let verified := signatures.any fun signature =>
    key.verify key.defaultHash signed signature (envelopeEncoding signature)
  if verified = false then throw (.signatureInvalid .envelope)

def readClaims (digest payloadType : String) (payload : Bytes) : Except Fault MeasurementSet := do
  if payloadType ≠ inTotoPayloadType then throw (.malformedBundle (.payloadType payloadType))
  let some statement := Statement.read? payload | throw (.malformedBundle .statement)
  let set ← statement.measurements
  if statement.attests digest = false then throw (.identityMismatch (.unattested digest))
  return set

/-- The registers that a bundle claims for what has a digest and was built from a repository. -/
def verify (verifier : TransparencyVerifier) (digest : String) (bundleBytes : Bytes)
    (repository : String) : Except Fault MeasurementSet := do
  let digest ← normalizeDigest digest
  let bundle ← (Bundle.read bundleBytes).mapError .malformedBundle
  let payload ← bundle.payloadBytes.mapError .malformedBundle
  let signatures ← bundle.signatureBytes.mapError .malformedBundle
  let entry ← LogEntry.verifyAny bundle.entries verifier.root payload signatures
  let leafBytes ← bundle.signingCertificate.mapError .malformedBundle
  let leaf ← (Certificate.ofDer leafBytes).mapError fun error =>
    .malformedBundle (.certificate error)
  let issuer ← verifier.validateChain leaf entry.integratedTime
  Sct.verifyAll leaf issuer verifier.root verifier.sctThreshold
  verifier.policy.check (.ofCertificate leaf) repository
  checkEnvelope leaf bundle.payloadType payload signatures
  readClaims digest bundle.payloadType payload

end TransparencyVerifier

end EnclaveProvenance
