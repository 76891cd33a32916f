import EnclaveProvenance.Attestation.Envelope
import EnclaveProvenance.Attestation.Payload
import EnclaveProvenance.Certificate.Chain
import EnclaveProvenance.Cose.Sign1
import EnclaveProvenance.Fault

/-!
Verification of attestation documents against one root certificate: the form of the document, the
chain of its certificate, and its signature.
-/

namespace EnclaveProvenance

def awsNitroRootPem : String := "-----BEGIN CERTIFICATE-----
MIICETCCAZagAwIBAgIRAPkxdWgbkK/hHUbMtOTn+FYwCgYIKoZIzj0EAwMwSTEL
MAkGA1UEBhMCVVMxDzANBgNVBAoMBkFtYXpvbjEMMAoGA1UECwwDQVdTMRswGQYD
VQQDDBJhd3Mubml0cm8tZW5jbGF2ZXMwHhcNMTkxMDI4MTMyODA1WhcNNDkxMDI4
MTQyODA1WjBJMQswCQYDVQQGEwJVUzEPMA0GA1UECgwGQW1hem9uMQwwCgYDVQQL
DANBV1MxGzAZBgNVBAMMEmF3cy5uaXRyby1lbmNsYXZlczB2MBAGByqGSM49AgEG
BSuBBAAiA2IABPwCVOumCMHzaHDimtqQvkY4MpJzbolL//Zy2YlES1BR5TSksfbb
48C8WBoyt7F2Bw7eEtaaP+ohG2bnUs990d0JX28TcPQXCEPZ3BABIeTPYwEoCWZE
h8l5YoQwTcU/9KNCMEAwDwYDVR0TAQH/BAUwAwEB/zAdBgNVHQ4EFgQUkCW1DdkF
R+eWw5b6cp3PmanfS5YwDgYDVR0PAQH/BAQDAgGGMAoGCCqGSM49BAMDA2kAMGYC
MQCjfy+Rocm9Xue4YnwWmNJVA44fA0P5W2OpYow9OYCVRaEevL8uO1XYru5xtMPW
rfMCMQCi85sWBbJwKKXdS6BptQFuZbT73o/gBh1qUxl/nNr12UO8Yfwr6wPLb+6N
IwLz3/Y=
-----END CERTIFICATE-----
"

inductive ValidationTime
  | now
  | documentTimestamp
  | fixed (seconds : Nat)
deriving DecidableEq, Repr

structure VerifiedDocument where
  moduleId : String
  timestamp : Nat
  measurements : MeasurementSet
  publicKey : Option Bytes
  userData : Option Bytes
  nonce : Option Bytes
deriving DecidableEq

structure HardwareVerifier where
  root : Certificate
  validationTime : ValidationTime
deriving DecidableEq

namespace HardwareVerifier

open Attestation (Payload)

def ofPem (text : Bytes) (validationTime : ValidationTime) : Except Fault HardwareVerifier :=
  match Certificate.ofPem text with
  | .ok root => .ok ⟨root, validationTime⟩
  | .error error => .error (.config (.nitroRoot error))

def instant (verifier : HardwareVerifier) (clock : Nat) (payload : Payload) : Nat :=
  match verifier.validationTime with
  | .now => clock
  | .documentTimestamp => payload.timestamp / 1000
  | .fixed seconds => seconds

def readCertificate (der : Bytes) : Except Fault Certificate :=
  (Certificate.ofDer der).mapError fun error => .malformedDocument (.certificate error)

def untrusted (error : CertificateError) : Fault := .untrustedSigner (.attestation error)

/-- Checks the chain of a payload and returns its leaf. The root in the payload is left out in favour
of the one that is trusted. -/
def validateChain (verifier : HardwareVerifier) (clock : Nat) (payload : Payload) :
    Except Fault Certificate := do
  let leaf ← readCertificate payload.certificate
  let authorities ← (payload.authorities.drop 1).reverse.mapM readCertificate
  (Certificate.checkChain (leaf :: authorities ++ [verifier.root])
    (verifier.instant clock payload)).mapError untrusted
  return leaf

def readMessage (document : Bytes) : Except DocumentDefect (Cose.Sign1 × Bytes × Payload) := do
  let text ← Attestation.unwrap document
  let some message := Cose.Sign1.read? text | throw .notSign1
  match message.protectedHeader.algorithm? with
  | none => throw (.algorithm "None")
  | some algorithm =>
    if algorithm ≠ .es384 then throw (.algorithm s!"Some({algorithm.render})")
    let some octets := message.payload | throw .noPayload
    return (message, octets, ← Payload.ofBytes octets)

def signatureLength : Nat := 96

def checkSignature (leaf : Certificate) (message : Cose.Sign1) (octets : Bytes) :
    Except Fault Unit := do
  if message.signature.length ≠ signatureLength then
    throw (.signatureInvalid (.documentLength message.signature.length))
  let key ← leaf.publicKey.mapError untrusted
  if key.verify .sha384 (message.signedBytes octets) message.signature .fixed then return ()
  throw (.signatureInvalid .document)

def verifyDocument (verifier : HardwareVerifier) (clock : Nat) (document : Bytes) :
    Except Fault VerifiedDocument := do
  let (message, octets, payload) ← (readMessage document).mapError .malformedDocument
  let leaf ← verifier.validateChain clock payload
  checkSignature leaf message octets
  return {
    moduleId := payload.moduleId
    timestamp := payload.timestamp
    measurements := payload.measurements
    publicKey := payload.publicKey
    userData := payload.userData
    nonce := payload.nonce }

def verify (verifier : HardwareVerifier) (clock : Nat) (document : Bytes) :
    Except Fault MeasurementSet :=
  (verifier.verifyDocument clock document).map VerifiedDocument.measurements

end HardwareVerifier

end EnclaveProvenance
