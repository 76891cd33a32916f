import EnclaveProvenance.Ecdsa

/-!
Why a certificate, a key or a chain is refused.
-/

namespace EnclaveProvenance

inductive KeyDefect
  | notElliptic (algorithm : Der.ObjectIdentifier)
  | missingCurve
  | invalidCurve
  | unaligned
  | invalidPoint (curve : CurveName)
  | unknownCurve (curve : Der.ObjectIdentifier)
deriving DecidableEq, Repr

def KeyDefect.message : KeyDefect → String
  | .notElliptic algorithm => s!"algorithm {algorithm.text} is not id-ecPublicKey"
  | .missingCurve => "missing curve parameter"
  | .invalidCurve => s!"invalid curve parameter: {Text.unstatedDetail}"
  | .unaligned => "public key is not octet aligned"
  | .invalidPoint curve => s!"invalid {curve.text} point: signature error"
  | .unknownCurve curve => s!"curve {curve.text}"

inductive SignatureDefect
  | unaligned
  | rejected
  | link (subject : String)
deriving DecidableEq, Repr

def SignatureDefect.message : SignatureDefect → String
  | .unaligned => "signature is not octet aligned"
  | .rejected => "signature error"
  | .link subject => s!"'{subject}': signature verification failed: signature error"

inductive CertificateError
  | malformed
  | invalidPem
  | unexpectedPemTag (tag : String)
  | unsupportedKey (defect : KeyDefect)
  | unsupportedAlgorithm (algorithm : Der.ObjectIdentifier)
  | issuerMismatch (subject issuer : String)
  | notAuthority (subject : String)
  | pathTooLong (subject : String)
  | notValidAt (subject : String) (instant notBefore notAfter : Nat)
  | badSignature (defect : SignatureDefect)
deriving DecidableEq, Repr

def CertificateError.message : CertificateError → String
  | .malformed => s!"failed to parse certificate: {Text.unstatedDetail}"
  | .invalidPem => s!"failed to parse certificate: invalid PEM: {Text.unstatedDetail}"
  | .unexpectedPemTag tag => s!"failed to parse certificate: unexpected PEM tag {tag}"
  | .unsupportedKey defect => s!"unsupported public key: {defect.message}"
  | .unsupportedAlgorithm algorithm => s!"unsupported signature algorithm {algorithm.text}"
  | .issuerMismatch subject issuer =>
    s!"issuer of '{subject}' does not match subject of '{issuer}'"
  | .notAuthority subject => s!"'{subject}' is not a certificate authority"
  | .pathTooLong subject => s!"path length constraint of '{subject}' exceeded"
  | .notValidAt subject instant notBefore notAfter =>
    s!"'{subject}' is not valid at {instant} (valid {notBefore}..{notAfter})"
  | .badSignature defect => s!"signature verification failed: {defect.message}"

end EnclaveProvenance
