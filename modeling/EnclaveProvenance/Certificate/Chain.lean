import EnclaveProvenance.Certificate.Constraints

/-!
Validation of certificate chains, leaf first and trust anchor last.
-/

namespace EnclaveProvenance.Certificate

def checkValidity (certificate : Certificate) (instant : Nat) : Except CertificateError Unit :=
  let notBefore := certificate.tbs.notBefore.seconds
  let notAfter := certificate.tbs.notAfter.seconds
  if instant < notBefore ∨ notAfter < instant then
    .error (.notValidAt certificate.subject instant notBefore notAfter)
  else .ok ()

def signatureHashes : List (Der.ObjectIdentifier × HashAlgorithm) := [
  (.ofArcs [1, 2, 840, 10045, 4, 3, 2], .sha256),
  (.ofArcs [1, 2, 840, 10045, 4, 3, 3], .sha384)]

def checkIssuedBy (certificate issuer : Certificate) : Except CertificateError Unit := do
  if certificate.tbs.issuer ≠ issuer.tbs.subject then
    throw (.issuerMismatch certificate.subject issuer.subject)
  let some hash := signatureHashes.lookup certificate.algorithm.oid
    | throw (.unsupportedAlgorithm certificate.algorithm.oid)
  let some signature := certificate.signature.octets? | throw (.badSignature .unaligned)
  let key ← issuer.publicKey
  let signed ← certificate.signedBytes
  if key.verify hash signed signature .der then return ()
  throw (.badSignature (.link certificate.subject))

/-- Checks that a certificate may issue below `depth` other authorities. -/
def checkAuthority (issuer : Certificate) (depth : Nat) : Except CertificateError Unit :=
  match issuer.basicConstraints? with
  | none => .error (.notAuthority issuer.subject)
  | some constraints =>
    if constraints.authority then
      match constraints.pathLength with
      | none => .ok ()
      | some limit => if limit < depth then .error (.pathTooLong issuer.subject) else .ok ()
    else .error (.notAuthority issuer.subject)

/-- Checks each link of a chain; `depth` authorities stand between its head and the leaf. -/
def checkLinks : Nat → List Certificate → Except CertificateError Unit
  | depth, certificate :: issuer :: rest => do
    issuer.checkAuthority depth
    certificate.checkIssuedBy issuer
    checkLinks (depth + 1) (issuer :: rest)
  | _, _ => .ok ()

def checkAllValid (instant : Nat) : List Certificate → Except CertificateError Unit
  | [] => .ok ()
  | certificate :: rest => do
    certificate.checkValidity instant
    checkAllValid instant rest

/-- Every certificate, the anchor included, is valid at the instant, and each is issued by the
next. -/
def checkChain (chain : List Certificate) (instant : Nat) : Except CertificateError Unit := do
  checkAllValid instant chain
  checkLinks 0 chain

end EnclaveProvenance.Certificate
