import EnclaveProvenance.Certificate.Chain
import EnclaveProvenance.Fault

/-!
The workflow identity that a signing certificate carries, and the policy it has to meet.
-/

namespace EnclaveProvenance

structure CertificateIdentity where
  issuer : Option String
  sourceRepositoryUri : Option String
  workflowRepository : Option String
  buildSignerUri : Option String
  alternativeUris : List String
deriving DecidableEq, Repr

namespace CertificateIdentity

def githubUrl : String := "https://github.com/"

def extensionOid (number : Nat) : Der.ObjectIdentifier :=
  .ofArcs [1, 3, 6, 1, 4, 1, 57264, 1, number]

/-- An extension of the older form, which holds the text itself. -/
def rawText? (certificate : Certificate) (number : Nat) : Option String :=
  (certificate.extension? (extensionOid number)).bind Bytes.text?

def derText? (certificate : Certificate) (number : Nat) : Option String :=
  (certificate.extension? (extensionOid number)).bind fun value =>
    (Der.onlyElement? value).bind fun element =>
      (element.contentOf? Der.utf8StringTag).bind Bytes.text?

def ofCertificate (certificate : Certificate) : CertificateIdentity where
  issuer := (derText? certificate 8).or (rawText? certificate 1)
  sourceRepositoryUri := derText? certificate 12
  workflowRepository := rawText? certificate 5
  buildSignerUri := derText? certificate 9
  alternativeUris := certificate.alternativeUris

def repository? (identity : CertificateIdentity) : Option String :=
  (identity.sourceRepositoryUri.bind (Text.after? githubUrl)).or identity.workflowRepository

end CertificateIdentity

structure IdentityPolicy where
  issuer : String
  requireReleaseTag : Bool
deriving DecidableEq, Repr

namespace IdentityPolicy

def githubActionsIssuer : String := "https://token.actions.githubusercontent.com"

def standard : IdentityPolicy := ⟨githubActionsIssuer, true⟩

def isRepositoryName (text : String) : Bool :=
  match Text.parts '/' text.toList with
  | [owner, name] => !owner.isEmpty && !name.isEmpty
  | _ => false

def workflowLead (repository : String) : String :=
  CertificateIdentity.githubUrl ++ repository ++ "/.github/workflows/"

/-- The first workflow of a repository that an identity names. -/
def workflow? (identity : CertificateIdentity) (repository : String) : Option String :=
  (identity.alternativeUris ++ identity.buildSignerUri.toList).find? fun uri =>
    Text.startsWith uri (workflowLead repository)

def releaseMark : String := "@refs/tags/"

def check (policy : IdentityPolicy) (identity : CertificateIdentity) (expected : String) :
    Except Fault Unit := do
  let some issuer := identity.issuer | throw (.untrustedSigner .noIssuer)
  if issuer ≠ policy.issuer then throw (.untrustedSigner (.issuer issuer policy.issuer))
  if isRepositoryName expected = false then throw (.identityMismatch (.notRepository expected))
  let some repository := identity.repository? | throw (.identityMismatch .noRepository)
  if repository ≠ expected then throw (.identityMismatch (.repository repository expected))
  let some workflow := workflow? identity expected
    | throw (.identityMismatch (.noWorkflow (workflowLead expected)))
  if policy.requireReleaseTag ∧ Text.contains workflow releaseMark = false then
    throw (.identityMismatch (.notRelease workflow))

end IdentityPolicy

end EnclaveProvenance
