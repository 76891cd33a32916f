import EnclaveProvenance.Config
import EnclaveProvenance.Retrieval.Http
import EnclaveProvenance.Retrieval.Release

/-!
Where bundles, releases and attestation documents are retrieved from. Nothing of what is retrieved is
trusted until a verifier accepts it.
-/

namespace EnclaveProvenance.Retrieval

open Json (record? string? elements?)

structure Source where
  network : Network
  apiUrl : String
  attestationPath : String

structure Release where
  tag : String
  digest : String
deriving DecidableEq, Repr

/-- The text of a JSON value, which has to be valid UTF-8. -/
def rawValue? (value : Bytes) : Option Bytes := if (Bytes.text? value).isSome then some value else none

def attestation? : Bytes → Option Bytes :=
  record? ["bundle"] fun fields => fields.required "bundle" rawValue?

def attestations? : Bytes → Option (List Bytes) :=
  record? ["attestations"] fun fields => fields.required "attestations" (Json.list? attestation?)

def firstBundle (body : Bytes) : Except AnswerDefect Bytes :=
  match (Json.document? body).bind attestations? with
  | none => .error .response
  | some [] => .error .noAttestations
  | some (bundle :: _) => .ok bundle

def notes? : Bytes → Option (String × Option String) :=
  record? ["tag_name", "body"] fun fields => do
    return (← fields.required "tag_name" string?, ← fields.optional "body" string?)

def releaseOf (body : Bytes) : Except AnswerDefect Release :=
  match (Json.document? body).bind notes? with
  | none => .error .release
  | some (tag, notes) =>
    match notes.bind fun text => announcedDigest? text.toList with
    | some digest => .ok ⟨tag, digest⟩
    | none => .error (.noDigest tag)

namespace Source

def ofConfig (network : Network) (config : Config) : Source :=
  ⟨network, Text.dropTrailing '/' config.apiUrl, config.attestationPath⟩

def bundleUrl (source : Source) (repository digest : String) : String :=
  s!"{source.apiUrl}/repos/{repository}/attestations/sha256:{digest}"

def releaseUrl (source : Source) (repository : String) : String :=
  s!"{source.apiUrl}/repos/{repository}/releases/latest"

def documentUrl (source : Source) (domain : String) : String :=
  "https://" ++ Text.dropTrailing '/' domain ++ source.attestationPath

def bundle (source : Source) (repository digest : String) : Except Fault Bytes := do
  let body ← get source.network (source.bundleUrl repository digest)
  (firstBundle body).mapError .answer

def document (source : Source) (domain : String) : Except Fault Bytes :=
  get source.network (source.documentUrl domain)

def latestRelease (source : Source) (repository : String) : Except Fault Release := do
  let body ← get source.network (source.releaseUrl repository)
  (releaseOf body).mapError .answer

end Source

/-- Retrieves both inputs and verifies them; what cannot be retrieved fails its own side only. -/
def verifyRemote (orchestrator : Orchestrator) (source : Source) (clock : Nat)
    (repository digest domain : String) : Report :=
  orchestrator.run clock digest repository (source.bundle repository digest)
    (source.document domain)

end EnclaveProvenance.Retrieval
