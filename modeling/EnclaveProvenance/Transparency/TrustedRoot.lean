import EnclaveProvenance.Calendar.InternetTime
import EnclaveProvenance.Certificate.Chain
import EnclaveProvenance.Transparency.Bundle

/-!
Trust anchors of the transparency side: certificate authorities, entry logs and certificate logs,
each with the period during which it is in force.
-/

namespace EnclaveProvenance

/-- From `start` on and before `stop`, in seconds since the start of 1970. -/
structure ValidityPeriod where
  start : Int
  stop : Option Int
deriving DecidableEq, Repr

def ValidityPeriod.contains (period : ValidityPeriod) (instant : Int) : Bool :=
  period.start ≤ instant && period.stop.all (instant < ·)

/-- The chain runs from the certificate that issues leaves to the root. -/
structure CertificateAuthority where
  uri : String
  chain : List Certificate
  validity : ValidityPeriod
deriving DecidableEq, Repr

structure TransparencyLog where
  baseUrl : String
  logId : Bytes
  key : PublicKey
  validity : ValidityPeriod
deriving DecidableEq, Repr

structure TrustedRoot where
  authorities : List CertificateAuthority
  entryLogs : List TransparencyLog
  certificateLogs : List TransparencyLog
deriving DecidableEq, Repr

open Json (record? string? list?)

def instant? (value : Bytes) : Option Int :=
  (string? value).bind fun text => Calendar.readInstant? text.toList

def ValidityPeriod.ofJson? : Bytes → Option ValidityPeriod :=
  record? ["start", "end"] fun fields => do
    return ⟨← fields.required "start" instant?, ← fields.optional "end" instant?⟩

namespace TrustedRoot

structure LogRecord where
  baseUrl : String
  key : Option String
  validity : ValidityPeriod
  logId : String

def logKey? : Bytes → Option (Option String × ValidityPeriod) :=
  record? ["rawBytes", "validFor"] fun fields => do
    return (← fields.optional "rawBytes" string?, ← fields.required "validFor" ValidityPeriod.ofJson?)

def LogRecord.ofJson? : Bytes → Option LogRecord :=
  record? ["baseUrl", "publicKey", "logId"] fun fields => do
    let baseUrl ← fields.required "baseUrl" string?
    let (key, validity) ← fields.required "publicKey" logKey?
    let logId ← fields.required "logId" (textField? "keyId")
    return ⟨baseUrl, key, validity, logId⟩

structure AuthorityRecord where
  uri : String
  certificates : List String
  validity : ValidityPeriod

def AuthorityRecord.ofJson? : Bytes → Option AuthorityRecord :=
  record? ["uri", "certChain", "validFor"] fun fields => do
    return ⟨← fields.required "uri" string?, ← fields.required "certChain" Bundle.chain?,
      ← fields.required "validFor" ValidityPeriod.ofJson?⟩

structure RootRecord where
  mediaType : String
  entryLogs : List LogRecord
  authorities : List AuthorityRecord
  certificateLogs : List LogRecord

def RootRecord.ofJson? : Bytes → Option RootRecord :=
  record? ["mediaType", "tlogs", "certificateAuthorities", "ctlogs"] fun fields => do
    return ⟨← fields.required "mediaType" string?,
      ← fields.defaulted "tlogs" [] (list? LogRecord.ofJson?),
      ← fields.defaulted "certificateAuthorities" [] (list? AuthorityRecord.ofJson?),
      ← fields.defaulted "ctlogs" [] (list? LogRecord.ofJson?)⟩

def decodeText (field text : String) : Except TrustedRootDefect Bytes :=
  match Base64.decode text with
  | some bytes => .ok bytes
  | none => .error (.notBase64 field)

def certificate (authority text : String) : Except TrustedRootDefect Certificate := do
  let der ← decodeText "CA certificate" text
  (Certificate.ofDer der).mapError (.certificate authority)

def authority (given : AuthorityRecord) : Except TrustedRootDefect CertificateAuthority := do
  let chain ← given.certificates.mapM (certificate given.uri)
  if chain.isEmpty then throw (.emptyChain given.uri)
  return ⟨given.uri, chain, given.validity⟩

/-- Nothing for a log without a key or with a key of an unsupported kind. -/
def usableLog (given : LogRecord) : Except TrustedRootDefect (Option TransparencyLog) := do
  let some text := given.key | return none
  let keyBytes ← decodeText "log key" text
  let some info := KeyInfo.ofDer? keyBytes | return none
  let .ok key := info.publicKey | return none
  let logId ← decodeText "log id" given.logId
  return some ⟨given.baseUrl, logId, key, given.validity⟩

def usableLogs (given : List LogRecord) : Except TrustedRootDefect (List TransparencyLog) := do
  let logs ← given.mapM usableLog
  return logs.filterMap id

def mediaTypeLead : String := "application/vnd.dev.sigstore.trustedroot"

def ofRecord (given : RootRecord) : Except TrustedRootDefect TrustedRoot := do
  if Text.startsWith given.mediaType mediaTypeLead = false then throw (.mediaType given.mediaType)
  let authorities ← given.authorities.mapM authority
  let entryLogs ← usableLogs given.entryLogs
  let certificateLogs ← usableLogs given.certificateLogs
  if authorities.isEmpty then throw .noAuthorities
  if entryLogs.isEmpty then throw .noLogs
  return ⟨authorities, entryLogs, certificateLogs⟩

def readDefect (text : Bytes) : Except TrustedRootDefect TrustedRoot :=
  match (Json.document? text).bind RootRecord.ofJson? with
  | none => .error .undecodable
  | some given => ofRecord given

def read (text : Bytes) : Except Fault TrustedRoot :=
  (readDefect text).mapError fun defect => .config (.trustedRoot defect)

def entryLog? (root : TrustedRoot) (logId : Bytes) : Option TransparencyLog :=
  root.entryLogs.find? (·.logId == logId)

def certificateLog? (root : TrustedRoot) (logId : Bytes) : Option TransparencyLog :=
  root.certificateLogs.find? (·.logId == logId)

end TrustedRoot

end EnclaveProvenance
