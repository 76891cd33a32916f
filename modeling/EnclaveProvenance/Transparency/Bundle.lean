import EnclaveProvenance.Base64
import EnclaveProvenance.Fault
import EnclaveProvenance.Json.Record

/-!
Sigstore bundles as they are written: what is encoded in base64 or as a decimal number is kept as
text until it is asked for.
-/

namespace EnclaveProvenance

structure LogEntry where
  logIndex : String
  logId : String
  kind : String
  version : String
  integratedTime : String
  promise : Option String
  body : String
deriving DecidableEq, Repr

structure EnvelopeSignature where
  signature : String
  keyId : String
deriving DecidableEq, Repr

structure Bundle where
  mediaType : String
  certificate : Option String
  /-- Certificates of a chain, the signing certificate first. -/
  chain : Option (List String)
  entries : List LogEntry
  payload : String
  payloadType : String
  signatures : List EnvelopeSignature
deriving DecidableEq, Repr

def decodeField (field text : String) : Except BundleDefect Bytes :=
  match Base64.decode text with
  | some bytes => .ok bytes
  | none => .error (.notBase64 field)

open Json (record? string? list?)

def textField? (name : String) : Bytes → Option String :=
  record? [name] fun fields => fields.required name string?

namespace LogEntry

def kindVersion? : Bytes → Option (String × String) :=
  record? ["kind", "version"] fun fields => do
    return (← fields.required "kind" string?, ← fields.required "version" string?)

def ofJson? : Bytes → Option LogEntry :=
  record? ["logIndex", "logId", "kindVersion", "integratedTime", "inclusionPromise",
      "canonicalizedBody"] fun fields => do
    let (kind, version) ← fields.required "kindVersion" kindVersion?
    return {
      logIndex := ← fields.required "logIndex" string?
      logId := ← fields.required "logId" (textField? "keyId")
      kind := kind
      version := version
      integratedTime := ← fields.required "integratedTime" string?
      promise := ← fields.optional "inclusionPromise" (textField? "signedEntryTimestamp")
      body := ← fields.required "canonicalizedBody" string? }

end LogEntry

def EnvelopeSignature.ofJson? : Bytes → Option EnvelopeSignature :=
  record? ["sig", "keyid"] fun fields => do
    return ⟨← fields.required "sig" string?, ← fields.defaulted "keyid" "" string?⟩

namespace Bundle

structure Material where
  certificate : Option String
  chain : Option (List String)
  entries : List LogEntry

def chain? : Bytes → Option (List String) :=
  record? ["certificates"] fun fields => fields.required "certificates" (list? (textField? "rawBytes"))

def material? : Bytes → Option Material :=
  record? ["certificate", "x509CertificateChain", "tlogEntries"] fun fields => do
    return ⟨← fields.optional "certificate" (textField? "rawBytes"),
      ← fields.optional "x509CertificateChain" chain?,
      ← fields.required "tlogEntries" (list? LogEntry.ofJson?)⟩

structure Envelope where
  payload : String
  payloadType : String
  signatures : List EnvelopeSignature

def envelope? : Bytes → Option Envelope :=
  record? ["payload", "payloadType", "signatures"] fun fields => do
    return ⟨← fields.required "payload" string?, ← fields.required "payloadType" string?,
      ← fields.required "signatures" (list? EnvelopeSignature.ofJson?)⟩

def ofJson? : Bytes → Option Bundle :=
  record? ["mediaType", "verificationMaterial", "dsseEnvelope"] fun fields => do
    let mediaType ← fields.required "mediaType" string?
    let material ← fields.required "verificationMaterial" material?
    let envelope ← fields.required "dsseEnvelope" envelope?
    return {
      mediaType := mediaType
      certificate := material.certificate
      chain := material.chain
      entries := material.entries
      payload := envelope.payload
      payloadType := envelope.payloadType
      signatures := envelope.signatures }

def mediaTypeLead : String := "application/vnd.dev.sigstore.bundle"

def read (text : Bytes) : Except BundleDefect Bundle :=
  match (Json.document? text).bind ofJson? with
  | none => .error .undecodable
  | some bundle =>
    if Text.startsWith bundle.mediaType mediaTypeLead = false then
      .error (.mediaType bundle.mediaType)
    else if bundle.signatures.isEmpty then .error .noSignatures
    else .ok bundle

def payloadBytes (bundle : Bundle) : Except BundleDefect Bytes :=
  decodeField "DSSE payload" bundle.payload

def signatureBytes (bundle : Bundle) : Except BundleDefect (List Bytes) :=
  bundle.signatures.mapM fun entry => decodeField "DSSE signature" entry.signature

/-- The signing certificate; one that is given alone comes before a chain. -/
def signingCertificate (bundle : Bundle) : Except BundleDefect Bytes :=
  match bundle.certificate, bundle.chain with
  | some text, _ => decodeField "certificate" text
  | none, some (text :: _) => decodeField "certificate" text
  | none, some [] => .error .emptyChain
  | none, none => .error .noCertificate

end Bundle

end EnclaveProvenance
