import EnclaveProvenance.Json.Writer
import EnclaveProvenance.Transparency.TrustedRoot

/-!
Verification of transparency log entries. An entry is accepted for the log's signature over it,
which makes the time of its integration trustworthy.
-/

namespace EnclaveProvenance

structure VerifiedEntry where
  logIndex : Int
  integratedTime : Int
deriving DecidableEq, Repr

namespace LogEntry

def integer (field text : String) : Except Fault Int :=
  match Text.integer? text with
  | some value =>
    if Int64.minValue.toInt ≤ value ∧ value ≤ Int64.maxValue.toInt then .ok value
    else .error (.malformedBundle (.notInteger field text))
  | none => .error (.malformedBundle (.notInteger field text))

def decode (field text : String) : Except Fault Bytes :=
  (decodeField field text).mapError .malformedBundle

def signedText (body : String) (time : Int) (logId : Bytes) (index : Int) : String :=
  "\x7b\"body\":" ++ Json.quoteText body ++ ",\"integratedTime\":" ++ toString time ++
    ",\"logID\":" ++ Json.quoteText (Hex.encode logId) ++ ",\"logIndex\":" ++ toString index ++ "\x7d"

def textAt (value : Json.Value) (key : String) : String :=
  ((value.member? key).bind Json.Value.text?).getD ""

def hashPath? (kind : String) : Option (List String) :=
  if kind = "dsse" then some ["spec", "payloadHash"]
  else if kind = "intoto" then some ["spec", "content", "payloadHash"]
  else none

def loggedSignatures (listed : List Json.Value) : List Bytes :=
  listed.filterMap fun value =>
    ((value.member? "signature").bind Json.Value.text?).bind Base64.decode

/-- Checks that a logged body describes an envelope: the hash of its payload and, for the kind
`dsse`, one of its signatures. -/
def checkBodyValue (declared : String) (body : Json.Value) (payload : Bytes)
    (signatures : List Bytes) : Except BodyMismatch Unit := do
  let kind := textAt body "kind"
  if kind ≠ declared then throw (.kind kind declared)
  let some path := hashPath? kind | throw (.unsupportedKind kind)
  let some hash := body.follow? path | throw .noHash
  if textAt hash "algorithm" ≠ "sha256" ∨
      Text.lowercase (textAt hash "value") ≠ Hex.encode (sha256 payload) then throw .hash
  if kind = "dsse" then
    let some listed := (body.follow? ["spec", "signatures"]).bind Json.Value.elements?
      | throw .noSignatures
    if (loggedSignatures listed).any signatures.contains = false then throw .signature

def checkBody (declared : String) (body payload : Bytes) (signatures : List Bytes) :
    Except Fault Unit :=
  match Json.Value.ofText? body with
  | none => .error (.malformedBundle .bodyNotJson)
  | some value =>
    (checkBodyValue declared value payload signatures).mapError fun mismatch =>
      .untrustedSigner (.body mismatch)

def verify (entry : LogEntry) (root : TrustedRoot) (payload : Bytes) (signatures : List Bytes) :
    Except Fault VerifiedEntry := do
  let index ← integer "logIndex" entry.logIndex
  let time ← integer "integratedTime" entry.integratedTime
  let logId ← decode "logId" entry.logId
  let body ← decode "canonicalizedBody" entry.body
  let some log := root.entryLog? logId | throw (.untrustedSigner (.unknownLog logId))
  if log.validity.contains time = false then
    throw (.untrustedSigner (.outsideLogValidity index time))
  let some promise := entry.promise | throw (.untrustedSigner (.noPromise index))
  let promised ← decode "signedEntryTimestamp" promise
  let signed := signedText (Base64.encode body) time logId index
  if log.key.verify .sha256 (Bytes.ofText signed) promised .der = false then
    throw (.untrustedSigner (.promise index))
  checkBody entry.kind body payload signatures
  return ⟨index, time⟩

/-- The first entry that verifies; if none does, the failure of the first counts. -/
def verifyAny (entries : List LogEntry) (root : TrustedRoot) (payload : Bytes)
    (signatures : List Bytes) : Except Fault VerifiedEntry :=
  match entries with
  | [] => .error (.untrustedSigner .noEntries)
  | entry :: rest =>
    match entry.verify root payload signatures with
    | .ok verified => .ok verified
    | .error first =>
      match rest.findSome? fun later => (later.verify root payload signatures).toOption with
      | some verified => .ok verified
      | none => .error first

end LogEntry

end EnclaveProvenance
