import EnclaveProvenance.Proofs.Json.Readers
import EnclaveProvenance.Transparency.Bundle
import EnclaveProvenance.Transparency.Statement

/-!
Bundles and statements written as JSON: they are read as what they were written from.
-/

namespace EnclaveProvenance

open Json

def fieldText (name text : String) : Bytes := objectText [(name, quoted text)]

theorem reads_fieldText (name : String) {text : String} (plainName : PlainText name) (plain : PlainText text) :
    Reads (textField? name) (fieldText name text) text := by
  refine reads_record (areMembers_cons plainName (isValue_quoted plain) areMembers_nil) (by simp) ?_
  simp [Fields.required, Fields.find?, string?_quoted plain]

def optionalMember {α : Type} (name : String) (write : α → Bytes) : Option α → List (String × Bytes)
  | some content => [(name, write content)]
  | none => []

theorem areMembers_optionalMember {α : Type} {name : String} {write : α → Bytes} {given : Option α}
    (plain : PlainText name) (isValue : ∀ content, given = some content → IsValue (write content)) :
    AreMembers (optionalMember name write given) := by
  cases given with
  | none => exact areMembers_nil
  | some content => exact areMembers_cons plain (isValue content rfl) areMembers_nil

theorem areMembers_append {one other : List (String × Bytes)} (first : AreMembers one)
    (second : AreMembers other) : AreMembers (one ++ other) := by
  intro member belongs
  rcases List.mem_append.1 belongs with early | late
  · exact first member early
  · exact second member late

namespace LogEntry

structure Plain (entry : LogEntry) : Prop where
  logIndex : PlainText entry.logIndex
  logId : PlainText entry.logId
  kind : PlainText entry.kind
  version : PlainText entry.version
  integratedTime : PlainText entry.integratedTime
  promise : ∀ text, entry.promise = some text → PlainText text
  body : PlainText entry.body

def kindText (entry : LogEntry) : Bytes :=
  objectText [("kind", quoted entry.kind), ("version", quoted entry.version)]

def written (entry : LogEntry) : Bytes :=
  objectText (("logIndex", quoted entry.logIndex) :: ("logId", fieldText "keyId" entry.logId) ::
    ("kindVersion", entry.kindText) :: ("integratedTime", quoted entry.integratedTime) ::
    ("canonicalizedBody", quoted entry.body) ::
    optionalMember "inclusionPromise" (fieldText "signedEntryTimestamp") entry.promise)

theorem reads_kindText {entry : LogEntry} (plain : entry.Plain) :
    Reads kindVersion? entry.kindText (entry.kind, entry.version) := by
  refine reads_record (areMembers_cons (by decide) (isValue_quoted plain.kind)
    (areMembers_cons (by decide) (isValue_quoted plain.version) areMembers_nil)) (by simp) ?_
  simp [Fields.required, Fields.find?, string?_quoted plain.kind, string?_quoted plain.version]

theorem reads_written {entry : LogEntry} (plain : entry.Plain) :
    Reads ofJson? entry.written entry := by
  have logId := reads_fieldText "keyId" (by decide) plain.logId
  have kind := reads_kindText plain
  have promise (text : String) (given : entry.promise = some text) :=
    reads_fieldText "signedEntryTimestamp" (by decide) (plain.promise text given)
  refine reads_record ?_ ?_ ?_
  · refine areMembers_cons (by decide) (isValue_quoted plain.logIndex) ?_
    refine areMembers_cons (by decide) logId.isValue ?_
    refine areMembers_cons (by decide) kind.isValue ?_
    refine areMembers_cons (by decide) (isValue_quoted plain.integratedTime) ?_
    refine areMembers_cons (by decide) (isValue_quoted plain.body) ?_
    exact areMembers_optionalMember (by decide) fun text given => (promise text given).isValue
  · cases entry.promise <;> simp [optionalMember]
  · obtain ⟨logIndex, logIdText, kindName, version, time, given, body⟩ := entry
    cases given with
    | none =>
      simp [Fields.required, Fields.optional, Fields.find?, optionalMember, logId.read, kind.read,
        string?_quoted plain.logIndex, string?_quoted plain.integratedTime,
        string?_quoted plain.body]
    | some text =>
      have notNull : isNull (fieldText "signedEntryTimestamp" text) = false := isNull_cons (by decide)
      simp [Fields.required, Fields.optional, Fields.find?, optionalMember, logId.read, kind.read,
        string?_quoted plain.logIndex, string?_quoted plain.integratedTime,
        string?_quoted plain.body, notNull, (promise text rfl).read]

end LogEntry

namespace Bundle

structure Plain (bundle : Bundle) : Prop where
  mediaType : PlainText bundle.mediaType
  certificate : ∀ text, bundle.certificate = some text → PlainText text
  chain : ∀ texts, bundle.chain = some texts → ∀ text ∈ texts, PlainText text
  entries : ∀ entry ∈ bundle.entries, entry.Plain
  payload : PlainText bundle.payload
  payloadType : PlainText bundle.payloadType
  signatures : ∀ given ∈ bundle.signatures, PlainText given.signature ∧ PlainText given.keyId

def signatureText (given : EnvelopeSignature) : Bytes :=
  objectText [("sig", quoted given.signature), ("keyid", quoted given.keyId)]

def envelopeText (bundle : Bundle) : Bytes :=
  objectText [("payload", quoted bundle.payload), ("payloadType", quoted bundle.payloadType),
    ("signatures", listText (bundle.signatures.map signatureText))]

def chainText (texts : List String) : Bytes :=
  objectText [("certificates", listText (texts.map (fieldText "rawBytes")))]

def materialText (bundle : Bundle) : Bytes :=
  objectText (("tlogEntries", listText (bundle.entries.map LogEntry.written)) ::
    (optionalMember "certificate" (fieldText "rawBytes") bundle.certificate ++
      optionalMember "x509CertificateChain" chainText bundle.chain))

def written (bundle : Bundle) : Bytes :=
  objectText [("mediaType", quoted bundle.mediaType), ("verificationMaterial", bundle.materialText),
    ("dsseEnvelope", bundle.envelopeText)]

theorem reads_signatureText {given : EnvelopeSignature} (plainSignature : PlainText given.signature)
    (plainKeyId : PlainText given.keyId) :
    Reads EnvelopeSignature.ofJson? (signatureText given) given := by
  refine reads_record (areMembers_cons (by decide) (isValue_quoted plainSignature)
    (areMembers_cons (by decide) (isValue_quoted plainKeyId) areMembers_nil)) (by simp) ?_
  simp [Fields.required, Fields.defaulted, Fields.find?, string?_quoted plainSignature,
    string?_quoted plainKeyId]

theorem reads_envelopeText {bundle : Bundle} (plain : bundle.Plain) :
    Reads envelope? bundle.envelopeText
      ⟨bundle.payload, bundle.payloadType, bundle.signatures⟩ := by
  have signatures : Reads (list? EnvelopeSignature.ofJson?)
      (listText (bundle.signatures.map signatureText)) (bundle.signatures.map id) :=
    reads_listText fun given member =>
      reads_signatureText (plain.signatures given member).1 (plain.signatures given member).2
  rw [List.map_id] at signatures
  refine reads_record (areMembers_cons (by decide) (isValue_quoted plain.payload)
    (areMembers_cons (by decide) (isValue_quoted plain.payloadType)
      (areMembers_cons (by decide) signatures.isValue areMembers_nil))) (by simp) ?_
  simp [Fields.required, Fields.find?, string?_quoted plain.payload,
    string?_quoted plain.payloadType, signatures.read]

theorem reads_chainText {texts : List String} (plain : ∀ text ∈ texts, PlainText text) :
    Reads chain? (chainText texts) texts := by
  have certificates : Reads (list? (textField? "rawBytes"))
      (listText (texts.map (fieldText "rawBytes"))) (texts.map id) :=
    reads_listText fun text member => reads_fieldText _ (by decide) (plain text member)
  rw [List.map_id] at certificates
  refine reads_record (areMembers_cons (by decide) certificates.isValue areMembers_nil) (by simp) ?_
  simp [Fields.required, Fields.find?, certificates.read]

theorem reads_materialText {bundle : Bundle} (plain : bundle.Plain) :
    Reads material? bundle.materialText
      ⟨bundle.certificate, bundle.chain, bundle.entries⟩ := by
  have entries : Reads (list? LogEntry.ofJson?) (listText (bundle.entries.map LogEntry.written))
      (bundle.entries.map id) :=
    reads_listText fun entry member => LogEntry.reads_written (plain.entries entry member)
  rw [List.map_id] at entries
  have certificate (text : String) (given : bundle.certificate = some text) :=
    reads_fieldText "rawBytes" (by decide) (plain.certificate text given)
  have chain (texts : List String) (given : bundle.chain = some texts) :=
    reads_chainText (plain.chain texts given)
  refine reads_record ?_ ?_ ?_
  · refine areMembers_cons (by decide) entries.isValue (areMembers_append ?_ ?_)
    · exact areMembers_optionalMember (by decide) fun text given => (certificate text given).isValue
    · exact areMembers_optionalMember (by decide) fun texts given => (chain texts given).isValue
  · cases bundle.certificate <;> cases bundle.chain <;> simp [optionalMember]
  · have alone (text : String) : isNull (fieldText "rawBytes" text) = false :=
      isNull_cons (by decide)
    have several (texts : List String) : isNull (chainText texts) = false := isNull_cons (by decide)
    obtain ⟨_, givenCertificate, givenChain, _, _, _, _⟩ := bundle
    cases givenCertificate with
    | none =>
      cases givenChain with
      | none => simp [Fields.required, Fields.optional, Fields.find?, optionalMember, entries.read]
      | some texts =>
        simp [Fields.required, Fields.optional, Fields.find?, optionalMember, entries.read, several,
          (chain texts rfl).read]
    | some text =>
      cases givenChain with
      | none =>
        simp [Fields.required, Fields.optional, Fields.find?, optionalMember, entries.read, alone,
          (certificate text rfl).read]
      | some texts =>
        simp [Fields.required, Fields.optional, Fields.find?, optionalMember, entries.read, alone,
          several, (certificate text rfl).read, (chain texts rfl).read]

theorem reads_written {bundle : Bundle} (plain : bundle.Plain) :
    Reads ofJson? bundle.written bundle := by
  have material := reads_materialText plain
  have envelope := reads_envelopeText plain
  refine reads_record (areMembers_cons (by decide) (isValue_quoted plain.mediaType)
    (areMembers_cons (by decide) material.isValue
      (areMembers_cons (by decide) envelope.isValue areMembers_nil))) (by simp) ?_
  simp [Fields.required, Fields.find?, string?_quoted plain.mediaType, material.read, envelope.read]

/-- A bundle of a known media type with a signature is read as it was written. -/
theorem read_written {bundle : Bundle} (plain : bundle.Plain)
    (known : Text.startsWith bundle.mediaType mediaTypeLead = true)
    (signed : bundle.signatures ≠ []) : read bundle.written = .ok bundle := by
  have unsigned : bundle.signatures.isEmpty = false := by simpa using signed
  simp only [read, (reads_written plain).document, known, unsigned, Bool.true_eq_false,
    Bool.false_eq_true, if_false]

end Bundle

namespace Statement

def statementType : String := "https://in-toto.io/Statement/v1"

def writtenText (digest : String) (claims : List (String × String)) : Bytes :=
  objectText [("_type", quoted statementType),
    ("subject", listText [objectText [("name", quoted "image"),
      ("digest", objectText [("sha256", quoted digest)])]]),
    ("predicateType", quoted Predicate.awsNitroEnclaveV1.text),
    ("predicate", objectText (claims.map fun claim => (claim.1, quoted claim.2)))]

theorem reads_subject {digest : String} (plain : PlainText digest) :
    Reads subject? (objectText [("name", quoted "image"),
      ("digest", objectText [("sha256", quoted digest)])]) [("sha256", digest)] := by
  have members : AreMembers [("sha256", quoted digest)] :=
    areMembers_cons (by decide) (isValue_quoted plain) areMembers_nil
  have digests : textMap? (objectText [("sha256", quoted digest)]) = some [("sha256", digest)] := by
    rw [textMap?, members?_objectText members]
    simp [string?_quoted plain, string?_quoted (show PlainText "sha256" by decide)]
  refine reads_record (areMembers_cons (by decide) (isValue_quoted (by decide))
    (areMembers_cons (by decide) (isValue_objectText members) areMembers_nil)) (by simp) ?_
  simp [Fields.required, Fields.find?, digests, string?_quoted (show PlainText "image" by decide)]

theorem reads_predicate {claims : List (String × String)}
    (plain : ∀ claim ∈ claims, PlainText claim.1 ∧ PlainText claim.2)
    (distinct : (claims.map Prod.fst).Nodup) :
    Reads predicate? (objectText (claims.map fun claim => (claim.1, quoted claim.2)))
      (claims.map fun claim => (claim.1, .string claim.2)) := by
  have each : Value.MembersRead valueDepth (claims.map fun claim => (claim.1, quoted claim.2))
      (claims.map fun claim => (claim.1, .string claim.2)) := by
    clear distinct
    induction claims with
    | nil => exact .nil
    | cons claim rest ih =>
      have ⟨plainKey, plainText⟩ := plain claim (by simp)
      exact .cons plainKey (Value.reads_quoted plainText _)
        (ih fun other member => plain other (by simp [member]))
  refine ⟨isValue_objectText each.areMembers, ?_⟩
  rw [predicate?, members?_objectText each.areMembers, Option.bind_eq_bind, Option.bind_some]
  refine Option.bind_eq_some_iff.2 ⟨_, each.mapM_eq_some, if_pos ?_⟩
  rw [List.map_map]
  exact distinct

theorem read?_writtenText {digest : String} {claims : List (String × String)}
    (plainDigest : PlainText digest)
    (plain : ∀ claim ∈ claims, PlainText claim.1 ∧ PlainText claim.2)
    (distinct : (claims.map Prod.fst).Nodup) :
    read? (writtenText digest claims) = some {
      subjects := [[("sha256", digest)]]
      predicateType := Predicate.awsNitroEnclaveV1.text
      predicate := claims.map fun claim => (claim.1, .string claim.2) } := by
  have subjects : Reads (list? subject?)
      (listText ([digest].map fun given => objectText [("name", quoted "image"),
        ("digest", objectText [("sha256", quoted given)])]))
      ([digest].map fun given => [("sha256", given)]) := by
    refine reads_listText fun given member => ?_
    rw [List.mem_singleton] at member
    exact reads_subject (member ▸ plainDigest)
  rw [List.map_singleton, List.map_singleton] at subjects
  have predicate := reads_predicate plain distinct
  have known : PlainText Predicate.awsNitroEnclaveV1.text := by decide
  refine Reads.document (reads_record (areMembers_cons (by decide) (isValue_quoted (by decide))
    (areMembers_cons (by decide) subjects.isValue
      (areMembers_cons (by decide) (isValue_quoted known)
        (areMembers_cons (by decide) predicate.isValue areMembers_nil)))) (by simp) ?_)
  simp [Fields.required, Fields.find?, string?_quoted known, subjects.read, predicate.read,
    string?_quoted (show PlainText statementType by decide)]

end Statement

end EnclaveProvenance
