import EnclaveProvenance.Proofs.Json.Embedded
import EnclaveProvenance.Proofs.Transparency.Acceptance
import EnclaveProvenance.Proofs.Transparency.Written

/-!
Which signature of an envelope a log entry is about. The entry lists one signature of the envelope
and the signing certificate's key verifies one; these are the same one for any entry there could be
just when the key verifies all of them.
-/

namespace EnclaveProvenance

open Checks

namespace LogEntry

open Json (Value objectText listText quoted)

def Lists (body signature : Bytes) : Prop :=
  ∃ value listed, Value.ofText? body = some value ∧
    (value.follow? ["spec", "signatures"]).bind Value.elements? = some listed ∧
    signature ∈ loggedSignatures listed

theorem checkBodyValue_dsse_iff {value : Value} {payload : Bytes} {signatures : List Bytes}
    {done : Unit} :
    checkBodyValue "dsse" value payload signatures = .ok done ↔
      textAt value "kind" = "dsse" ∧
      (∃ hash, value.follow? ["spec", "payloadHash"] = some hash ∧
        textAt hash "algorithm" = "sha256" ∧
        Text.lowercase (textAt hash "value") = Hex.encode (sha256 payload)) ∧
      ∃ listed, (value.follow? ["spec", "signatures"]).bind Value.elements? = some listed ∧
        ∃ signature ∈ signatures, signature ∈ loggedSignatures listed := by
  unfold checkBodyValue
  rw [refuse_eq_ok_iff, ne_eq, Decidable.not_not]
  refine and_congr_right fun kind => ?_
  rw [kind]
  simp only [hashPath?, if_true]
  cases value.follow? ["spec", "payloadHash"] with
  | none => simp [throw_eq_ok_iff]
  | some hash =>
    rw [refuse_eq_ok_iff]
    simp only [not_or, ne_eq, Decidable.not_not, Option.some.injEq, exists_eq_left']
    refine and_congr_right fun _ => ?_
    cases (value.follow? ["spec", "signatures"]).bind Value.elements? with
    | none => simp [throw_eq_ok_iff]
    | some listed =>
      simp only [refuseLast_eq_ok_iff, Bool.not_eq_false, List.any_eq_true, List.contains_iff_mem,
        Option.some.injEq, exists_eq_left', pure_eq_ok_iff, and_true]
      exact ⟨fun ⟨signature, logged, shared⟩ => ⟨signature, shared, logged⟩,
        fun ⟨signature, shared, logged⟩ => ⟨signature, logged, shared⟩⟩

theorem checkBody_eq_ok_iff {declared : String} {body payload : Bytes} {signatures : List Bytes}
    {done : Unit} :
    checkBody declared body payload signatures = .ok done ↔
      ∃ value, Value.ofText? body = some value ∧
        checkBodyValue declared value payload signatures = .ok done := by
  unfold checkBody
  cases Value.ofText? body with
  | none => simp
  | some value => simp [mapError_eq_ok_iff]

theorem lists_of_checkBody {body payload : Bytes} {signatures : List Bytes}
    (described : checkBody "dsse" body payload signatures = .ok ()) :
    ∃ signature ∈ signatures, Lists body signature := by
  obtain ⟨value, read, inside⟩ := checkBody_eq_ok_iff.1 described
  obtain ⟨_, _, listed, given, signature, shared, logged⟩ := checkBodyValue_dsse_iff.1 inside
  exact ⟨signature, shared, value, listed, read, given, logged⟩

def dsseBody (payload : Bytes) (signatures : List Bytes) : Bytes :=
  objectText [
    ("kind", quoted "dsse"),
    ("spec", objectText [
      ("payloadHash", objectText [
        ("algorithm", quoted "sha256"),
        ("value", quoted (Hex.encode (sha256 payload)))]),
      ("signatures", listText (signatures.map fun signature =>
        objectText [("signature", quoted (Base64.encode signature))]))])]

def dsseValue (payload : Bytes) (signatures : List Bytes) : Value :=
  .object [
    ("kind", .string "dsse"),
    ("spec", .object [
      ("payloadHash", .object [
        ("algorithm", .string "sha256"),
        ("value", .string (Hex.encode (sha256 payload)))]),
      ("signatures", .list (signatures.map fun signature =>
        .object [("signature", .string (Base64.encode signature))]))])]

theorem ofText?_dsseBody (payload : Bytes) (signatures : List Bytes) :
    Value.ofText? (dsseBody payload signatures) = some (dsseValue payload signatures) := by
  have signature (octets : Bytes) :
      Json.Reads (Value.read 124) (objectText [("signature", quoted (Base64.encode octets))])
        (.object [("signature", .string (Base64.encode octets))]) :=
    Value.reads_objectText
      (.cons (by decide) (Value.reads_quoted (Json.plainText_base64 octets) 123) .nil)
      (by simp [Value.embeddingKey])
  have hash : Json.Reads (Value.read 125)
      (objectText [("algorithm", quoted "sha256"),
        ("value", quoted (Hex.encode (sha256 payload)))])
      (.object [("algorithm", .string "sha256"), ("value", .string (Hex.encode (sha256 payload)))]) :=
    Value.reads_objectText
      (.cons (by decide) (Value.reads_quoted (by decide) 124)
        (.cons (by decide) (Value.reads_quoted (Json.plainText_hex _) 124) .nil))
      (by simp [Value.embeddingKey])
  have body : Json.Reads (Value.read 127) (dsseBody payload signatures)
      (dsseValue payload signatures) :=
    Value.reads_objectText
      (.cons (by decide) (Value.reads_quoted (by decide) 126)
        (.cons (by decide)
          (Value.reads_objectText
            (.cons (by decide) hash
              (.cons (by decide) (Value.reads_listText fun octets _ => signature octets) .nil))
            (by simp [Value.embeddingKey]))
          .nil))
      (by simp [Value.embeddingKey])
  exact (Value.ofText?_eq _).trans body.document

theorem loggedSignatures_encode (signatures : List Bytes) :
    loggedSignatures (signatures.map fun signature =>
      .object [("signature", .string (Base64.encode signature))]) = signatures := by
  induction signatures with
  | nil => rfl
  | cons signature rest ih =>
    have own : ((Value.object [("signature", .string (Base64.encode signature))]).member?
        "signature").bind Value.text? = some (Base64.encode signature) := rfl
    rw [loggedSignatures] at ih ⊢
    rw [List.map_cons, List.filterMap_cons, own, Option.bind_some, Base64.decode_encode, ih]

theorem lists_dsseBody_iff {payload signature : Bytes} {signatures : List Bytes} :
    Lists (dsseBody payload signatures) signature ↔ signature ∈ signatures := by
  constructor
  · rintro ⟨value, listed, read, given, logged⟩
    rw [ofText?_dsseBody, Option.some.injEq] at read
    subst read
    cases given
    rwa [loggedSignatures_encode] at logged
  · intro member
    refine ⟨_, _, ofText?_dsseBody payload signatures, rfl, ?_⟩
    rwa [loggedSignatures_encode]

theorem checkBody_dsseBody {payload signature : Bytes} {listed signatures : List Bytes}
    (logged : signature ∈ listed) (given : signature ∈ signatures) :
    checkBody "dsse" (dsseBody payload listed) payload signatures = .ok () := by
  refine checkBody_eq_ok_iff.2 ⟨_, ofText?_dsseBody payload listed, ?_⟩
  refine checkBodyValue_dsse_iff.2 ⟨rfl, ⟨_, rfl, rfl, Hex.lowercase_encode _⟩, _, rfl, signature,
    given, ?_⟩
  rwa [loggedSignatures_encode]

end LogEntry

namespace TransparencyVerifier

open LogEntry (Lists checkBody)

def SignedBy (leaf : Certificate) (payloadType : String) (payload signature : Bytes) : Prop :=
  ∃ key, leaf.publicKey = .ok key ∧ Signed key payloadType payload signature

/-- One signature of an envelope is both listed in a log entry's body and verified by the leaf. -/
def SharedSignature (leaf : Certificate) (payloadType : String) (body payload : Bytes)
    (signatures : List Bytes) : Prop :=
  ∃ signature ∈ signatures, Lists body signature ∧ SignedBy leaf payloadType payload signature

theorem sharedSignature_of_all_signed {leaf : Certificate} {payloadType : String}
    {body payload : Bytes} {signatures : List Bytes}
    (described : checkBody "dsse" body payload signatures = .ok ())
    (all : ∀ signature ∈ signatures, SignedBy leaf payloadType payload signature) :
    SharedSignature leaf payloadType body payload signatures := by
  obtain ⟨signature, given, listed⟩ := LogEntry.lists_of_checkBody described
  exact ⟨signature, given, listed, all signature given⟩

theorem Acceptance.checks {verifier : TransparencyVerifier} {digest repository : String}
    {bundleBytes : Bytes} {set : MeasurementSet}
    (acceptance : Acceptance verifier digest bundleBytes repository set)
    (isDsse : acceptance.entry.kind = "dsse") :
    ∃ body, Base64.decode acceptance.entry.body = some body ∧
      checkBody "dsse" body acceptance.payload acceptance.signatures = .ok () ∧
      checkEnvelope acceptance.leaf inTotoPayloadType acceptance.payload acceptance.signatures =
        .ok () := by
  obtain ⟨_, _, _, body, _, _, _, _, bodyRead, _, _, _, _, _, described⟩ :=
    LogEntry.verify_eq_ok_iff.1 acceptance.relied.verifies
  rw [isDsse] at described
  exact ⟨body, bodyRead, described, checkEnvelope_eq_ok_iff.2 ⟨acceptance.key, acceptance.leaf_key,
    acceptance.signature, acceptance.signature_given, acceptance.signed⟩⟩

/-- An accepted run on an entry of the kind `dsse` has passed both checks, and the signature that
the entry lists is one that the leaf verifies if the leaf verifies all of the envelope. For any leaf
and envelope, no weaker condition gives this for every body that there could be. -/
theorem logged_signature_signed_iff (verifier : TransparencyVerifier) (digest repository : String)
    (bundleBytes : Bytes) :
    (∀ set (acceptance : Acceptance verifier digest bundleBytes repository set),
      acceptance.entry.kind = "dsse" →
        ∃ body, Base64.decode acceptance.entry.body = some body ∧
          checkBody "dsse" body acceptance.payload acceptance.signatures = .ok () ∧
          checkEnvelope acceptance.leaf inTotoPayloadType acceptance.payload
            acceptance.signatures = .ok () ∧
          ((∀ signature ∈ acceptance.signatures,
              SignedBy acceptance.leaf inTotoPayloadType acceptance.payload signature) →
            SharedSignature acceptance.leaf inTotoPayloadType body acceptance.payload
              acceptance.signatures)) ∧
    ∀ leaf payloadType payload signatures,
      (∀ body, checkBody "dsse" body payload signatures = .ok () →
        checkEnvelope leaf payloadType payload signatures = .ok () →
          SharedSignature leaf payloadType body payload signatures) ↔
      (checkEnvelope leaf payloadType payload signatures = .ok () →
        ∀ signature ∈ signatures, SignedBy leaf payloadType payload signature) := by
  constructor
  · intro set acceptance isDsse
    obtain ⟨body, bodyRead, described, checked⟩ := acceptance.checks isDsse
    exact ⟨body, bodyRead, described, checked, sharedSignature_of_all_signed described⟩
  · intro leaf payloadType payload signatures
    constructor
    · intro shares checked signature given
      have described : checkBody "dsse" (LogEntry.dsseBody payload [signature]) payload signatures =
          .ok () := LogEntry.checkBody_dsseBody (List.mem_singleton_self signature) given
      obtain ⟨other, _, listed, signed⟩ := shares _ described checked
      rw [LogEntry.lists_dsseBody_iff, List.mem_singleton] at listed
      exact listed ▸ signed
    · intro all body described checked
      exact sharedSignature_of_all_signed described (all checked)

namespace Split

/-! An envelope with two signatures. The log lists the first, which another key made; the second,
which is not logged, is the one that the leaf's key verifies. -/

def digest : String := "0000000000000000000000000000000000000000000000000000000000000000"

def repository : String := "o/r"

def payload : Bytes := Statement.writtenText digest [("PCR0", "00")]

def foreign : Bytes := [
    0x30440220617570389e397573859945f85b5a908b0eff045e4c8580c58e0effda,
    0x6cae866502200ed86d4d74a86202d5248a30618684dc612a216457572c960434].flatMap (Bytes.ofNat 32) ++
    Bytes.ofNat 6 0x138d26e7dd66

def trusted : Bytes := [
    0x3044022013ec3cd35e79393cc49a444272533ec52c2b1c258a7f8299eaab570d,
    0x6e2f18140220396ceb1b1ed286fd7033059ac0a8fc2aa6ef26480d13e0f7ef06].flatMap (Bytes.ofNat 32) ++
    Bytes.ofNat 6 0xd9f7fbcecbe8

def promised : Bytes := [
    0x304402203dc5dd8b234aaf010669d33f43d2c88996a9f2ada687ec5bc76c68e7,
    0x0a13645802202d9ad6346c6c0a6ca4334a3acf83d8558a2491f696e90f934665].flatMap (Bytes.ofNat 32) ++
    Bytes.ofNat 6 0x1fda56d25ef9

def logId : Bytes :=
  Bytes.ofNat 32 0x01de928b539027a8035e96987419454d5d5b362872ff4fd64a5bc27e272e4cdb

def leafBytes : Bytes := [
    0x308201933082013aa003020102020102300a06082a8648ce3d040302300d310b,
    0x300906035504030c026361301e170d3233313131343030303030305a170d3233,
    0x313131353030303030305a30003059301306072a8648ce3d020106082a8648ce,
    0x3d0301070342000405b236caf1a3e6d896e3d6ebd748f76ba7b4839aff7117a6,
    0x4f3fae97624dd8640d7ab0d2c28b4c58a8b57b49fa10164a685255c7b4e6f1f0,
    0xf8502824e56f5529a3819730819430440603551d110101ff043a303886366874,
    0x7470733a2f2f6769746875622e636f6d2f6f2f722f2e6769746875622f776f72,
    0x6b666c6f77732f7740726566732f746167732f313039060a2b0601040183bf30,
    0x0101042b68747470733a2f2f746f6b656e2e616374696f6e732e676974687562,
    0x75736572636f6e74656e742e636f6d3011060a2b0601040183bf30010504036f,
    0x2f72300a06082a8648ce3d040302034700304402203e45fbba2e7f33ab5355ad,
    0x16486f9a6ec3beb536d352e93ac1e182f59ed3532a02203b993644129e6d9db8].flatMap (Bytes.ofNat 32) ++
    Bytes.ofNat 23 0x3a76205ea04697ace67c6f75097248fabbafda7f6a2bc9

def rootBytes : Bytes := [
    0x3082011a3081c2a003020102020101300a06082a8648ce3d040302300d310b30,
    0x0906035504030c026361301e170d3230303130313030303030305a170d343030,
    0x3130313030303030305a300d310b300906035504030c0263613059301306072a,
    0x8648ce3d020106082a8648ce3d030107034200043353b2e4025b5494d55ef911,
    0xb6cdf53ecc17ce7fc1dfd9ea41b07eba03a529504fc6db4db38454e578b8822d,
    0xc3a92ba0a1331c4c40009501949f0923189e801fa3133011300f0603551d1301,
    0x01ff040530030101ff300a06082a8648ce3d04030203470030440220371edea3,
    0x3825bfc5de89528b8f48dc9096aeaa72c80873512643091e1b9f12e00220530f].flatMap (Bytes.ofNat 32) ++
    Bytes.ofNat 30 0x26a08f02b03b6d8b5b91a680a3dac17a1ebe192444f7300ebcf532e67bb1

def logKey : PublicKey := ⟨.p256, ⟨
  0x17179a7ed88249662e3868b14428b2934b88e4bf961de0675a82c52754cb57dd,
  0xf72f775e4d9176e0a40601eca6b55faacb0ed6e40500a0ef15a2ac2d95a40832⟩⟩

def leafKey : PublicKey := ⟨.p256, ⟨
  0x05b236caf1a3e6d896e3d6ebd748f76ba7b4839aff7117a64f3fae97624dd864,
  0x0d7ab0d2c28b4c58a8b57b49fa10164a685255c7b4e6f1f0f8502824e56f5529⟩⟩

def entry : LogEntry where
  logIndex := "7"
  logId := Base64.encode logId
  kind := "dsse"
  version := "0.0.1"
  integratedTime := "1700000000"
  promise := some (Base64.encode promised)
  body := Base64.encode (LogEntry.dsseBody payload [foreign])

def bundle : Bundle where
  mediaType := "application/vnd.dev.sigstore.bundle"
  certificate := some (Base64.encode leafBytes)
  chain := none
  entries := [entry]
  payload := Base64.encode payload
  payloadType := inTotoPayloadType
  signatures := [⟨Base64.encode foreign, ""⟩, ⟨Base64.encode trusted, ""⟩]

set_option maxRecDepth 100000 in
theorem leafBytes_parse : (Certificate.ofDer? leafBytes).isSome = true := by decide +kernel

set_option maxRecDepth 100000 in
theorem rootBytes_parse : (Certificate.ofDer? rootBytes).isSome = true := by decide +kernel

def leaf : Certificate := (Certificate.ofDer? leafBytes).get leafBytes_parse

def issuer : Certificate := (Certificate.ofDer? rootBytes).get rootBytes_parse

def authority : CertificateAuthority := ⟨"ca", [issuer], ⟨1577836800, none⟩⟩

def log : TransparencyLog := ⟨"log", logId, logKey, ⟨1577836800, none⟩⟩

def verifier : TransparencyVerifier where
  root := ⟨[authority], [log], []⟩
  policy := .standard
  sctThreshold := 0

def claimed : MeasurementSet := (MeasurementSet.empty .awsNitroEnclaveV1).insert 0 [0]

set_option maxRecDepth 100000 in
theorem publicKey_leaf : leaf.publicKey = .ok leafKey := by
  have same : (match leaf.publicKey with
      | .ok key => decide (key = leafKey)
      | .error _ => false) = true := by decide +kernel
  split at same
  · next key found => rw [found, of_decide_eq_true same]
  · cases same

set_option maxRecDepth 100000 in
theorem vouches : authority.Vouches leaf 1700000000 where
  nonempty := by simp [authority]
  in_force := by decide
  chained := by
    have passed : (Certificate.checkChain [leaf, issuer] 1700000000).toBool = true := by
      decide +kernel
    exact eq_ok_of_toBool passed

set_option maxRecDepth 100000 in
theorem identified : IdentityPolicy.standard.check (.ofCertificate leaf) repository = .ok () := by
  have passed : (IdentityPolicy.standard.check (.ofCertificate leaf) repository).toBool = true := by
    decide +kernel
  exact eq_ok_of_toBool passed

set_option maxRecDepth 100000 in
theorem signed_trusted : Signed leafKey inTotoPayloadType payload trusted := by
  unfold Signed
  decide +kernel

set_option maxRecDepth 100000 in
theorem not_signed_foreign : ¬Signed leafKey inTotoPayloadType payload foreign := by
  unfold Signed
  decide +kernel

set_option maxRecDepth 100000 in
theorem promise_verifies :
    logKey.verify .sha256 (Bytes.ofText (LogEntry.signedText
      (Base64.encode (LogEntry.dsseBody payload [foreign])) 1700000000 logId 7)) promised .der =
      true := by
  simp only [LogEntry.signedText, Bytes.ofText_append, Json.quoteText, Base64.encode,
    Hex.encode, String.toList_ofList, Bytes.ofText_ofList]
  decide +kernel

theorem entry_verifies :
    entry.verify verifier.root payload [foreign, trusted] = .ok ⟨7, 1700000000⟩ := by
  have described : LogEntry.checkBody "dsse" (LogEntry.dsseBody payload [foreign]) payload
      [foreign, trusted] = .ok () :=
    LogEntry.checkBody_dsseBody (List.mem_singleton_self foreign) List.mem_cons_self
  have known : verifier.root.entryLog? logId = some log := by decide
  have inForce : log.validity.contains 1700000000 = true := by decide
  exact LogEntry.verify_eq_ok_iff.2 ⟨rfl, rfl, logId, _, log, _, promised,
    Base64.decode_encode _, Base64.decode_encode _, known, inForce, rfl,
    Base64.decode_encode _, promise_verifies, described⟩

theorem entry_plain : entry.Plain where
  logIndex := by decide
  logId := Json.plainText_base64 _
  kind := by decide
  version := by decide
  integratedTime := by decide
  promise := by
    intro text given
    rw [← Option.some.inj given]
    exact Json.plainText_base64 _
  body := Json.plainText_base64 _

theorem bundle_plain : bundle.Plain where
  mediaType := by decide
  certificate := by
    intro text given
    rw [← Option.some.inj given]
    exact Json.plainText_base64 _
  chain := by
    intro texts absent
    cases absent
  entries := by
    intro given member
    rw [List.mem_singleton.1 member]
    exact entry_plain
  payload := Json.plainText_base64 _
  payloadType := by decide
  signatures := by
    intro given member
    rcases List.mem_cons.1 member with rfl | others
    · exact ⟨Json.plainText_base64 _, by decide⟩
    · rw [List.mem_singleton.1 others]
      exact ⟨Json.plainText_base64 _, by decide⟩

theorem bundle_read : Bundle.read bundle.written = .ok bundle :=
  Bundle.read_written bundle_plain (by decide) (by simp [bundle])

def statement : Statement where
  subjects := [[("sha256", digest)]]
  predicateType := Predicate.awsNitroEnclaveV1.text
  predicate := [("PCR0", .string "00")]

theorem statement_read : Statement.read? payload = some statement :=
  Statement.read?_writtenText (by decide) (by decide) (by decide)

def acceptance : Acceptance verifier digest bundle.written repository claimed where
  digest_form := ⟨by decide, List.all_eq_true.1 (by decide)⟩
  bundle := bundle
  bundle_read := bundle_read
  payload := payload
  payload_decoded := Base64.decode_encode payload
  signatures := [foreign, trusted]
  signatures_decoded := by simp [bundle, Base64.decode_encode]
  entry := entry
  verified := ⟨7, 1700000000⟩
  relied := ⟨.head ⟨_, entry_verifies⟩, entry_verifies⟩
  instant := 1700000000
  integrated := rfl
  leafText := Base64.encode leafBytes
  leaf_given := rfl
  leafBytes := leafBytes
  leaf_decoded := Base64.decode_encode leafBytes
  leaf := leaf
  leaf_parsed := by
    rw [Certificate.ofDer, ← Option.some_get leafBytes_parse]
    rfl
  authority := authority
  vouched := .head vouches
  issuer := issuer
  issuer_heads := rfl
  timestamped := rfl
  identified := identified
  in_toto := rfl
  key := leafKey
  leaf_key := publicKey_leaf
  signature := trusted
  signature_given := by simp
  signed := signed_trusted
  statement := statement
  statement_read := statement_read
  measured := rfl
  named := ⟨_, List.mem_singleton_self _, digest, rfl, rfl⟩

end Split

/-- A bundle is accepted whose log entry lists a signature that the leaf does not verify, next to one
that it does. -/
theorem logged_signature_unsigned :
    Split.verifier.verify Split.digest Split.bundle.written Split.repository = .ok Split.claimed ∧
      Split.acceptance.entry.kind = "dsse" ∧
      ∀ body, Base64.decode Split.acceptance.entry.body = some body →
        ¬SharedSignature Split.acceptance.leaf inTotoPayloadType body Split.acceptance.payload
          Split.acceptance.signatures := by
  have accepted := Split.acceptance.verify_eq_ok
  have leaf : Split.acceptance.leaf = Split.leaf := by rw [Split.acceptance]
  have payload : Split.acceptance.payload = Split.payload := by rw [Split.acceptance]
  have logged : Split.acceptance.entry.body =
      Base64.encode (LogEntry.dsseBody Split.payload [Split.foreign]) := rfl
  refine ⟨accepted, rfl, ?_⟩
  intro body decoded shared
  rw [logged, Base64.decode_encode, Option.some.injEq] at decoded
  obtain ⟨signature, _, listed, key, found, signed⟩ := shared
  rw [leaf, Split.publicKey_leaf, Except.ok.injEq] at found
  rw [← decoded, LogEntry.lists_dsseBody_iff, List.mem_singleton] at listed
  rw [payload, listed, ← found] at signed
  exact Split.not_signed_foreign signed

end TransparencyVerifier

end EnclaveProvenance
