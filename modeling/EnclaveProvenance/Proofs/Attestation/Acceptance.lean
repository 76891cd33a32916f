import EnclaveProvenance.Attestation.Verifier
import EnclaveProvenance.Proofs.Attestation.Registers

/-!
What the attestation verifier accepts: the form of the message, the octets that its signature is
made over, the chain that ends at the configured root, and what a verified document carries.
-/

namespace EnclaveProvenance

open Checks

namespace Cose

/-- The octets that the signature of a message covers, as they are written: an array of four, with
the context, the protected header as received, no further data and the payload as received. -/
def signatureStructure (protectedBytes payload : Bytes) : Bytes :=
  [0x84, 0x6A] ++ Bytes.ofText "Signature1" ++
    (Cbor.encodeHead 2 protectedBytes.length ++ protectedBytes) ++ [0x40] ++
    (Cbor.encodeHead 2 payload.length ++ payload)

theorem signedBytes_eq_signatureStructure (message : Sign1) (payload : Bytes) :
    message.signedBytes payload = signatureStructure message.protectedBytes payload := by
  have array : Cbor.encodeHead Cbor.arrayMajor 4 = [0x84] := by decide
  have context : Cbor.encodeHead Cbor.textMajor (Bytes.ofText "Signature1").length = [0x6A] := by
    decide
  have empty : Cbor.encodeHead Cbor.bytesMajor 0 = [0x40] := by decide
  simp only [Sign1.signedBytes, Cbor.Item.encode, Cbor.Item.encodeItems, List.length_cons,
    List.length_nil, Nat.zero_add, Nat.reduceAdd, array, context, empty, signatureStructure,
    List.append_nil, List.append_assoc, List.cons_append, List.nil_append]
  rfl

theorem ofItem?_eq_number_iff {item : Cbor.Item} {value : Int} :
    Label.ofItem? item = some (.number value) ↔
      item.integer? = some value ∧ minWord ≤ value ∧ value ≤ maxWord := by
  unfold Label.ofItem?
  split
  · simp [Cbor.Item.integer?]
  · split
    · next found => 
      rw [found]
      split <;> grind
    · next missed => simp [missed]

theorem lookup_registeredAlgorithms_eq_es384_iff {value : Int} :
    registeredAlgorithms.lookup value = some "ES384" ↔ value = -35 := by
  constructor
  · intro found
    obtain ⟨before, after, split, _⟩ := List.lookup_eq_some_iff.1 found
    have member : (value, "ES384") ∈ registeredAlgorithms := by simp [split]
    have one : ∀ entry ∈ registeredAlgorithms, entry.2 = "ES384" → entry.1 = -35 := by decide
    exact one _ member rfl
  · rintro rfl
    decide

theorem algorithm?_eq_es384_iff {header : Header} :
    header.algorithm? = some .es384 ↔
      ∃ value, header.parameters.lookup (.number 1) = some value ∧ value.integer? = some (-35) := by
  unfold Header.algorithm?
  rw [Option.bind_eq_some_iff]
  refine exists_congr fun value => and_congr_right fun _ => ?_
  have label : value.integer? = some (-35) ↔ Label.ofItem? value = some (.number (-35)) := by
    have inRange : minWord ≤ -35 ∧ -35 ≤ maxWord := by decide
    rw [ofItem?_eq_number_iff]
    exact (and_iff_left inRange).symm
  rw [label]
  unfold Algorithm.ofItem? Algorithm.es384
  split
  · next missed => simp [missed]
  · next found => simp [found]
  · next number found =>
    rw [found]
    simp only [Option.some.injEq, Label.number.injEq]
    rw [← lookup_registeredAlgorithms_eq_es384_iff]
    split
    · next known => simp [known]
    · next unknown => split <;> simp [unknown]

structure Sign1.Reads (levels : Nat) (item : Cbor.Item) (header : Header)
    (protectedBytes payload signature : Bytes) : Prop where
  shape : ∃ protectedDefinite unprotected payloadDefinite signatureDefinite,
    item = .array [.bytes protectedDefinite protectedBytes, unprotected,
      .bytes payloadDefinite payload, .bytes signatureDefinite signature] ∧
    (Header.ofItem? levels unprotected).isSome
  header_read : Sign1.readProtected levels protectedBytes = some header

theorem Sign1.ofItem?_eq_some_iff {levels : Nat} {item : Cbor.Item} {header : Header}
    {protectedBytes payload signature : Bytes} :
    ofItem? levels item = some ⟨protectedBytes, header, some payload, signature⟩ ↔
      Reads levels item header protectedBytes payload signature := by
  constructor
  · intro read
    unfold ofItem? at read
    split at read
    · next protectedDefinite octets unprotected content signatureDefinite sealed =>
      simp only [Option.bind_eq_bind, Option.bind_eq_some_iff, Option.pure_def,
        Option.some.injEq, Sign1.mk.injEq] at read
      obtain ⟨other, unprotectedRead, found, headerRead, body, bodyRead, rfl, rfl, rfl, rfl⟩ := read
      unfold payload? at bodyRead
      split at bodyRead
      · next payloadDefinite inside =>
        simp only [Option.some.injEq] at bodyRead
        subst bodyRead
        exact ⟨⟨_, _, _, _, rfl, by simp [unprotectedRead]⟩, headerRead⟩
      · simp at bodyRead
      · simp at bodyRead
      · simp at bodyRead
    · cases read
  · rintro ⟨⟨protectedDefinite, unprotected, payloadDefinite, signatureDefinite, rfl, isHeader⟩,
      headerRead⟩
    obtain ⟨other, unprotectedRead⟩ := Option.isSome_iff_exists.1 isHeader
    simp [ofItem?, unprotectedRead, headerRead, payload?]

theorem Sign1.read?_eq_some_iff {text : Bytes} {message : Sign1} :
    read? text = some message ↔
      ∃ item, (Cbor.wholeItem? text = some item ∨ Cbor.wholeItem? text = some (.tag 18 item)) ∧
        ofItem? (text.length + 1) item = some message := by
  have tagless (number : Nat) (content : Cbor.Item) :
      ofItem? (text.length + 1) (.tag number content) = none := rfl
  unfold read?
  split
  · next number content whole =>
    rw [whole]
    by_cases marked : number = messageTag
    · rw [if_pos marked]
      constructor
      · intro read
        exact ⟨content, .inr (by rw [marked]; rfl), read⟩
      · rintro ⟨item, bare | tagged, read⟩
        · cases bare
          rw [tagless] at read
          cases read
        · cases tagged
          exact read
    · rw [if_neg marked]
      constructor
      · intro impossible
        cases impossible
      · rintro ⟨item, bare | tagged, read⟩
        · cases bare
          rw [tagless] at read
          cases read
        · cases tagged
          exact absurd rfl marked
  · next item untagged whole =>
    rw [whole]
    constructor
    · intro read
      exact ⟨item, .inl rfl, read⟩
    · rintro ⟨other, bare | tagged, read⟩
      · cases bare
        exact read
      · cases tagged
        exact absurd rfl (untagged 18 other)
  · next missed => simp [missed]

end Cose

namespace HardwareVerifier

open Attestation (Payload)

theorem mapM_readCertificate_eq_ok_iff {encoded : List Bytes} {certificates : List Certificate} :
    encoded.mapM readCertificate = .ok certificates ↔
      encoded.map Certificate.ofDer = certificates.map .ok := by
  rw [mapM_eq_ok_iff]
  induction encoded generalizing certificates with
  | nil => cases certificates <;> simp
  | cons first rest ih =>
    cases certificates with
    | nil => simp
    | cons certificate others =>
      simp only [List.map_cons, List.cons.injEq, ih, readCertificate, mapError_eq_ok_iff]

theorem validateChain_eq_ok_iff {verifier : HardwareVerifier} {clock : Nat} {payload : Payload}
    {leaf : Certificate} :
    verifier.validateChain clock payload = .ok leaf ↔
      Certificate.ofDer payload.certificate = .ok leaf ∧ ∃ authorities,
        (payload.authorities.drop 1).reverse.map Certificate.ofDer = authorities.map .ok ∧
        Certificate.checkChain (leaf :: authorities ++ [verifier.root])
          (verifier.instant clock payload) = .ok () := by
  simp only [validateChain, bind_eq_ok_iff, mapM_readCertificate_eq_ok_iff, readCertificate,
    mapError_eq_ok_iff, pure_eq_ok_iff]
  constructor
  · rintro ⟨_, read, authorities, authoritiesRead, _, chained, rfl⟩
    exact ⟨read, authorities, authoritiesRead, chained⟩
  · rintro ⟨read, authorities, authoritiesRead, chained⟩
    exact ⟨leaf, read, authorities, authoritiesRead, (), chained, rfl⟩

/-- The root that a payload carries plays no part, whatever its bytes are. -/
theorem validateChain_congr (verifier : HardwareVerifier) (clock : Nat) (payload : Payload)
    (one other : Bytes) (rest : List Bytes) :
    verifier.validateChain clock { payload with authorities := one :: rest } =
      verifier.validateChain clock { payload with authorities := other :: rest } := by
  unfold validateChain instant
  rfl

theorem readMessage_eq_ok_iff {document octets : Bytes} {message : Cose.Sign1} {payload : Payload} :
    readMessage document = .ok (message, octets, payload) ↔
      ∃ text, Attestation.unwrap document = .ok text ∧ Cose.Sign1.read? text = some message ∧
        message.protectedHeader.algorithm? = some .es384 ∧ message.payload = some octets ∧
        Payload.ofBytes octets = .ok payload := by
  simp only [readMessage, bind_eq_ok_iff]
  refine exists_congr fun text => and_congr_right fun _ => ?_
  cases Cose.Sign1.read? text with
  | none => simp [throw_eq_ok_iff]
  | some found =>
    simp only [Option.some.injEq]
    constructor
    · intro read
      split at read
      · cases read
      · next algorithm named =>
        rw [refuse_eq_ok_iff] at read
        obtain ⟨es384, read⟩ := read
        rw [ne_eq, Decidable.not_not] at es384
        split at read
        · next content carried =>
          simp only [bind_eq_ok_iff, pure_eq_ok_iff, Prod.mk.injEq] at read
          obtain ⟨_, limits, rfl, rfl, rfl⟩ := read
          exact ⟨rfl, by rw [named, es384], carried, limits⟩
        · cases read
    · rintro ⟨rfl, named, carried, limits⟩
      simp only [named, carried, limits]
      rw [refuse_eq_ok_iff]
      exact ⟨fun other => other rfl, rfl⟩

theorem checkSignature_eq_ok_iff {leaf : Certificate} {message : Cose.Sign1} {octets : Bytes}
    {done : Unit} :
    checkSignature leaf message octets = .ok done ↔
      message.signature.length = 96 ∧ ∃ key, leaf.publicKey = .ok key ∧
        key.verify .sha384 (message.signedBytes octets) message.signature .fixed = true := by
  rw [checkSignature, refuse_eq_ok_iff, bind_eq_ok_iff]
  simp only [mapError_eq_ok_iff, signatureLength, ne_eq, Decidable.not_not]
  refine and_congr_right fun _ => exists_congr fun key => and_congr_right fun _ => ?_
  split
  · next verified => simp [verified, pure_eq_ok_iff]
  · next refused => simp [refused, throw_eq_ok_iff]

/-- An accepted document: what the verifier reads off it, one after the other, and what it checks of
each. The only anchor is the verifier's own root. -/
structure Acceptance (verifier : HardwareVerifier) (clock : Nat) (document : Bytes)
    (verified : VerifiedDocument) where
  text : Bytes
  unwrapped : Attestation.unwrap document = .ok text
  item : Cbor.Item
  whole : Cbor.wholeItem? text = some item ∨ Cbor.wholeItem? text = some (.tag 18 item)
  header : Cose.Header
  protectedBytes : Bytes
  octets : Bytes
  signature : Bytes
  message : Cose.Sign1.Reads (text.length + 1) item header protectedBytes octets signature
  algorithm : Cbor.Item
  algorithm_given : header.parameters.lookup (.number 1) = some algorithm
  names_es384 : algorithm.integer? = some (-35)
  payload : Payload
  payload_read : Payload.ofBytes octets = .ok payload
  leaf : Certificate
  leaf_parsed : Certificate.ofDer payload.certificate = .ok leaf
  authorities : List Certificate
  authorities_parsed :
    (payload.authorities.drop 1).reverse.map Certificate.ofDer = authorities.map .ok
  chained : Certificate.checkChain (leaf :: authorities ++ [verifier.root])
    (verifier.instant clock payload) = .ok ()
  signature_length : signature.length = 96
  key : PublicKey
  leaf_key : leaf.publicKey = .ok key
  signed : key.verify .sha384 (Cose.signatureStructure protectedBytes octets) signature .fixed = true
  carried : verified = {
    moduleId := payload.moduleId
    timestamp := payload.timestamp
    measurements := payload.measurements
    publicKey := payload.publicKey
    userData := payload.userData
    nonce := payload.nonce }

variable {verifier : HardwareVerifier} {clock : Nat} {document : Bytes}
  {verified : VerifiedDocument}

theorem acceptance_of_verifyDocument
    (accepted : verifier.verifyDocument clock document = .ok verified) :
    Nonempty (Acceptance verifier clock document verified) := by
  simp only [verifyDocument, bind_eq_ok_iff, mapError_eq_ok_iff, pure_eq_ok_iff, Prod.exists,
    readMessage_eq_ok_iff, validateChain_eq_ok_iff, checkSignature_eq_ok_iff,
    Cose.Sign1.read?_eq_some_iff, Cose.algorithm?_eq_es384_iff] at accepted
  obtain ⟨⟨protectedBytes, header, body, signature⟩, octets, payload,
    ⟨text, unwrapped, ⟨item, whole, read⟩, ⟨algorithm, given, es384⟩, rfl, payloadRead⟩, leaf,
    ⟨leafParsed, authorities, authoritiesParsed, chained⟩, _,
    ⟨signatureLength, key, leafKey, signed⟩, rfl⟩ := accepted
  rw [Cose.signedBytes_eq_signatureStructure] at signed
  exact ⟨{
    text := text
    unwrapped := unwrapped
    item := item
    whole := whole
    header := header
    protectedBytes := protectedBytes
    octets := octets
    signature := signature
    message := Cose.Sign1.ofItem?_eq_some_iff.1 read
    algorithm := algorithm
    algorithm_given := given
    names_es384 := es384
    payload := payload
    payload_read := payloadRead
    leaf := leaf
    leaf_parsed := leafParsed
    authorities := authorities
    authorities_parsed := authoritiesParsed
    chained := chained
    signature_length := signatureLength
    key := key
    leaf_key := leafKey
    signed := signed
    carried := rfl }⟩

theorem Acceptance.verifyDocument_eq_ok
    (acceptance : Acceptance verifier clock document verified) :
    verifier.verifyDocument clock document = .ok verified := by
  have read := Cose.Sign1.ofItem?_eq_some_iff.2 acceptance.message
  have signed := acceptance.signed
  rw [← Cose.signedBytes_eq_signatureStructure
    ⟨_, acceptance.header, some acceptance.octets, acceptance.signature⟩] at signed
  simp only [verifyDocument, bind_eq_ok_iff, mapError_eq_ok_iff, pure_eq_ok_iff, Prod.exists,
    readMessage_eq_ok_iff, validateChain_eq_ok_iff, checkSignature_eq_ok_iff,
    Cose.Sign1.read?_eq_some_iff, Cose.algorithm?_eq_es384_iff]
  exact ⟨_, acceptance.octets, acceptance.payload,
    ⟨acceptance.text, acceptance.unwrapped, ⟨acceptance.item, acceptance.whole, read⟩,
      ⟨acceptance.algorithm, acceptance.algorithm_given, acceptance.names_es384⟩, rfl,
      acceptance.payload_read⟩,
    acceptance.leaf, ⟨acceptance.leaf_parsed, acceptance.authorities,
      acceptance.authorities_parsed, acceptance.chained⟩,
    (), ⟨acceptance.signature_length, acceptance.key, acceptance.leaf_key, signed⟩,
    acceptance.carried.symm⟩

theorem Acceptance.registers (acceptance : Acceptance verifier clock document verified) :
    Payload.Registers verified.measurements.registers := by
  have within := (Attestation.Payload.ofBytes_eq_ok_iff.1 acceptance.payload_read).2
  rw [acceptance.carried]
  exact Attestation.Payload.registers_of_check within

/-- The verifier returns a verified document for exactly the documents that pass every check; what
it returns has between one and 32 registers; and its chain is judged without the root that the
document carries. -/
theorem verifyDocument_protocol (verifier : HardwareVerifier) (clock : Nat) (document : Bytes) :
    (∀ verified, verifier.verifyDocument clock document = .ok verified ↔
      Nonempty (Acceptance verifier clock document verified)) ∧
    (∀ verified (_ : Acceptance verifier clock document verified),
      Payload.Registers verified.measurements.registers) ∧
    ∀ (payload : Payload) (one other : Bytes) (rest : List Bytes),
      verifier.validateChain clock { payload with authorities := one :: rest } =
        verifier.validateChain clock { payload with authorities := other :: rest } := by
  refine ⟨?_, ?_, ?_⟩
  · intro verified
    constructor
    · exact acceptance_of_verifyDocument
    · rintro ⟨acceptance⟩
      exact acceptance.verifyDocument_eq_ok
  · intro verified acceptance
    exact acceptance.registers
  · intro payload one other rest
    exact validateChain_congr verifier clock payload one other rest

end HardwareVerifier

end EnclaveProvenance
