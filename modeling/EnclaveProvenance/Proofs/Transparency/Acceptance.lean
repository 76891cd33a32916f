import EnclaveProvenance.Proofs.Transparency.LogEntries
import EnclaveProvenance.Transparency.Verifier

/-!
What the transparency verifier accepts: everything that a bundle has to contain, and everything
that has to hold of it, for the verifier to return a set of measurements.
-/

namespace EnclaveProvenance

open Checks

namespace Bundle

theorem payloadBytes_eq_ok_iff {bundle : Bundle} {payload : Bytes} :
    bundle.payloadBytes = .ok payload ↔ Base64.decode bundle.payload = some payload :=
  decodeField_eq_ok_iff

theorem signatureBytes_eq_ok_iff {bundle : Bundle} {signatures : List Bytes} :
    bundle.signatureBytes = .ok signatures ↔
      bundle.signatures.map (Base64.decode ·.signature) = signatures.map some := by
  rw [signatureBytes, mapM_eq_ok_iff]
  generalize bundle.signatures = written
  induction written generalizing signatures with
  | nil => cases signatures <;> simp
  | cons first rest ih =>
    cases signatures with
    | nil => simp
    | cons signature others =>
      simp only [List.map_cons, List.cons.injEq, ih, decodeField_eq_ok_iff]

def signingText? (bundle : Bundle) : Option String :=
  bundle.certificate.or (bundle.chain.bind List.head?)

theorem signingCertificate_eq_ok_iff {bundle : Bundle} {leafBytes : Bytes} :
    bundle.signingCertificate = .ok leafBytes ↔
      ∃ text, bundle.signingText? = some text ∧ Base64.decode text = some leafBytes := by
  unfold signingCertificate signingText?
  split
  · next alone => simp [alone, decodeField_eq_ok_iff]
  · next none chain => simp [none, chain, decodeField_eq_ok_iff]
  · next none chain => simp [none, chain]
  · next none chain => simp [none, chain]

end Bundle

structure CertificateAuthority.Vouches (leaf : Certificate) (instant : Nat)
    (authority : CertificateAuthority) : Prop where
  nonempty : authority.chain ≠ []
  in_force : authority.validity.contains instant = true
  chained : Certificate.checkChain (leaf :: authority.chain) instant = .ok ()

namespace TransparencyVerifier

def IsDigest (digest : String) : Prop :=
  (Bytes.ofText digest).length = 64 ∧ ∀ octet ∈ Bytes.ofText digest, Hex.isDigit octet = true

theorem normalizeDigest_eq_ok_iff {digest lower : String} :
    normalizeDigest digest = .ok lower ↔ IsDigest digest ∧ lower = Text.lowercase digest := by
  unfold normalizeDigest IsDigest
  simp only [List.all_eq_true]
  split
  · next accepted =>
    constructor
    · intro same
      exact ⟨accepted, (Except.ok.inj same).symm⟩
    · rintro ⟨_, rfl⟩
      rfl
  · next refused => simp only [refused, reduceCtorEq, false_and]

theorem findIssuer_eq_ok_iff {leaf issuer : Certificate} {instant : Nat} {last : SignerDefect}
    {authorities : List CertificateAuthority} :
    findIssuer leaf instant last authorities = .ok issuer ↔
      ∃ authority, FirstOf (CertificateAuthority.Vouches leaf instant) authorities authority ∧
        authority.chain.head? = some issuer := by
  induction authorities generalizing last with
  | nil =>
    constructor
    · intro impossible
      cases impossible
    · rintro ⟨authority, first, _⟩
      exact absurd first not_firstOf_nil
  | cons authority rest ih =>
    have skip (passed : ¬authority.Vouches leaf instant) (next : SignerDefect) :
        findIssuer leaf instant next rest = .ok issuer ↔
          ∃ found, FirstOf (CertificateAuthority.Vouches leaf instant) (authority :: rest) found ∧
            found.chain.head? = some issuer := by
      simp only [firstOf_cons_iff passed, ih]
    rw [findIssuer]
    split
    · next empty => exact skip (fun vouches => vouches.nonempty empty) last
    · next head others chain =>
      by_cases inForce : authority.validity.contains instant = true
      · rw [if_pos inForce]
        split
        · next chained =>
          have vouches : authority.Vouches leaf instant := ⟨by simp [chain], inForce, chained⟩
          simp [firstOf_cons_of_holds vouches, chain]
        · next defect broken =>
          exact skip (fun vouches => by simp [vouches.chained] at broken) _
      · rw [if_neg inForce]
        exact skip (fun vouches => inForce vouches.in_force) last

theorem validateChain_eq_ok_iff {verifier : TransparencyVerifier} {leaf issuer : Certificate}
    {time : Int} :
    verifier.validateChain leaf time = .ok issuer ↔
      ∃ instant : Nat, time = instant ∧ ∃ authority,
        FirstOf (CertificateAuthority.Vouches leaf instant) verifier.root.authorities authority ∧
          authority.chain.head? = some issuer := by
  unfold validateChain
  by_cases negative : time < 0
  · rw [if_pos negative]
    constructor
    · intro impossible
      cases impossible
    · rintro ⟨instant, same, _⟩
      omega
  · rw [if_neg negative, findIssuer_eq_ok_iff]
    constructor
    · intro found
      exact ⟨time.toNat, by omega, found⟩
    · rintro ⟨instant, rfl, found⟩
      exact found

def Signed (key : PublicKey) (payloadType : String) (payload signature : Bytes) : Prop :=
  key.verify key.defaultHash (preAuthenticationEncoding payloadType payload) signature
    (envelopeEncoding signature) = true

theorem checkEnvelope_eq_ok_iff {leaf : Certificate} {payloadType : String} {payload : Bytes}
    {signatures : List Bytes} {done : Unit} :
    checkEnvelope leaf payloadType payload signatures = .ok done ↔
      ∃ key, leaf.publicKey = .ok key ∧
        ∃ signature ∈ signatures, Signed key payloadType payload signature := by
  simp only [checkEnvelope, bind_eq_ok_iff, mapError_eq_ok_iff, refuseLast_eq_ok_iff,
    pure_eq_ok_iff, Bool.not_eq_false, List.any_eq_true, and_true, Signed]

def Names (statement : Statement) (digest : String) : Prop :=
  ∃ digests ∈ statement.subjects, ∃ found,
    Statement.subjectDigest? digests = some found ∧ Text.lowercase found = Text.lowercase digest

theorem attests_eq_true_iff {statement : Statement} {digest : String} :
    statement.attests (Text.lowercase digest) = true ↔ Names statement digest := by
  unfold Statement.attests Names
  simp only [List.any_eq_true, List.mem_filterMap, beq_iff_eq]
  constructor
  · rintro ⟨found, ⟨digests, subject, own⟩, same⟩
    exact ⟨digests, subject, found, own, same⟩
  · rintro ⟨digests, subject, found, own, same⟩
    exact ⟨found, ⟨digests, subject, own⟩, same⟩

theorem readClaims_eq_ok_iff {digest payloadType : String} {payload : Bytes}
    {set : MeasurementSet} :
    readClaims (Text.lowercase digest) payloadType payload = .ok set ↔
      payloadType = inTotoPayloadType ∧ ∃ statement, Statement.read? payload = some statement ∧
        statement.measurements = .ok set ∧ Names statement digest := by
  unfold readClaims
  simp only [refuse_eq_ok_iff, ne_eq, Decidable.not_not]
  refine and_congr_right fun _ => ?_
  cases Statement.read? payload with
  | none => simp [throw_eq_ok_iff]
  | some statement =>
    simp only [bind_eq_ok_iff, refuse_eq_ok_iff, pure_eq_ok_iff, Bool.not_eq_false,
      attests_eq_true_iff, Option.some.injEq, exists_eq_left']
    constructor
    · rintro ⟨found, measured, named, rfl⟩
      exact ⟨measured, named⟩
    · rintro ⟨measured, named⟩
      exact ⟨set, measured, named, rfl⟩

/-- An accepted bundle: what the verifier reads off it and off the trusted root, one after the other,
and what it checks of each. -/
structure Acceptance (verifier : TransparencyVerifier) (digest : String) (bundleBytes : Bytes)
    (repository : String) (set : MeasurementSet) where
  digest_form : IsDigest digest
  bundle : Bundle
  bundle_read : Bundle.read bundleBytes = .ok bundle
  payload : Bytes
  payload_decoded : Base64.decode bundle.payload = some payload
  signatures : List Bytes
  signatures_decoded : bundle.signatures.map (Base64.decode ·.signature) = signatures.map some
  entry : LogEntry
  verified : VerifiedEntry
  relied : LogEntry.Relied bundle.entries verifier.root payload signatures entry verified
  instant : Nat
  integrated : verified.integratedTime = instant
  leafText : String
  leaf_given : bundle.signingText? = some leafText
  leafBytes : Bytes
  leaf_decoded : Base64.decode leafText = some leafBytes
  leaf : Certificate
  leaf_parsed : Certificate.ofDer leafBytes = .ok leaf
  authority : CertificateAuthority
  vouched : FirstOf (CertificateAuthority.Vouches leaf instant) verifier.root.authorities authority
  issuer : Certificate
  issuer_heads : authority.chain.head? = some issuer
  timestamped : Sct.verifyAll leaf issuer verifier.root verifier.sctThreshold = .ok ()
  identified : verifier.policy.check (.ofCertificate leaf) repository = .ok ()
  in_toto : bundle.payloadType = inTotoPayloadType
  key : PublicKey
  leaf_key : leaf.publicKey = .ok key
  signature : Bytes
  signature_given : signature ∈ signatures
  signed : Signed key inTotoPayloadType payload signature
  statement : Statement
  statement_read : Statement.read? payload = some statement
  measured : statement.measurements = .ok set
  named : Names statement digest

variable {verifier : TransparencyVerifier} {digest repository : String} {bundleBytes : Bytes}
  {set : MeasurementSet}

theorem acceptance_of_verify (accepted : verifier.verify digest bundleBytes repository = .ok set) :
    Nonempty (Acceptance verifier digest bundleBytes repository set) := by
  simp only [verify, bind_eq_ok_iff, mapError_eq_ok_iff, normalizeDigest_eq_ok_iff,
    Bundle.payloadBytes_eq_ok_iff, Bundle.signatureBytes_eq_ok_iff, LogEntry.verifyAny_eq_ok_iff,
    Bundle.signingCertificate_eq_ok_iff, validateChain_eq_ok_iff, checkEnvelope_eq_ok_iff]
    at accepted
  obtain ⟨_, ⟨digestForm, rfl⟩, bundle, bundleRead, payload, payloadDecoded, signatures,
    signaturesDecoded, verified, ⟨entry, relied⟩, leafBytes, ⟨leafText, leafGiven, leafDecoded⟩,
    leaf, leafParsed, issuer, ⟨instant, integrated, authority, vouched, heads⟩, _, timestamped, _,
    identified, _, ⟨key, leafKey, signature, given, signed⟩, claims⟩ := accepted
  obtain ⟨inToto, statement, statementRead, measured, named⟩ := readClaims_eq_ok_iff.1 claims
  rw [inToto] at signed
  exact ⟨{
    digest_form := digestForm
    bundle := bundle
    bundle_read := bundleRead
    payload := payload
    payload_decoded := payloadDecoded
    signatures := signatures
    signatures_decoded := signaturesDecoded
    entry := entry
    verified := verified
    relied := relied
    instant := instant
    integrated := integrated
    leafText := leafText
    leaf_given := leafGiven
    leafBytes := leafBytes
    leaf_decoded := leafDecoded
    leaf := leaf
    leaf_parsed := leafParsed
    authority := authority
    vouched := vouched
    issuer := issuer
    issuer_heads := heads
    timestamped := timestamped
    identified := identified
    in_toto := inToto
    key := key
    leaf_key := leafKey
    signature := signature
    signature_given := given
    signed := signed
    statement := statement
    statement_read := statementRead
    measured := measured
    named := named }⟩

theorem Acceptance.verify_eq_ok (acceptance : Acceptance verifier digest bundleBytes repository set) :
    verifier.verify digest bundleBytes repository = .ok set := by
  simp only [verify, bind_eq_ok_iff, mapError_eq_ok_iff, normalizeDigest_eq_ok_iff,
    Bundle.payloadBytes_eq_ok_iff, Bundle.signatureBytes_eq_ok_iff, LogEntry.verifyAny_eq_ok_iff,
    Bundle.signingCertificate_eq_ok_iff, validateChain_eq_ok_iff, checkEnvelope_eq_ok_iff]
  refine ⟨_, ⟨acceptance.digest_form, rfl⟩, acceptance.bundle, acceptance.bundle_read,
    acceptance.payload, acceptance.payload_decoded, acceptance.signatures,
    acceptance.signatures_decoded, acceptance.verified, ⟨acceptance.entry, acceptance.relied⟩,
    acceptance.leafBytes, ⟨acceptance.leafText, acceptance.leaf_given, acceptance.leaf_decoded⟩,
    acceptance.leaf, acceptance.leaf_parsed, acceptance.issuer,
    ⟨acceptance.instant, acceptance.integrated, acceptance.authority, acceptance.vouched,
      acceptance.issuer_heads⟩,
    (), acceptance.timestamped, (), acceptance.identified, (), ⟨acceptance.key, acceptance.leaf_key,
      acceptance.signature, acceptance.signature_given, ?_⟩, ?_⟩
  · rw [acceptance.in_toto]
    exact acceptance.signed
  · exact readClaims_eq_ok_iff.2 ⟨acceptance.in_toto, acceptance.statement,
      acceptance.statement_read, acceptance.measured, acceptance.named⟩

/-- The verifier returns a set for exactly the bundles that pass every check, whatever the bytes,
the digest, the repository and the anchors. -/
theorem verify_eq_ok_iff_acceptance :
    verifier.verify digest bundleBytes repository = .ok set ↔
      Nonempty (Acceptance verifier digest bundleBytes repository set) := by
  constructor
  · exact acceptance_of_verify
  · rintro ⟨acceptance⟩
    exact acceptance.verify_eq_ok

end TransparencyVerifier

end EnclaveProvenance
