import EnclaveProvenance.Proofs.Transparency.Acceptance

/-!
How the transparency verifier fails: with which classes of failures, and what has been established
of a bundle before its signature and its claims are judged.
-/

namespace EnclaveProvenance

open Checks

def Fault.IsOf (kinds : List FaultKind) (fault : Fault) : Prop := fault.kind ∈ kinds

theorem Fault.IsOf.mono {some more : List FaultKind} (included : some ⊆ more) (fault : Fault)
    (belongs : fault.IsOf some) : fault.IsOf more :=
  included belongs

namespace LogEntry

def failureKinds : List FaultKind := [.malformedBundle, .untrustedSigner]

theorem integer_fails (field text : String) :
    FailsWithin (Fault.IsOf failureKinds) (integer field text) := by
  unfold integer
  split
  · split
    · exact failsWithin_ok
    · exact failsWithin_error (.head _)
  · exact failsWithin_error (.head _)

theorem decode_fails (field text : String) :
    FailsWithin (Fault.IsOf failureKinds) (decode field text) :=
  failsWithin_mapError fun _ => .head _

theorem checkBody_fails (declared : String) (body payload : Bytes) (signatures : List Bytes) :
    FailsWithin (Fault.IsOf failureKinds) (checkBody declared body payload signatures) := by
  unfold checkBody
  split
  · exact failsWithin_error (.head _)
  · exact failsWithin_mapError fun _ => .tail _ (.head _)

theorem verify_fails (entry : LogEntry) (root : TrustedRoot) (payload : Bytes)
    (signatures : List Bytes) :
    FailsWithin (Fault.IsOf failureKinds) (entry.verify root payload signatures) := by
  refine (integer_fails _ _).bind fun index => ?_
  refine (integer_fails _ _).bind fun time => ?_
  refine (decode_fails _ _).bind fun logId => ?_
  refine (decode_fails _ _).bind fun body => ?_
  split
  · refine failsWithin_refuse (.tail _ (.head _)) ?_
    split
    · refine (decode_fails _ _).bind fun promised => ?_
      refine failsWithin_refuse (.tail _ (.head _)) ?_
      exact (checkBody_fails _ _ _ _).bind fun _ => failsWithin_ok
    · exact failsWithin_error (.tail _ (.head _))
  · exact failsWithin_error (.tail _ (.head _))

theorem verifyAny_fails (entries : List LogEntry) (root : TrustedRoot) (payload : Bytes)
    (signatures : List Bytes) :
    FailsWithin (Fault.IsOf failureKinds) (verifyAny entries root payload signatures) := by
  unfold verifyAny
  split
  · exact failsWithin_error (.tail _ (.head _))
  · next entry rest =>
    split
    · exact failsWithin_ok
    · next first failed =>
      split
      · exact failsWithin_ok
      · exact failsWithin_error (verify_fails entry root payload signatures first failed)

end LogEntry

theorem Sct.verifyAll_fails (leaf issuer : Certificate) (root : TrustedRoot) (required : Nat) :
    FailsWithin (Fault.IsOf [.malformedBundle, .untrustedSigner])
      (verifyAll leaf issuer root required) := by
  unfold verifyAll
  split
  · exact failsWithin_ok
  · refine (failsWithin_mapError fun _ => .head _).bind fun scts => ?_
    exact failsWithin_refuse (.tail _ (.head _)) failsWithin_ok

namespace IdentityPolicy

variable {policy : IdentityPolicy} {identity : CertificateIdentity} {expected : String}

theorem check_eq_error_of_issuer (expected : String)
    (untrusted : identity.issuer ≠ some policy.issuer) :
    ∃ defect, policy.check identity expected = .error (.untrustedSigner defect) := by
  unfold check
  cases issued : identity.issuer with
  | none => exact ⟨.noIssuer, rfl⟩
  | some issuer =>
    have other : issuer ≠ policy.issuer := fun same => untrusted (same ▸ issued)
    dsimp only
    rw [if_pos other]
    exact ⟨_, rfl⟩

theorem check_fails_of_issuer (trusted : identity.issuer = some policy.issuer) :
    FailsWithin (Fault.IsOf [.identityMismatch]) (policy.check identity expected) := by
  unfold check
  rw [trusted]
  dsimp only
  rw [if_neg (not_not_intro rfl)]
  refine failsWithin_refuse (.head _) ?_
  split
  · refine failsWithin_refuse (.head _) ?_
    split
    · exact failsWithin_refuse (.head _) failsWithin_ok
    · exact failsWithin_error (.head _)
  · exact failsWithin_error (.head _)

theorem check_fails (policy : IdentityPolicy) (identity : CertificateIdentity) (expected : String) :
    FailsWithin (Fault.IsOf [.untrustedSigner, .identityMismatch])
      (policy.check identity expected) := by
  by_cases trusted : identity.issuer = some policy.issuer
  · exact (check_fails_of_issuer trusted).mono (Fault.IsOf.mono (by simp))
  · obtain ⟨defect, failed⟩ := check_eq_error_of_issuer expected trusted
    rw [failed]
    exact failsWithin_error (.head _)

end IdentityPolicy

namespace Statement

theorem addClaim_fails (set : MeasurementSet) (member : String × Json.Value) :
    FailsWithin (Fault.IsOf [.malformedBundle]) (addClaim set member) := by
  unfold addClaim
  split
  · exact failsWithin_ok
  · split
    · refine failsWithin_refuse (.head _) ?_
      split
      · exact failsWithin_mapError fun _ => .head _
      · exact failsWithin_error (.head _)
    · exact failsWithin_error (.head _)

theorem addClaims_fails (set : MeasurementSet) (members : List (String × Json.Value)) :
    FailsWithin (Fault.IsOf [.malformedBundle]) (addClaims set members) := by
  induction members generalizing set with
  | nil => exact failsWithin_ok
  | cons member rest ih => exact (addClaim_fails set member).bind ih

theorem measurements_fails (statement : Statement) :
    FailsWithin (Fault.IsOf [.malformedBundle, .missingClaim]) statement.measurements := by
  unfold measurements
  split
  · refine FailsWithin.bind ((addClaims_fails _ _).mono ?_) fun set => ?_
    · exact Fault.IsOf.mono (by simp)
    · exact failsWithin_refuse (.tail _ (.head _)) failsWithin_ok
  · exact failsWithin_error (.tail _ (.head _))

end Statement

namespace TransparencyVerifier

theorem findIssuer_fails (leaf : Certificate) (time : Nat) (last : SignerDefect)
    (authorities : List CertificateAuthority) :
    FailsWithin (Fault.IsOf [.untrustedSigner]) (findIssuer leaf time last authorities) := by
  induction authorities generalizing last with
  | nil => exact failsWithin_error (.head _)
  | cons authority rest ih =>
    rw [findIssuer]
    split
    · exact ih last
    · split
      · split
        · exact failsWithin_ok
        · exact ih _
      · exact ih last

theorem validateChain_fails (verifier : TransparencyVerifier) (leaf : Certificate) (time : Int) :
    FailsWithin (Fault.IsOf [.malformedBundle, .untrustedSigner])
      (verifier.validateChain leaf time) := by
  unfold validateChain
  split
  · exact failsWithin_error (.head _)
  · exact (findIssuer_fails _ _ _ _).mono (Fault.IsOf.mono (by simp))

theorem normalizeDigest_fails (digest : String) :
    FailsWithin (Fault.IsOf [.identityMismatch]) (normalizeDigest digest) := by
  unfold normalizeDigest
  dsimp only
  split
  · exact failsWithin_ok
  · exact failsWithin_error (.head _)

theorem checkEnvelope_fails (leaf : Certificate) (payloadType : String) (payload : Bytes)
    (signatures : List Bytes) :
    FailsWithin (Fault.IsOf [.untrustedSigner, .signatureInvalid])
      (checkEnvelope leaf payloadType payload signatures) := by
  refine (failsWithin_mapError fun _ => .head _).bind fun key => ?_
  exact failsWithin_refuse (.tail _ (.head _)) failsWithin_ok

theorem readClaims_fails (digest payloadType : String) (payload : Bytes) :
    FailsWithin (Fault.IsOf [.malformedBundle, .missingClaim, .identityMismatch])
      (readClaims digest payloadType payload) := by
  unfold readClaims
  refine failsWithin_refuse (.head _) ?_
  split
  · next statement _ =>
    refine FailsWithin.bind (statement.measurements_fails.mono ?_) fun set => ?_
    · exact Fault.IsOf.mono (by simp)
    · exact failsWithin_refuse (.tail _ (.tail _ (.head _))) failsWithin_ok
  · exact failsWithin_error (.head _)

theorem readClaims_missingClaim {digest payloadType : String} {payload : Bytes} {fault : Fault}
    (failed : readClaims digest payloadType payload = .error fault)
    (kind : fault.kind = .missingClaim) :
    payloadType = inTotoPayloadType ∧ ∃ statement, Statement.read? payload = some statement ∧
      statement.measurements = .error fault := by
  unfold readClaims at failed
  by_cases inToto : payloadType = inTotoPayloadType
  · rw [if_neg (not_not_intro inToto)] at failed
    cases read : Statement.read? payload with
    | none =>
      rw [read] at failed
      cases failed
      cases kind
    | some statement =>
      rw [read] at failed
      have within : FailsWithin (fun found => statement.measurements = .error found)
          statement.measurements := fun _ => id
      rcases within.split failed with unmeasured | ⟨set, _, failed⟩
      · exact ⟨inToto, statement, rfl, unmeasured⟩
      · -- With a set, all that is left to fail is the digest.
        split at failed
        · cases failed
          cases kind
        · cases failed
  · rw [if_pos inToto] at failed
    cases failed
    cases kind

/-- What is known of a bundle before the signature of its envelope is looked at: one of its log
entries is relied on, its leaf chains to an authority in force at the time of that entry, enough logs
vouch for the leaf, and its identity is accepted. -/
structure Authenticated (verifier : TransparencyVerifier) (digest : String) (bundleBytes : Bytes)
    (repository : String) (bundle : Bundle) (payload : Bytes) (signatures : List Bytes)
    (leaf : Certificate) : Prop where
  digest_form : IsDigest digest
  bundle_read : Bundle.read bundleBytes = .ok bundle
  payload_decoded : Base64.decode bundle.payload = some payload
  signatures_decoded : bundle.signatures.map (Base64.decode ·.signature) = signatures.map some
  leaf_parsed : ∃ text leafBytes, bundle.signingText? = some text ∧
    Base64.decode text = some leafBytes ∧ Certificate.ofDer leafBytes = .ok leaf
  logged_and_chained : ∃ entry verified, ∃ instant : Nat, ∃ authority issuer,
    LogEntry.Relied bundle.entries verifier.root payload signatures entry verified ∧
    verified.integratedTime = instant ∧
    FirstOf (CertificateAuthority.Vouches leaf instant) verifier.root.authorities authority ∧
    authority.chain.head? = some issuer ∧
    Sct.verifyAll leaf issuer verifier.root verifier.sctThreshold = .ok ()
  identified : verifier.policy.check (.ofCertificate leaf) repository = .ok ()

variable {verifier : TransparencyVerifier} {digest repository : String} {bundleBytes : Bytes}
  {fault : Fault}

def earlyKinds : List FaultKind := [.malformedBundle, .untrustedSigner, .identityMismatch]

theorem authenticated_of_verify_eq_error
    (failed : verifier.verify digest bundleBytes repository = .error fault) :
    fault.IsOf earlyKinds ∨ ∃ bundle payload signatures leaf,
      Authenticated verifier digest bundleBytes repository bundle payload signatures leaf ∧
        (checkEnvelope leaf bundle.payloadType payload signatures >>= fun _ =>
          readClaims (Text.lowercase digest) bundle.payloadType payload) = .error fault := by
  have early {α : Type} {kinds : List FaultKind} {result : Except Fault α}
      (included : kinds ⊆ earlyKinds) (within : FailsWithin (Fault.IsOf kinds) result) :
      FailsWithin (Fault.IsOf earlyKinds) result :=
    within.mono (Fault.IsOf.mono included)
  have malformed {α ε : Type} (change : ε → BundleDefect) (result : Except ε α) :
      FailsWithin (Fault.IsOf earlyKinds)
        (result.mapError fun error => .malformedBundle (change error)) :=
    failsWithin_mapError fun _ => .head _
  rw [verify] at failed
  rcases (early (by simp [earlyKinds]) (normalizeDigest_fails digest)).split failed with
    now | ⟨lower, digestRead, failed⟩
  · exact .inl now
  rcases (malformed id _).split failed with now | ⟨bundle, bundleRead, failed⟩
  · exact .inl now
  rcases (malformed id _).split failed with now | ⟨payload, payloadRead, failed⟩
  · exact .inl now
  rcases (malformed id _).split failed with now | ⟨signatures, signaturesRead, failed⟩
  · exact .inl now
  rcases (early (by simp [earlyKinds, LogEntry.failureKinds])
    (LogEntry.verifyAny_fails _ _ _ _)).split failed with now | ⟨verified, logged, failed⟩
  · exact .inl now
  rcases (malformed id _).split failed with now | ⟨leafBytes, leafGiven, failed⟩
  · exact .inl now
  rcases (malformed .certificate _).split failed with now | ⟨leaf, leafParsed, failed⟩
  · exact .inl now
  rcases (early (by simp [earlyKinds]) (validateChain_fails verifier _ _)).split failed with
    now | ⟨issuer, chained, failed⟩
  · exact .inl now
  rcases (early (by simp [earlyKinds]) (Sct.verifyAll_fails _ _ _ _)).split failed with
    now | ⟨_, timestamped, failed⟩
  · exact .inl now
  rcases (early (by simp [earlyKinds]) (verifier.policy.check_fails _ _)).split failed with
    now | ⟨_, identified, failed⟩
  · exact .inl now
  right
  rw [mapError_eq_ok_iff] at bundleRead payloadRead signaturesRead leafGiven leafParsed
  obtain ⟨digestForm, rfl⟩ := normalizeDigest_eq_ok_iff.1 digestRead
  obtain ⟨text, textGiven, textDecoded⟩ := Bundle.signingCertificate_eq_ok_iff.1 leafGiven
  obtain ⟨entry, relied⟩ := LogEntry.verifyAny_eq_ok_iff.1 logged
  obtain ⟨instant, integrated, authority, vouched, heads⟩ := validateChain_eq_ok_iff.1 chained
  exact ⟨bundle, payload, signatures, leaf, {
    digest_form := digestForm
    bundle_read := bundleRead
    payload_decoded := Bundle.payloadBytes_eq_ok_iff.1 payloadRead
    signatures_decoded := Bundle.signatureBytes_eq_ok_iff.1 signaturesRead
    leaf_parsed := ⟨text, leafBytes, textGiven, textDecoded, leafParsed⟩
    logged_and_chained := ⟨entry, verified, instant, authority, issuer, relied, integrated, vouched,
      heads, timestamped⟩
    identified := identified }, failed⟩

def failureKinds : List FaultKind :=
  [.malformedBundle, .untrustedSigner, .signatureInvalid, .identityMismatch, .missingClaim]

theorem verify_fails (verifier : TransparencyVerifier) (digest : String) (bundleBytes : Bytes)
    (repository : String) :
    FailsWithin (Fault.IsOf failureKinds) (verifier.verify digest bundleBytes repository) := by
  intro fault failed
  rcases authenticated_of_verify_eq_error failed with
    early | ⟨bundle, payload, signatures, leaf, _, failed⟩
  · exact Fault.IsOf.mono (by simp [earlyKinds, failureKinds]) fault early
  · rcases (checkEnvelope_fails _ _ _ _).split failed with unsigned | ⟨_, _, failed⟩
    · exact Fault.IsOf.mono (by simp [failureKinds]) fault unsigned
    · exact Fault.IsOf.mono (by simp [failureKinds]) fault (readClaims_fails _ _ _ fault failed)

theorem authenticated_of_signatureInvalid
    (failed : verifier.verify digest bundleBytes repository = .error fault)
    (kind : fault.kind = .signatureInvalid) :
    ∃ bundle payload signatures leaf key,
      Authenticated verifier digest bundleBytes repository bundle payload signatures leaf ∧
        leaf.publicKey = .ok key ∧
        ∀ signature ∈ signatures, ¬Signed key bundle.payloadType payload signature := by
  rcases authenticated_of_verify_eq_error failed with
    early | ⟨bundle, payload, signatures, leaf, authenticated, failed⟩
  · simp [Fault.IsOf, earlyKinds, kind] at early
  · cases checked : checkEnvelope leaf bundle.payloadType payload signatures with
    | ok _ =>
      rw [checked] at failed
      have late := readClaims_fails _ _ _ fault failed
      simp [Fault.IsOf, kind] at late
    | error unsigned =>
      rw [checked] at failed
      cases failed
      cases leafKey : leaf.publicKey with
      | error unreadable =>
        rw [checkEnvelope, leafKey] at checked
        cases checked
        cases kind
      | ok key =>
        refine ⟨bundle, payload, signatures, leaf, key, authenticated, leafKey, ?_⟩
        intro signature given signed
        have passed : checkEnvelope leaf bundle.payloadType payload signatures = .ok () :=
          checkEnvelope_eq_ok_iff.2 ⟨key, leafKey, signature, given, signed⟩
        rw [passed] at checked
        cases checked

theorem authenticated_of_missingClaim
    (failed : verifier.verify digest bundleBytes repository = .error fault)
    (kind : fault.kind = .missingClaim) :
    ∃ bundle payload signatures leaf key statement,
      Authenticated verifier digest bundleBytes repository bundle payload signatures leaf ∧
        leaf.publicKey = .ok key ∧
        (∃ signature ∈ signatures, Signed key inTotoPayloadType payload signature) ∧
        bundle.payloadType = inTotoPayloadType ∧ Statement.read? payload = some statement ∧
        statement.measurements = .error fault := by
  rcases authenticated_of_verify_eq_error failed with
    early | ⟨bundle, payload, signatures, leaf, authenticated, failed⟩
  · simp [Fault.IsOf, earlyKinds, kind] at early
  · rcases (checkEnvelope_fails _ _ _ _).split failed with unsigned | ⟨_, checked, failed⟩
    · simp [Fault.IsOf, kind] at unsigned
    · obtain ⟨key, leafKey, signed⟩ := checkEnvelope_eq_ok_iff.1 checked
      obtain ⟨inToto, statement, read, unmeasured⟩ := readClaims_missingClaim failed kind
      rw [inToto] at signed
      exact ⟨bundle, payload, signatures, leaf, key, statement, authenticated, leafKey, signed,
        inToto, read, unmeasured⟩

end TransparencyVerifier

end EnclaveProvenance
