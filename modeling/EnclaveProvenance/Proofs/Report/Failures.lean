import EnclaveProvenance.Proofs.Attestation.Acceptance
import EnclaveProvenance.Proofs.Transparency.Failures

/-!
The failures that either verifier can end with, and the order of its checks: nothing that an input
says is judged before it is known who said it.
-/

namespace EnclaveProvenance

open Checks

namespace HardwareVerifier

open Attestation (Payload)

theorem readCertificate_fails (der : Bytes) :
    FailsWithin (Fault.IsOf [.malformedDocument]) (readCertificate der) :=
  failsWithin_mapError fun _ => .head _

theorem mapM_readCertificate_fails (encoded : List Bytes) :
    FailsWithin (Fault.IsOf [.malformedDocument]) (encoded.mapM readCertificate) := by
  induction encoded with
  | nil => exact failsWithin_ok
  | cons first rest ih =>
    rw [List.mapM_cons]
    refine (readCertificate_fails first).bind fun certificate => ?_
    exact ih.bind fun others => failsWithin_ok

theorem validateChain_fails (verifier : HardwareVerifier) (clock : Nat) (payload : Payload) :
    FailsWithin (Fault.IsOf [.malformedDocument, .untrustedSigner])
      (verifier.validateChain clock payload) := by
  have wider (fault : Fault) (malformed : fault.IsOf [.malformedDocument]) :
      fault.IsOf [.malformedDocument, .untrustedSigner] :=
    Fault.IsOf.mono (by simp) fault malformed
  refine ((readCertificate_fails _).mono wider).bind fun leaf => ?_
  refine ((mapM_readCertificate_fails _).mono wider).bind fun authorities => ?_
  exact (failsWithin_mapError fun _ => .tail _ (.head _)).bind fun _ => failsWithin_ok

theorem checkSignature_fails (leaf : Certificate) (message : Cose.Sign1) (octets : Bytes) :
    FailsWithin (Fault.IsOf [.signatureInvalid, .untrustedSigner])
      (checkSignature leaf message octets) := by
  unfold checkSignature
  refine failsWithin_refuse (.head _) ?_
  refine (failsWithin_mapError fun _ => .tail _ (.head _)).bind fun key => ?_
  split
  · exact failsWithin_ok
  · exact failsWithin_error (.head _)

/-- What is known of a document before its signature is looked at: its payload is well formed and
within its limits, and the certificate in it chains to the root of the verifier. -/
structure Authenticated (verifier : HardwareVerifier) (clock : Nat) (document : Bytes)
    (message : Cose.Sign1) (octets : Bytes) (payload : Payload) (leaf : Certificate) : Prop where
  read : readMessage document = .ok (message, octets, payload)
  leaf_parsed : Certificate.ofDer payload.certificate = .ok leaf
  chained : ∃ authorities,
    (payload.authorities.drop 1).reverse.map Certificate.ofDer = authorities.map .ok ∧
    Certificate.checkChain (leaf :: authorities ++ [verifier.root])
      (verifier.instant clock payload) = .ok ()

variable {verifier : HardwareVerifier} {clock : Nat} {document : Bytes} {fault : Fault}

theorem verifyDocument_of_verify_eq_error (failed : verifier.verify clock document = .error fault) :
    verifier.verifyDocument clock document = .error fault := by
  unfold verify at failed
  cases result : verifier.verifyDocument clock document with
  | error own =>
    rw [result] at failed
    cases failed
    rfl
  | ok verified =>
    rw [result] at failed
    cases failed

theorem authenticated_of_verify_eq_error
    (failed : verifier.verify clock document = .error fault) :
    fault.IsOf [.malformedDocument, .untrustedSigner] ∨ ∃ message octets payload leaf,
      verifier.Authenticated clock document message octets payload leaf ∧
        checkSignature leaf message octets = .error fault := by
  replace failed := verifyDocument_of_verify_eq_error failed
  have malformed : FailsWithin (Fault.IsOf [.malformedDocument, .untrustedSigner])
      ((readMessage document).mapError Fault.malformedDocument) :=
    failsWithin_mapError fun _ => .head _
  have signature (leaf : Certificate) (message : Cose.Sign1) (octets : Bytes) :
      FailsWithin (fun found => checkSignature leaf message octets = .error found)
        (checkSignature leaf message octets) := fun _ => id
  rw [verifyDocument] at failed
  rcases malformed.split failed with now | ⟨⟨message, octets, payload⟩, read, failed⟩
  · exact .inl now
  rcases (validateChain_fails verifier clock payload).split failed with now | ⟨leaf, chained, failed⟩
  · exact .inl now
  rcases (signature leaf message octets).split failed with unsigned | ⟨_, _, failed⟩
  · right
    obtain ⟨leafParsed, chain⟩ := validateChain_eq_ok_iff.1 chained
    exact ⟨message, octets, payload, leaf, ⟨mapError_eq_ok_iff.1 read, leafParsed, chain⟩, unsigned⟩
  · cases failed

theorem verify_fails (verifier : HardwareVerifier) (clock : Nat) (document : Bytes) :
    FailsWithin (Fault.IsOf [.malformedDocument, .untrustedSigner, .signatureInvalid])
      (verifier.verify clock document) := by
  intro fault failed
  rcases authenticated_of_verify_eq_error failed with
    early | ⟨message, octets, payload, leaf, _, unsigned⟩
  · exact Fault.IsOf.mono (by simp) fault early
  · exact Fault.IsOf.mono (by simp) fault (checkSignature_fails leaf message octets fault unsigned)

theorem authenticated_of_signatureInvalid
    (failed : verifier.verify clock document = .error fault)
    (kind : fault.kind = .signatureInvalid) :
    ∃ message octets payload leaf, verifier.Authenticated clock document message octets payload leaf ∧
      ¬(message.signature.length = 96 ∧ ∃ key, leaf.publicKey = .ok key ∧
        key.verify .sha384 (message.signedBytes octets) message.signature .fixed = true) := by
  rcases authenticated_of_verify_eq_error failed with
    early | ⟨message, octets, payload, leaf, authenticated, unsigned⟩
  · simp [Fault.IsOf, kind] at early
  · refine ⟨message, octets, payload, leaf, authenticated, fun signed => ?_⟩
    have passed : checkSignature leaf message octets = .ok () := checkSignature_eq_ok_iff.2 signed
    rw [passed] at unsigned
    cases unsigned

end HardwareVerifier

/-- Both verifiers fail in the classes of their own inputs only. A signature is judged after its
signer is, and a claim after the signature over it: the failures of these checks imply that what is
checked before holds. -/
theorem verifiers_judge_in_order (transparency : TransparencyVerifier) (hardware : HardwareVerifier)
    (clock : Nat) (digest repository : String) (bundleBytes document : Bytes) :
    (∀ fault, transparency.verify digest bundleBytes repository = .error fault →
      fault.kind ∈ [.malformedBundle, .untrustedSigner, .signatureInvalid, .identityMismatch,
        .missingClaim] ∧
      (fault.kind = .signatureInvalid → ∃ bundle payload signatures leaf key,
        transparency.Authenticated digest bundleBytes repository bundle payload signatures leaf ∧
          leaf.publicKey = .ok key ∧ ∀ signature ∈ signatures,
            ¬TransparencyVerifier.Signed key bundle.payloadType payload signature) ∧
      (fault.kind = .missingClaim → ∃ bundle payload signatures leaf key statement,
        transparency.Authenticated digest bundleBytes repository bundle payload signatures leaf ∧
          leaf.publicKey = .ok key ∧
          (∃ signature ∈ signatures,
            TransparencyVerifier.Signed key inTotoPayloadType payload signature) ∧
          bundle.payloadType = inTotoPayloadType ∧ Statement.read? payload = some statement ∧
          statement.measurements = .error fault)) ∧
    ∀ fault, hardware.verify clock document = .error fault →
      fault.kind ∈ [.malformedDocument, .untrustedSigner, .signatureInvalid] ∧
      (fault.kind = .signatureInvalid → ∃ message octets payload leaf,
        hardware.Authenticated clock document message octets payload leaf ∧
          ¬(message.signature.length = 96 ∧ ∃ key, leaf.publicKey = .ok key ∧
            key.verify .sha384 (message.signedBytes octets) message.signature .fixed = true)) := by
  constructor
  · intro fault failed
    refine ⟨transparency.verify_fails digest bundleBytes repository fault failed, ?_, ?_⟩
    · exact TransparencyVerifier.authenticated_of_signatureInvalid failed
    · exact TransparencyVerifier.authenticated_of_missingClaim failed
  · intro fault failed
    refine ⟨hardware.verify_fails clock document fault failed, ?_⟩
    exact HardwareVerifier.authenticated_of_signatureInvalid failed

end EnclaveProvenance
