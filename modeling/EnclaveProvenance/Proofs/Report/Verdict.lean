import EnclaveProvenance.Proofs.Attestation.Acceptance
import EnclaveProvenance.Proofs.Transparency.Acceptance
import EnclaveProvenance.Proofs.Report.Progress
import EnclaveProvenance.Proofs.Transparency.Claims

/-!
The verdict of a run: it is a success when both inputs were had, both verifiers accept, and what
the bundle's statement claims is what the document's payload measures.
-/

namespace EnclaveProvenance

open Checks

def Bundle.Carries (bundleBytes : Bytes) (statement : Statement) : Prop :=
  ∃ bundle payload, Bundle.read bundleBytes = .ok bundle ∧
    Base64.decode bundle.payload = some payload ∧ Statement.read? payload = some statement

def Attestation.Carries (document octets : Bytes) : Prop :=
  ∃ message payload, HardwareVerifier.readMessage document = .ok (message, octets, payload)

theorem TransparencyVerifier.claims_of_verify {verifier : TransparencyVerifier}
    {digest repository : String} {bundleBytes : Bytes} {set : MeasurementSet}
    (accepted : verifier.verify digest bundleBytes repository = .ok set) :
    ∃ statement, Bundle.Carries bundleBytes statement ∧
      ∀ index value, set.get? index = some value ↔ Statement.Claims statement.predicate index value := by
  obtain ⟨acceptance⟩ := acceptance_of_verify accepted
  refine ⟨acceptance.statement, ?_, Statement.get?_of_measurements acceptance.measured⟩
  exact ⟨acceptance.bundle, acceptance.payload, acceptance.bundle_read, acceptance.payload_decoded,
    acceptance.statement_read⟩

theorem HardwareVerifier.measures_of_verify {verifier : HardwareVerifier} {clock : Nat}
    {document : Bytes} {set : MeasurementSet}
    (accepted : verifier.verify clock document = .ok set) :
    ∃ octets, Attestation.Carries document octets ∧
      ∀ index value, set.get? index = some value ↔
        Attestation.Payload.Measures octets index value := by
  simp only [verify, map_eq_ok_iff, verifyDocument, bind_eq_ok_iff, mapError_eq_ok_iff,
    pure_eq_ok_iff, Prod.exists] at accepted
  obtain ⟨_, ⟨message, octets, payload, read, _, _, _, _, rfl⟩, rfl⟩ := accepted
  obtain ⟨_, _, _, _, _, within⟩ := readMessage_eq_ok_iff.1 read
  refine ⟨octets, ⟨message, payload, read⟩, ?_⟩
  exact Attestation.Payload.get?_of_read? (Attestation.Payload.ofBytes_eq_ok_iff.1 within).1

theorem Bundle.carries_unique {bundleBytes : Bytes} {one other : Statement}
    (first : Carries bundleBytes one) (second : Carries bundleBytes other) : one = other := by
  obtain ⟨bundle, payload, read, decoded, statement⟩ := first
  obtain ⟨again, octets, readAgain, decodedAgain, statementAgain⟩ := second
  cases read.symm.trans readAgain
  cases decoded.symm.trans decodedAgain
  exact Option.some.inj (statement.symm.trans statementAgain)

theorem Attestation.carries_unique {document one other : Bytes} (first : Carries document one)
    (second : Carries document other) : one = other := by
  obtain ⟨message, payload, read⟩ := first
  obtain ⟨again, payloadAgain, readAgain⟩ := second
  cases read.symm.trans readAgain
  rfl

theorem Report.success_ofOutcomes_iff {digest repository : String} {indices : List RegisterIndex}
    {sigstore hardware : Except Fault MeasurementSet} :
    (ofOutcomes digest repository indices sigstore hardware).success = true ↔
      ∃ expected actual, sigstore = .ok expected ∧ hardware = .ok actual ∧
        (Comparison.make expected actual indices).success = true := by
  by_cases both : ∃ expected actual, sigstore = .ok expected ∧ hardware = .ok actual
  · obtain ⟨expected, actual, rfl, rfl⟩ := both
    have verdict : (ofOutcomes digest repository indices (.ok expected) (.ok actual)).success =
        (Comparison.make expected actual indices).success := rfl
    simp [verdict]
  · have report : (ofOutcomes digest repository indices sigstore hardware).success = false := by
      rw [Report.ofOutcomes_of_failure _ _ _ both]
      rfl
    rw [report]
    constructor
    · nofun
    · rintro ⟨expected, actual, one, other, _⟩
      exact absurd ⟨expected, actual, one, other⟩ both

namespace Orchestrator

/-- A run succeeds for exactly the inputs that were both had and are both accepted, when there are
registers to compare and each of them has one value, claimed by the statement in the bundle and
measured by the payload of the document. -/
theorem run_success_iff (orchestrator : Orchestrator) (clock : Nat) (digest repository : String)
    (bundle document : Except Fault Bytes) :
    (orchestrator.run clock digest repository bundle document).success = true ↔
      ∃ bundleBytes documentBytes expected actual statement octets,
        bundle = .ok bundleBytes ∧ document = .ok documentBytes ∧
        orchestrator.transparency.verify digest bundleBytes repository = .ok expected ∧
        orchestrator.hardware.verify clock documentBytes = .ok actual ∧
        Bundle.Carries bundleBytes statement ∧ Attestation.Carries documentBytes octets ∧
        orchestrator.registers ≠ [] ∧
        ∀ index ∈ orchestrator.registers, ∃ value,
          Statement.Claims statement.predicate index value ∧
          Attestation.Payload.Measures octets index value := by
  have outcomes {α : Type} (input : Except Fault Bytes) (verify : Bytes → Except Fault α) (result : α) :
      input.bind verify = .ok result ↔ ∃ bytes, input = .ok bytes ∧ verify bytes = .ok result :=
    bind_eq_ok_iff
  simp only [run, Report.success_ofOutcomes_iff, outcomes, Comparison.success_make_iff]
  constructor
  · rintro ⟨expected, actual, ⟨bundleBytes, had, accepted⟩, ⟨documentBytes, hadToo, acceptedToo⟩,
      nonempty, agree⟩
    obtain ⟨statement, carried, claims⟩ := TransparencyVerifier.claims_of_verify accepted
    obtain ⟨octets, carriedToo, measures⟩ := HardwareVerifier.measures_of_verify acceptedToo
    refine ⟨bundleBytes, documentBytes, expected, actual, statement, octets, had, hadToo, accepted,
      acceptedToo, carried, carriedToo, nonempty, ?_⟩
    intro index member
    obtain ⟨value, claimed, measured⟩ := agree index member
    exact ⟨value, (claims index value).1 claimed, (measures index value).1 measured⟩
  · rintro ⟨bundleBytes, documentBytes, expected, actual, statement, octets, had, hadToo, accepted,
      acceptedToo, carried, carriedToo, nonempty, agree⟩
    obtain ⟨own, ownCarried, claims⟩ := TransparencyVerifier.claims_of_verify accepted
    obtain ⟨inside, insideCarried, measures⟩ := HardwareVerifier.measures_of_verify acceptedToo
    cases Bundle.carries_unique ownCarried carried
    cases Attestation.carries_unique insideCarried carriedToo
    refine ⟨expected, actual, ⟨bundleBytes, had, accepted⟩, ⟨documentBytes, hadToo, acceptedToo⟩,
      nonempty, ?_⟩
    intro index member
    obtain ⟨value, claimed, measured⟩ := agree index member
    exact ⟨value, (claims index value).2 claimed, (measures index value).2 measured⟩

end Orchestrator

end EnclaveProvenance
