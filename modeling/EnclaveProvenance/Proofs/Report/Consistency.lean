import EnclaveProvenance.Proofs.Measurements
import EnclaveProvenance.Proofs.Report.Progress

/-!
What a report says of the two outcomes of its run: the phases, which sets there are, which registers
were compared, and one error for each thing that went wrong, in order.
-/

namespace EnclaveProvenance

namespace MeasurementSet

def Lacking (expected actual : MeasurementSet) (index : RegisterIndex) : Prop :=
  expected.get? index = none ∨ actual.get? index = none

instance (expected actual : MeasurementSet) : DecidablePred (Lacking expected actual) :=
  fun index => inferInstanceAs (Decidable (expected.get? index = none ∨ actual.get? index = none))

end MeasurementSet

theorem Comparison.missing_make (expected actual : MeasurementSet) (indices : List RegisterIndex) :
    (make expected actual indices).missing =
      indices.filter fun index => decide (expected.Lacking actual index) := by
  have own (index : RegisterIndex) :
      (RegisterComparison.make expected actual index).outcome = .missing ↔
        expected.Lacking actual index := Outcome.ofValues_eq_missing_iff
  unfold missing make
  induction indices with
  | nil => rfl
  | cons index rest ih =>
    rw [List.map_cons]
    by_cases lacking : expected.Lacking actual index
    · rw [List.filter_cons_of_pos (by simpa using (own index).2 lacking),
        List.filter_cons_of_pos (by simpa using lacking), List.map_cons, ih]
      rfl
    · rw [List.filter_cons_of_neg (by simpa using mt (own index).1 lacking),
        List.filter_cons_of_neg (by simpa using lacking), ih]

namespace Report

structure Tells (expected actual : MeasurementSet) (register : RegisterComparison) : Prop where
  sigstore_value : register.sigstoreValue = (expected.get? register.index).map Hex.encode
  hardware_value : register.hardwareValue = (actual.get? register.index).map Hex.encode
  missing_iff : register.outcome = .missing ↔ expected.Lacking actual register.index
  agree_iff : register.outcome = .agree ↔ ∃ value,
    expected.get? register.index = some value ∧ actual.get? register.index = some value
  mismatch_iff : register.outcome = .mismatch ↔ ∃ one other,
    expected.get? register.index = some one ∧ actual.get? register.index = some other ∧ one ≠ other

theorem tells_make (expected actual : MeasurementSet) (index : RegisterIndex) :
    Tells expected actual (RegisterComparison.make expected actual index) where
  sigstore_value := rfl
  hardware_value := rfl
  missing_iff := Outcome.ofValues_eq_missing_iff
  agree_iff := Outcome.ofValues_eq_agree_iff
  mismatch_iff := Outcome.ofValues_eq_mismatch_iff

structure Compared (indices : List RegisterIndex) (expected actual : MeasurementSet)
    (report : Report) : Prop where
  phases : report.phases = [.idle, .verifyingBoth, .comparatorRun, .done]
  sigstore : report.sigstore = some expected
  hardware : report.hardware = some actual
  listed : report.registers.map RegisterComparison.index = indices
  tells : ∀ register ∈ report.registers, Tells expected actual register
  errors : report.errors = (indices.filter fun index => decide (expected.Lacking actual index)).map
    fun index => ⟨.comparison, .registerMissing, s!"Register PCR{index} missing"⟩
  success_iff : report.success = true ↔ indices ≠ [] ∧ ∀ index ∈ indices,
    ∃ value, expected.get? index = some value ∧ actual.get? index = some value

theorem compared_ofOutcomes (digest repository : String) (indices : List RegisterIndex)
    (expected actual : MeasurementSet) :
    Compared indices expected actual
      (ofOutcomes digest repository indices (.ok expected) (.ok actual)) where
  phases := (ran_of_ok digest repository indices expected actual).phases
  sigstore := rfl
  hardware := rfl
  listed := by
    have own : RegisterComparison.index ∘ RegisterComparison.make expected actual = id := rfl
    have registers : (ofOutcomes digest repository indices (.ok expected) (.ok actual)).registers =
        indices.map (RegisterComparison.make expected actual) := rfl
    rw [registers, List.map_map, own, List.map_id]
  tells := by
    intro register member
    obtain ⟨index, _, rfl⟩ := List.mem_map.1 member
    exact tells_make expected actual index
  errors := by
    rw [(ran_of_ok digest repository indices expected actual).errors, Comparison.missing_make]
    rfl
  success_iff := Comparison.success_make_iff

theorem Compared.mismatch_of_no_errors {indices : List RegisterIndex}
    {expected actual : MeasurementSet} {report : Report}
    (compared : Compared indices expected actual report) (failed : report.success = false)
    (silent : report.errors = []) :
    indices = [] ∨ ∃ register ∈ report.registers, register.outcome = .mismatch := by
  by_cases empty : indices = []
  · exact .inl empty
  by_cases differs : ∃ register ∈ report.registers, register.outcome = .mismatch
  · exact .inr differs
  rw [compared.errors, List.map_eq_nil_iff, List.filter_eq_nil_iff] at silent
  have agree : ∀ index ∈ indices,
      ∃ value, expected.get? index = some value ∧ actual.get? index = some value := by
    rw [← compared.listed] at silent ⊢
    intro index member
    obtain ⟨register, listed, rfl⟩ := List.mem_map.1 member
    have tells := compared.tells register listed
    apply tells.agree_iff.1
    cases told : register.outcome with
    | agree => rfl
    | mismatch => exact absurd ⟨register, listed, told⟩ differs
    | missing => exact absurd (decide_eq_true (tells.missing_iff.1 told)) (silent _ member)
  rw [compared.success_iff.2 ⟨empty, agree⟩] at failed
  cases failed

theorem Compared.errors_eq_nil {indices : List RegisterIndex} {expected actual : MeasurementSet}
    {report : Report} (compared : Compared indices expected actual report)
    (succeeded : report.success = true) : report.errors = [] := by
  have agree := (compared.success_iff.1 succeeded).2
  rw [compared.errors, List.map_eq_nil_iff, List.filter_eq_nil_iff]
  intro index member lacking
  obtain ⟨value, claimed, measured⟩ := agree index member
  rcases of_decide_eq_true lacking with absent | absent
  · rw [claimed] at absent
    cases absent
  · rw [measured] at absent
    cases absent

structure Aborted (sigstore hardware : Except Fault MeasurementSet) (report : Report) : Prop where
  phases : report.phases = [.idle, .verifyingBoth, .abortedOnVerifierFailure, .done]
  sigstore_iff : ∀ set, report.sigstore = some set ↔ sigstore = .ok set
  hardware_iff : ∀ set, report.hardware = some set ↔ hardware = .ok set
  registers : report.registers = []
  errors : report.errors = failureOf .transparency sigstore ++ failureOf .hardware hardware
  unsuccessful : report.success = false

theorem aborted_ofOutcomes {digest repository : String} {indices : List RegisterIndex}
    {sigstore hardware : Except Fault MeasurementSet}
    (failed : ¬∃ expected actual, sigstore = .ok expected ∧ hardware = .ok actual) :
    Aborted sigstore hardware (ofOutcomes digest repository indices sigstore hardware) := by
  have ran := ran_of_failure digest repository indices failed
  have report := ofOutcomes_of_failure digest repository indices failed
  refine ⟨ran.phases, fun set => ?_, fun set => ?_, by rw [report]; rfl, ran.errors, by rw [report]; rfl⟩
  · rw [report]
    cases sigstore <;> simp [Progress.finish, Except.toOption]
  · rw [report]
    cases hardware <;> simp [Progress.finish, Except.toOption]

def errorsOf (report : Report) (stage : Stage) : List StageError :=
  report.errors.filter fun error => error.stage = stage

/-- A report says what became of both sides, and nothing else of one side than its own outcome. -/
structure Consistent (indices : List RegisterIndex) (sigstore hardware : Except Fault MeasurementSet)
    (report : Report) : Prop where
  compared : ∀ expected actual, sigstore = .ok expected → hardware = .ok actual →
    Compared indices expected actual report
  aborted : (¬∃ expected actual, sigstore = .ok expected ∧ hardware = .ok actual) →
    Aborted sigstore hardware report
  sigstore_iff : ∀ set, report.sigstore = some set ↔ sigstore = .ok set
  hardware_iff : ∀ set, report.hardware = some set ↔ hardware = .ok set
  sigstore_errors : report.errorsOf .transparency = failureOf .transparency sigstore
  hardware_errors : report.errorsOf .hardware = failureOf .hardware hardware
  errors_of_success : report.success = true → report.errors = []
  silent_failure : report.success = false → report.errors = [] →
    ∃ expected actual, sigstore = .ok expected ∧ hardware = .ok actual ∧
      (indices = [] ∨ ∃ register ∈ report.registers, register.outcome = .mismatch)

theorem Compared.errorsOf_eq_nil {indices : List RegisterIndex} {expected actual : MeasurementSet}
    {report : Report} (compared : Compared indices expected actual report) {stage : Stage}
    (other : stage ≠ .comparison) : report.errorsOf stage = [] := by
  rw [errorsOf, compared.errors, List.filter_eq_nil_iff]
  intro error member
  obtain ⟨index, _, rfl⟩ := List.mem_map.1 member
  simpa using other.symm

theorem errorsOf_failures (sigstore hardware : Except Fault MeasurementSet) :
    (failureOf .transparency sigstore ++ failureOf .hardware hardware).filter
        (fun error => error.stage = .transparency) = failureOf .transparency sigstore ∧
      (failureOf .transparency sigstore ++ failureOf .hardware hardware).filter
        (fun error => error.stage = .hardware) = failureOf .hardware hardware := by
  cases sigstore <;> cases hardware <;> exact ⟨rfl, rfl⟩

theorem consistent_of_compared {indices : List RegisterIndex} {expected actual : MeasurementSet}
    {report : Report} (compared : Compared indices expected actual report) :
    Consistent indices (.ok expected) (.ok actual) report where
  compared := by
    rintro _ _ ⟨⟩ ⟨⟩
    exact compared
  aborted := fun none => absurd ⟨expected, actual, rfl, rfl⟩ none
  sigstore_iff := by simp [compared.sigstore]
  hardware_iff := by simp [compared.hardware]
  sigstore_errors := compared.errorsOf_eq_nil (by decide)
  hardware_errors := compared.errorsOf_eq_nil (by decide)
  errors_of_success := compared.errors_eq_nil
  silent_failure := fun failed silent =>
    ⟨expected, actual, rfl, rfl, compared.mismatch_of_no_errors failed silent⟩

theorem consistent_of_aborted {indices : List RegisterIndex}
    {sigstore hardware : Except Fault MeasurementSet} {report : Report}
    (failed : ¬∃ expected actual, sigstore = .ok expected ∧ hardware = .ok actual)
    (aborted : Aborted sigstore hardware report) :
    Consistent indices sigstore hardware report where
  compared := fun expected actual one other => absurd ⟨expected, actual, one, other⟩ failed
  aborted := fun _ => aborted
  sigstore_iff := aborted.sigstore_iff
  hardware_iff := aborted.hardware_iff
  sigstore_errors := by
    rw [errorsOf, aborted.errors]
    exact (errorsOf_failures sigstore hardware).1
  hardware_errors := by
    rw [errorsOf, aborted.errors]
    exact (errorsOf_failures sigstore hardware).2
  errors_of_success := by
    intro succeeded
    rw [aborted.unsuccessful] at succeeded
    cases succeeded
  silent_failure := by
    intro _ silent
    rw [aborted.errors] at silent
    cases sigstore with
    | error fault => cases silent
    | ok expected =>
      cases hardware with
      | error fault => cases silent
      | ok actual => exact absurd ⟨expected, actual, rfl, rfl⟩ failed

theorem consistent_ofOutcomes (digest repository : String) (indices : List RegisterIndex)
    (sigstore hardware : Except Fault MeasurementSet) :
    Consistent indices sigstore hardware
      (ofOutcomes digest repository indices sigstore hardware) := by
  by_cases both : ∃ expected actual, sigstore = .ok expected ∧ hardware = .ok actual
  · obtain ⟨expected, actual, rfl, rfl⟩ := both
    exact consistent_of_compared (compared_ofOutcomes digest repository indices expected actual)
  · exact consistent_of_aborted both (aborted_ofOutcomes both)

end Report

namespace Orchestrator

/-- Every report is consistent with the outcomes of the two sides; and what it says of one side, a
set or an error, is the same in every run that verifies the same input of that side in the same way,
whatever is done on the other side. -/
theorem run_consistent (orchestrator : Orchestrator) (clock : Nat) (digest repository : String)
    (bundle document : Except Fault Bytes) :
    Report.Consistent orchestrator.registers
      (bundle.bind fun bytes => orchestrator.transparency.verify digest bytes repository)
      (document.bind fun bytes => orchestrator.hardware.verify clock bytes)
      (orchestrator.run clock digest repository bundle document) ∧
    (∀ (other : Orchestrator) (otherDigest otherRepository : String)
        (otherBundle : Except Fault Bytes), other.hardware = orchestrator.hardware →
      (other.run clock otherDigest otherRepository otherBundle document).hardware =
          (orchestrator.run clock digest repository bundle document).hardware ∧
        (other.run clock otherDigest otherRepository otherBundle document).errorsOf .hardware =
          (orchestrator.run clock digest repository bundle document).errorsOf .hardware) ∧
    ∀ (other : Orchestrator) (otherClock : Nat) (otherDocument : Except Fault Bytes),
      other.transparency = orchestrator.transparency →
      (other.run otherClock digest repository bundle otherDocument).sigstore =
          (orchestrator.run clock digest repository bundle document).sigstore ∧
        (other.run otherClock digest repository bundle otherDocument).errorsOf .transparency =
          (orchestrator.run clock digest repository bundle document).errorsOf .transparency := by
  have consistent (any : Orchestrator) (time : Nat) (name origin : String)
      (input evidence : Except Fault Bytes) :
      Report.Consistent any.registers
        (input.bind fun bytes => any.transparency.verify name bytes origin)
        (evidence.bind fun bytes => any.hardware.verify time bytes)
        (any.run time name origin input evidence) :=
    Report.consistent_ofOutcomes name origin any.registers _ _
  have own := consistent orchestrator clock digest repository bundle document
  refine ⟨own, ?_, ?_⟩
  · intro other otherDigest otherRepository otherBundle same
    have theirs := consistent other clock otherDigest otherRepository otherBundle document
    rw [same] at theirs
    constructor
    · apply Option.ext
      intro set
      rw [theirs.hardware_iff, own.hardware_iff]
    · rw [theirs.hardware_errors, own.hardware_errors]
  · intro other otherClock otherDocument same
    have theirs := consistent other otherClock digest repository bundle otherDocument
    rw [same] at theirs
    constructor
    · apply Option.ext
      intro set
      rw [theirs.sigstore_iff, own.sigstore_iff]
    · rw [theirs.sigstore_errors, own.sigstore_errors]

end Orchestrator

end EnclaveProvenance
