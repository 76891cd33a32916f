import EnclaveProvenance.Proofs.Report.Consistency

/-!
What the event log of a run says is what its report says: the phases, the outcome of either side,
the compared registers and the verdict, in their order and nothing else.
-/

namespace EnclaveProvenance

def EventLog.eventsOf (log : EventLog) (stage : Stage) : List Event :=
  log.events.filter fun event => event.stage = stage

def Stage.Only (stage : Stage) (events : List Event) : Prop := ∀ event ∈ events, event.stage = stage

theorem Stage.Only.filter_eq_self {stage : Stage} {events : List Event} (only : stage.Only events) :
    (events.filter fun event => event.stage = stage) = events :=
  List.filter_eq_self.2 fun event member => decide_eq_true (only event member)

theorem Stage.Only.filter_eq_nil {stage other : Stage} {events : List Event}
    (only : stage.Only events) (differs : stage ≠ other) :
    (events.filter fun event => event.stage = other) = [] := by
  rw [List.filter_eq_nil_iff]
  intro event member same
  exact differs ((only event member).symm.trans (of_decide_eq_true same))

namespace Report

theorem only_outcomeEvents (stage : Stage) (label : String) (outcome : Except Fault MeasurementSet) :
    stage.Only (outcomeEvents stage label outcome) := by
  intro event member
  cases outcome with
  | error fault =>
    rw [List.mem_singleton.1 member]
  | ok set =>
    rcases List.mem_append.1 member with ofRegister | ofSet
    · obtain ⟨register, _, rfl⟩ := List.mem_map.1 ofRegister
      rfl
    · rw [List.mem_singleton.1 ofSet]

theorem only_comparisonEvents (comparison : Comparison) :
    Stage.comparison.Only (comparisonEvents comparison) := by
  intro event member
  rcases List.mem_append.1 member with ofRegister | ofNone
  · obtain ⟨register, _, rfl⟩ := List.mem_map.1 ofRegister
    rfl
  · split at ofNone
    · rw [List.mem_singleton.1 ofNone]
    · cases ofNone

/-- The log of a run, on either path: what is said of the sides, of the phase that is entered then,
and of the registers, if they are compared. -/
structure Narrative where
  opening : Event
  transparency : List Event
  hardware : List Event
  middle : Phase
  comparison : List Event
  success : Bool

namespace Narrative

def events (narrative : Narrative) : List Event :=
  narrative.opening :: Phase.event .verifyingBoth :: (narrative.transparency ++
    (narrative.hardware ++ Phase.event narrative.middle :: (narrative.comparison ++
      [verdictEvent narrative.success, Phase.event .done])))

def eventsOf (narrative : Narrative) : Stage → List Event
  | .transparency => narrative.transparency
  | .hardware => narrative.hardware
  | .comparison => narrative.comparison
  | .orchestrator => [narrative.opening, Phase.event .verifyingBoth, Phase.event narrative.middle,
      verdictEvent narrative.success, Phase.event .done]

structure Staged (narrative : Narrative) : Prop where
  opening_stage : narrative.opening.stage = .orchestrator
  opening_level : narrative.opening.level = .info
  transparency : Stage.transparency.Only narrative.transparency
  hardware : Stage.hardware.Only narrative.hardware
  comparison : Stage.comparison.Only narrative.comparison

variable {narrative : Narrative}

theorem Staged.filter_events (staged : narrative.Staged) (stage : Stage) :
    (narrative.events.filter fun event => event.stage = stage) = narrative.eventsOf stage := by
  have verdict : (verdictEvent narrative.success).stage = .orchestrator := by
    cases narrative.success <;> rfl
  cases stage with
  | transparency =>
    simp [events, eventsOf, Phase.event, staged.opening_stage, verdict,
      staged.transparency.filter_eq_self, staged.hardware.filter_eq_nil,
      staged.comparison.filter_eq_nil]
  | hardware =>
    simp [events, eventsOf, Phase.event, staged.opening_stage, verdict,
      staged.transparency.filter_eq_nil, staged.hardware.filter_eq_self,
      staged.comparison.filter_eq_nil]
  | comparison =>
    simp [events, eventsOf, Phase.event, staged.opening_stage, verdict,
      staged.transparency.filter_eq_nil, staged.hardware.filter_eq_nil,
      staged.comparison.filter_eq_self]
  | orchestrator =>
    simp [events, eventsOf, Phase.event, staged.opening_stage, verdict,
      staged.transparency.filter_eq_nil, staged.hardware.filter_eq_nil,
      staged.comparison.filter_eq_nil]

theorem ends_iff (narrative : Narrative) :
    (∃ earlier, narrative.events = earlier ++ [⟨.orchestrator, .info, "Verification successful"⟩,
        ⟨.orchestrator, .debug, "Entering phase Done"⟩]) ↔ narrative.success = true := by
  have layout : narrative.events = narrative.opening :: Phase.event .verifyingBoth ::
      (narrative.transparency ++ (narrative.hardware ++
        Phase.event narrative.middle :: narrative.comparison)) ++
      [verdictEvent narrative.success, Phase.event .done] := by
    simp [events]
  rw [layout]
  constructor
  · rintro ⟨earlier, ends⟩
    have verdict := (List.cons.inj (List.append_inj' ends rfl).2).1
    cases success : narrative.success with
    | true => rfl
    | false => simp [success, verdictEvent] at verdict
  · intro success
    rw [success]
    exact ⟨_, rfl⟩

theorem Staged.no_error_iff (staged : narrative.Staged)
    (quiet : narrative.success = true → ∀ event ∈ narrative.transparency ++ narrative.hardware ++
      narrative.comparison, event.level ≠ .error) :
    (∀ event ∈ narrative.events, event.level ≠ .error) ↔ narrative.success = true := by
  constructor
  · intro none
    cases success : narrative.success with
    | true => rfl
    | false => exact absurd rfl (none (verdictEvent false) (by simp [events, success]))
  · -- The verdict of a success is an information, so that only the parts could have errors.
    intro success event member
    have quiet := quiet success
    simp only [List.mem_append] at quiet
    simp only [events, success, List.mem_cons, List.mem_append, List.not_mem_nil, or_false] at member
    rcases member with rfl | rfl | ofTransparency | ofHardware | rfl | ofComparison | rfl | rfl
    · simp [staged.opening_level]
    · decide
    · exact quiet event (.inl (.inl ofTransparency))
    · exact quiet event (.inl (.inr ofHardware))
    · simp [Phase.event]
    · exact quiet event (.inr ofComparison)
    · decide
    · decide

end Narrative

/-- What the log says of one side: of its set, each register in ascending order of the indices and
then the fingerprint; of a failure, the message that is also reported. -/
structure Recounts (report : Report) (stage : Stage) (label : String)
    (outcome : Except Fault MeasurementSet) : Prop where
  of_set : ∀ set, outcome = .ok set → ∃ registers : List Register, Register.Ascending registers ∧
    (∀ index value, ⟨index, value⟩ ∈ registers ↔ set.get? index = some value) ∧
    report.log.eventsOf stage = registers.map (fun register =>
      ⟨stage, .info, s!"{label} PCR{register.index}: {Hex.encode register.value}"⟩) ++
      [⟨stage, .debug, s!"{label} measurement fingerprint {set.fingerprint}"⟩]
  of_failure : ∀ fault, outcome = .error fault → ∃ error, report.errorsOf stage = [error] ∧
    error.kind = fault.kind ∧ error.message = fault.message ∧
    report.log.eventsOf stage =
      [⟨stage, .error, s!"{label} verification failed: {error.message}"⟩]

theorem recounts_of_outcome {report : Report} {stage : Stage} {label : String}
    {outcome : Except Fault MeasurementSet}
    (told : report.log.eventsOf stage = outcomeEvents stage label outcome)
    (errors : report.errorsOf stage = failureOf stage outcome) :
    Recounts report stage label outcome where
  of_set := by
    rintro set rfl
    exact ⟨set.registers, set.ascending, fun index value => MeasurementSet.get?_eq_some_iff.symm,
      told⟩
  of_failure := by
    rintro fault rfl
    exact ⟨_, errors, rfl, rfl, told⟩

/-- The log of a run tells what its report does, of every stage, and nothing else. -/
structure Recounted (digest repository : String) (indices : List RegisterIndex)
    (sigstore hardware : Except Fault MeasurementSet) (report : Report) : Prop where
  success_iff_no_error : report.success = true ↔ ∀ event ∈ report.log.events, event.level ≠ .error
  success_iff_verdict : report.success = true ↔ ∃ earlier, report.log.events = earlier ++
    [⟨.orchestrator, .info, "Verification successful"⟩,
      ⟨.orchestrator, .debug, "Entering phase Done"⟩]
  phases : ((report.log.eventsOf .orchestrator).filter fun event => event.level = .debug) =
    (report.phases.filter fun phase => phase ≠ .idle).map fun phase =>
      ⟨.orchestrator, .debug, s!"Entering phase {phase.text}"⟩
  transparency : Recounts report .transparency "Sigstore" sigstore
  hardware : Recounts report .hardware "Nitro" hardware
  comparison_iff : report.log.eventsOf .comparison ≠ [] ↔ report.compared = true
  comparison : report.compared = true →
    report.registers.map RegisterComparison.index = indices ∧
    report.log.eventsOf .comparison = report.registers.map (fun register =>
      ⟨.comparison, if register.outcome = .agree then .info else .error,
        s!"PCR{register.index} {register.outcome.text}"⟩) ++
      if indices = [] then [⟨.comparison, .error, "No registers selected for comparison"⟩] else []
  whole : report.log.events =
    [⟨.orchestrator, .info,
        s!"Verifying {repository} at digest {digest} against hardware attestation"⟩,
      ⟨.orchestrator, .debug, "Entering phase VerifyingBoth"⟩] ++
    report.log.eventsOf .transparency ++ report.log.eventsOf .hardware ++
    [⟨.orchestrator, .debug, if report.compared then "Entering phase ComparatorRun"
      else "Entering phase AbortedOnVerifierFailure"⟩] ++
    report.log.eventsOf .comparison ++
    [if report.success then ⟨.orchestrator, .info, "Verification successful"⟩
      else ⟨.orchestrator, .error, "Verification failed"⟩,
      ⟨.orchestrator, .debug, "Entering phase Done"⟩]

structure ComparisonTold (indices : List RegisterIndex) (report : Report) (comparison : List Event) :
    Prop where
  only : Stage.comparison.Only comparison
  present_iff : comparison ≠ [] ↔ report.compared = true
  told : report.compared = true → report.registers.map RegisterComparison.index = indices ∧
    comparison = report.registers.map comparisonEvent ++
      if indices = [] then [⟨.comparison, .error, "No registers selected for comparison"⟩] else []
  quiet : report.success = true → ∀ event ∈ comparison, event.level ≠ .error

theorem quiet_outcomeEvents {stage : Stage} {label : String} {set : MeasurementSet} :
    ∀ event ∈ outcomeEvents stage label (.ok set), event.level ≠ .error := by
  intro event member
  rcases List.mem_append.1 member with ofRegister | ofSet
  · obtain ⟨register, _, rfl⟩ := List.mem_map.1 ofRegister
    simp [registerEvent]
  · simp [List.mem_singleton.1 ofSet]

theorem quiet_of_success {indices : List RegisterIndex}
    {sigstore hardware : Except Fault MeasurementSet} {report : Report}
    (consistent : Consistent indices sigstore hardware report)
    (succeeded : report.success = true) :
    (∀ event ∈ outcomeEvents .transparency "Sigstore" sigstore, event.level ≠ .error) ∧
      ∀ event ∈ outcomeEvents .hardware "Nitro" hardware, event.level ≠ .error := by
  cases sigstore with
  | ok expected =>
    cases hardware with
    | ok actual => exact ⟨quiet_outcomeEvents, quiet_outcomeEvents⟩
    | error fault =>
      rw [(consistent.aborted (by simp)).unsuccessful] at succeeded
      cases succeeded
  | error fault =>
    rw [(consistent.aborted (by simp)).unsuccessful] at succeeded
    cases succeeded

def narrativeOf (digest repository : String) (sigstore hardware : Except Fault MeasurementSet)
    (middle : Phase) (comparison : List Event) (success : Bool) : Narrative where
  opening := openingEvent digest repository
  transparency := outcomeEvents .transparency "Sigstore" sigstore
  hardware := outcomeEvents .hardware "Nitro" hardware
  middle := middle
  comparison := comparison
  success := success

theorem recounted_of_ran {digest repository : String} {indices : List RegisterIndex}
    {sigstore hardware : Except Fault MeasurementSet} {report : Report} {middle : Phase}
    {comparison : List Event} {errors : List StageError}
    (consistent : Consistent indices sigstore hardware report)
    (ran : Ran digest repository sigstore hardware middle comparison errors report)
    (compared : ComparisonTold indices report comparison) :
    Recounted digest repository indices sigstore hardware report := by
  have events : report.log.events = (narrativeOf digest repository sigstore hardware middle comparison
      report.success).events := by
    rw [ran.events]
    simp [Narrative.events, narrativeOf]
  have staged : (narrativeOf digest repository sigstore hardware middle comparison
      report.success).Staged :=
    ⟨rfl, rfl, only_outcomeEvents _ _ _, only_outcomeEvents _ _ _, compared.only⟩
  have own (stage : Stage) : report.log.eventsOf stage = (narrativeOf digest repository sigstore
      hardware middle comparison report.success).eventsOf stage := by
    rw [EventLog.eventsOf, events]
    exact staged.filter_events stage
  have comparisonOwn : report.log.eventsOf .comparison = comparison := own .comparison
  exact {
    success_iff_no_error := by
      rw [events]
      refine (staged.no_error_iff fun succeeded event member => ?_).symm
      obtain ⟨transparencyQuiet, hardwareQuiet⟩ := quiet_of_success consistent succeeded
      rcases List.mem_append.1 member with ofSides | ofComparison
      · rcases List.mem_append.1 ofSides with ofTransparency | ofHardware
        · exact transparencyQuiet event ofTransparency
        · exact hardwareQuiet event ofHardware
      · exact compared.quiet succeeded event ofComparison
    success_iff_verdict := by
      rw [events]
      exact (narrativeOf digest repository sigstore hardware middle comparison
        report.success).ends_iff.symm
    phases := by
      have inner : middle ≠ .idle := by
        rw [ran.path]
        split <;> decide
      rw [own, ran.phases]
      cases report.success <;>
        simp [Narrative.eventsOf, narrativeOf, openingEvent, Phase.event, verdictEvent, inner]
    transparency := recounts_of_outcome (own .transparency) consistent.sigstore_errors
    hardware := recounts_of_outcome (own .hardware) consistent.hardware_errors
    comparison_iff := by rw [comparisonOwn, compared.present_iff]
    comparison := by
      rw [comparisonOwn]
      exact compared.told
    whole := by
      have entered : Phase.event middle = ⟨.orchestrator, .debug, if report.compared then
          "Entering phase ComparatorRun" else "Entering phase AbortedOnVerifierFailure"⟩ := by
        rw [ran.path]
        cases report.compared <;> rfl
      rw [own, own, own, ← entered, events]
      simp only [Narrative.events, List.append_assoc, List.cons_append, List.nil_append]
      rfl }

theorem comparisonTold_of_ok (digest repository : String) (indices : List RegisterIndex)
    (expected actual : MeasurementSet) :
    ComparisonTold indices (ofOutcomes digest repository indices (.ok expected) (.ok actual))
      (comparisonEvents (Comparison.make expected actual indices)) where
  only := only_comparisonEvents _
  present_iff := by
    have compared : (ofOutcomes digest repository indices (.ok expected) (.ok actual)).compared =
        true := by
      simp [Report.compared, (ran_of_ok digest repository indices expected actual).phases]
    simp only [compared, iff_true]
    cases indices <;> simp [comparisonEvents, Comparison.make]
  told := by
    intro _
    refine ⟨(compared_ofOutcomes digest repository indices expected actual).listed, ?_⟩
    have registers : (ofOutcomes digest repository indices (.ok expected) (.ok actual)).registers =
        indices.map (RegisterComparison.make expected actual) := rfl
    simp [comparisonEvents, registers, Comparison.make]
  quiet := by
    intro succeeded event member
    obtain ⟨nonempty, agree⟩ := Bool.and_eq_true_iff.1 succeeded
    rcases List.mem_append.1 member with ofRegister | ofNone
    · obtain ⟨register, listed, rfl⟩ := List.mem_map.1 ofRegister
      have agrees : register.outcome = .agree :=
        of_decide_eq_true (List.all_eq_true.1 agree register listed)
      simp [comparisonEvent, agrees]
    · rw [Bool.not_eq_true'] at nonempty
      simp [nonempty] at ofNone

theorem comparisonTold_of_aborted {indices : List RegisterIndex}
    {sigstore hardware : Except Fault MeasurementSet} {report : Report}
    (aborted : Aborted sigstore hardware report) : ComparisonTold indices report [] := by
  have skipped : report.compared = false := by simp [Report.compared, aborted.phases]
  constructor
  · intro event member
    cases member
  · simp [skipped]
  · simp [skipped]
  · intro _ event member
    cases member

theorem recounted_ofOutcomes (digest repository : String) (indices : List RegisterIndex)
    (sigstore hardware : Except Fault MeasurementSet) :
    Recounted digest repository indices sigstore hardware
      (ofOutcomes digest repository indices sigstore hardware) := by
  have consistent := consistent_ofOutcomes digest repository indices sigstore hardware
  by_cases both : ∃ expected actual, sigstore = .ok expected ∧ hardware = .ok actual
  · obtain ⟨expected, actual, rfl, rfl⟩ := both
    exact recounted_of_ran consistent (ran_of_ok digest repository indices expected actual)
      (comparisonTold_of_ok digest repository indices expected actual)
  · exact recounted_of_ran consistent (ran_of_failure _ _ _ both)
      (comparisonTold_of_aborted (aborted_ofOutcomes both))

end Report

namespace Orchestrator

/-- The event log of every run tells the same as its report, of the outcomes of both sides. -/
theorem run_recounted (orchestrator : Orchestrator) (clock : Nat) (digest repository : String)
    (bundle document : Except Fault Bytes) :
    Report.Recounted digest repository orchestrator.registers
      (bundle.bind fun bytes => orchestrator.transparency.verify digest bytes repository)
      (document.bind fun bytes => orchestrator.hardware.verify clock bytes)
      (orchestrator.run clock digest repository bundle document) :=
  Report.recounted_ofOutcomes digest repository orchestrator.registers _ _

end Orchestrator

end EnclaveProvenance
