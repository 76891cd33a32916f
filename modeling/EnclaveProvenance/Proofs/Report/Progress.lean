import EnclaveProvenance.Report
import Mathlib.Data.List.Basic

/-!
What each step of a run adds to its phases, its log and its errors, and what they are in the end.
Nothing is ever taken back.
-/

namespace EnclaveProvenance

open Report

namespace Progress

/-- A later state of a run has all that an earlier one has, and more behind it. -/
structure Extends (before after : Progress) (phases : List Phase) (events : List Event)
    (errors : List StageError) : Prop where
  phases : after.phases = before.phases ++ phases
  events : after.log.events = before.log.events ++ events
  errors : after.errors = before.errors ++ errors

namespace Extends

variable {before middle after : Progress} {phases laterPhases : List Phase}
  {events laterEvents : List Event} {errors laterErrors : List StageError}

theorem refl (progress : Progress) : Extends progress progress [] [] [] := by
  constructor <;> rw [List.append_nil]

theorem trans (first : Extends before middle phases events errors)
    (second : Extends middle after laterPhases laterEvents laterErrors) :
    Extends before after (phases ++ laterPhases) (events ++ laterEvents) (errors ++ laterErrors) where
  phases := by rw [second.phases, first.phases, List.append_assoc]
  events := by rw [second.events, first.events, List.append_assoc]
  errors := by rw [second.errors, first.errors, List.append_assoc]

end Extends

theorem extends_record (progress : Progress) (event : Event) :
    Extends progress (progress.record event) [] [event] [] where
  phases := (List.append_nil _).symm
  events := rfl
  errors := (List.append_nil _).symm

theorem extends_fail (progress : Progress) (error : StageError) :
    Extends progress (progress.fail error) [] [] [error] where
  phases := (List.append_nil _).symm
  events := (List.append_nil _).symm
  errors := rfl

theorem extends_enter (progress : Progress) (phase : Phase) :
    Extends progress (progress.enter phase) [phase] [phase.event] [] where
  phases := rfl
  events := rfl
  errors := (List.append_nil _).symm

theorem extends_recordEach {α : Type} (event : α → Event) (members : List α) (progress : Progress) :
    Extends progress (members.foldl (fun (reached : Progress) member => reached.record (event member))
      progress) [] (members.map event) [] := by
  induction members generalizing progress with
  | nil => exact .refl progress
  | cons member rest ih => exact (progress.extends_record (event member)).trans (ih _)

theorem extends_failEach {α : Type} (error : α → StageError) (members : List α) (progress : Progress) :
    Extends progress (members.foldl (fun (reached : Progress) member => reached.fail (error member))
      progress) [] [] (members.map error) := by
  induction members generalizing progress with
  | nil => exact .refl progress
  | cons member rest ih => exact (progress.extends_fail (error member)).trans (ih _)

end Progress

namespace Report

def outcomeEvents (stage : Stage) (label : String) : Except Fault MeasurementSet → List Event
  | .ok set => set.registers.map (registerEvent stage label) ++
    [⟨stage, .debug, s!"{label} measurement fingerprint {set.fingerprint}"⟩]
  | .error fault => [⟨stage, .error, s!"{label} verification failed: {fault.message}"⟩]

def failureOf (stage : Stage) : Except Fault MeasurementSet → List StageError
  | .ok _ => []
  | .error fault => [⟨stage, fault.kind, fault.message⟩]

def comparisonEvents (comparison : Comparison) : List Event :=
  comparison.registers.map comparisonEvent ++
    if comparison.registers.isEmpty then
      [⟨.comparison, .error, "No registers selected for comparison"⟩]
    else []

def openingEvent (digest repository : String) : Event :=
  ⟨.orchestrator, .info, s!"Verifying {repository} at digest {digest} against hardware attestation"⟩

end Report

namespace Progress

theorem extends_settle (progress : Progress) (stage : Stage) (label : String)
    (outcome : Except Fault MeasurementSet) :
    Extends progress (progress.settle stage label outcome) [] (outcomeEvents stage label outcome)
      (failureOf stage outcome) := by
  cases outcome with
  | ok set =>
    exact (extends_recordEach (registerEvent stage label) set.registers progress).trans
      (extends_record _ _)
  | error fault => exact (extends_record progress _).trans (extends_fail _ _)

theorem extends_compare (progress : Progress) (comparison : Comparison) :
    Extends progress (progress.compare comparison) [] (comparisonEvents comparison)
      (comparison.missing.map missingError) := by
  have told := (extends_recordEach comparisonEvent comparison.registers progress).trans
    (extends_failEach missingError comparison.missing _)
  rw [List.append_nil] at told
  unfold compare comparisonEvents
  split
  · simpa using told.trans (extends_record _ _)
  · simpa using told

theorem extends_settled (digest repository : String) (sigstore hardware : Except Fault MeasurementSet) :
    Extends start (settled digest repository sigstore hardware) [.verifyingBoth]
      ([openingEvent digest repository, Phase.event .verifyingBoth] ++
        outcomeEvents .transparency "Sigstore" sigstore ++ outcomeEvents .hardware "Nitro" hardware)
      (failureOf .transparency sigstore ++ failureOf .hardware hardware) := by
  have opened := (extends_record start (openingEvent digest repository)).trans
    (extends_enter _ .verifyingBoth)
  exact (opened.trans (extends_settle _ .transparency "Sigstore" sigstore)).trans
    (extends_settle _ .hardware "Nitro" hardware)

end Progress

namespace Report

open Progress

structure Ran (digest repository : String) (sigstore hardware : Except Fault MeasurementSet)
    (middle : Phase) (comparison : List Event) (errors : List StageError) (report : Report) :
    Prop where
  phases : report.phases = [.idle, .verifyingBoth, middle, .done]
  path : middle = if report.compared then .comparatorRun else .abortedOnVerifierFailure
  events : report.log.events = [openingEvent digest repository, Phase.event .verifyingBoth] ++
    outcomeEvents .transparency "Sigstore" sigstore ++ outcomeEvents .hardware "Nitro" hardware ++
    Phase.event middle :: comparison ++ [verdictEvent report.success, Phase.event .done]
  errors : report.errors = errors

theorem path_of_phases {report : Report} {middle : Phase}
    (phases : report.phases = [.idle, .verifyingBoth, middle, .done])
    (known : middle = .comparatorRun ∨ middle = .abortedOnVerifierFailure) :
    middle = if report.compared then .comparatorRun else .abortedOnVerifierFailure := by
  rcases known with rfl | rfl
  · simp [compared, phases]
  · simp [compared, phases]

theorem ran_of_extends {digest repository : String} {sigstore hardware : Except Fault MeasurementSet}
    {middle : Phase} {reached : Progress} {comparison : List Event} {errors : List StageError}
    (known : middle = .comparatorRun ∨ middle = .abortedOnVerifierFailure)
    (told : Extends ((settled digest repository sigstore hardware).enter middle) reached [] comparison
      errors) (success : Bool) (registers : List RegisterComparison)
    (expected actual : Option MeasurementSet) :
    Ran digest repository sigstore hardware middle comparison
      (failureOf .transparency sigstore ++ failureOf .hardware hardware ++ errors)
      ((reached.record (verdictEvent success)).finish success registers expected actual) := by
  have entered := (extends_settled digest repository sigstore hardware).trans (extends_enter _ middle)
  have judged := (entered.trans told).trans (extends_record _ (verdictEvent success))
  have ended := judged.trans (extends_enter _ .done)
  refine ⟨ended.phases, path_of_phases ended.phases known, ended.events.trans ?_,
    ended.errors.trans ?_⟩
  · simp [start, EventLog.empty, finish]
  · simp [start]

theorem ran_of_ok (digest repository : String) (indices : List RegisterIndex)
    (expected actual : MeasurementSet) :
    Ran digest repository (.ok expected) (.ok actual) .comparatorRun
      (comparisonEvents (Comparison.make expected actual indices))
      ((Comparison.make expected actual indices).missing.map missingError)
      (ofOutcomes digest repository indices (.ok expected) (.ok actual)) :=
  ran_of_extends (.inl rfl) (extends_compare _ (Comparison.make expected actual indices)) _ _ _ _

theorem ofOutcomes_of_failure (digest repository : String) (indices : List RegisterIndex)
    {sigstore hardware : Except Fault MeasurementSet}
    (failed : ¬∃ expected actual, sigstore = .ok expected ∧ hardware = .ok actual) :
    ofOutcomes digest repository indices sigstore hardware =
      (((settled digest repository sigstore hardware).enter .abortedOnVerifierFailure).record
        (verdictEvent false)).finish false [] sigstore.toOption hardware.toOption := by
  cases sigstore with
  | error fault => rfl
  | ok expected =>
    cases hardware with
    | error fault => rfl
    | ok actual => exact absurd ⟨expected, actual, rfl, rfl⟩ failed

theorem ran_of_failure (digest repository : String) (indices : List RegisterIndex)
    {sigstore hardware : Except Fault MeasurementSet}
    (failed : ¬∃ expected actual, sigstore = .ok expected ∧ hardware = .ok actual) :
    Ran digest repository sigstore hardware .abortedOnVerifierFailure []
      (failureOf .transparency sigstore ++ failureOf .hardware hardware)
      (ofOutcomes digest repository indices sigstore hardware) := by
  have told := Extends.refl ((settled digest repository sigstore hardware).enter
    .abortedOnVerifierFailure)
  have ran := ran_of_extends (.inr rfl) told false [] sigstore.toOption hardware.toOption
  rw [List.append_nil] at ran
  rwa [ofOutcomes_of_failure digest repository indices failed]

end Report

end EnclaveProvenance
