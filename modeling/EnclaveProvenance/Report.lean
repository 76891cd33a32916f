import EnclaveProvenance.Attestation.Verifier
import EnclaveProvenance.Comparison
import EnclaveProvenance.EventLog
import EnclaveProvenance.Measurement.Written
import EnclaveProvenance.Transparency.Verifier

/-!
Runs of both verifiers and their reports. The measurements are compared only when both sides are
verified; a failure on one side leaves the other side's outcome as it is.
-/

namespace EnclaveProvenance

inductive Phase
  | idle
  | verifyingBoth
  | comparatorRun
  | abortedOnVerifierFailure
  | done
deriving DecidableEq, Repr

def Phase.text : Phase → String
  | .idle => "Idle"
  | .verifyingBoth => "VerifyingBoth"
  | .comparatorRun => "ComparatorRun"
  | .abortedOnVerifierFailure => "AbortedOnVerifierFailure"
  | .done => "Done"

def Phase.event (phase : Phase) : Event :=
  ⟨.orchestrator, .debug, s!"Entering phase {phase.text}"⟩

structure StageError where
  stage : Stage
  kind : FaultKind
  message : String
deriving DecidableEq, Repr

def StageError.ofFault (stage : Stage) (fault : Fault) : StageError :=
  ⟨stage, fault.kind, fault.message⟩

structure Report where
  success : Bool
  registers : List RegisterComparison
  errors : List StageError
  sigstore : Option MeasurementSet
  hardware : Option MeasurementSet
  log : EventLog
  phases : List Phase
deriving DecidableEq

namespace Report

def compared (report : Report) : Bool := report.phases.contains .comparatorRun

def registerEvent (stage : Stage) (label : String) (register : Register) : Event :=
  ⟨stage, .info, s!"{label} PCR{register.index}: {Hex.encode register.value}"⟩

def comparisonEvent (register : RegisterComparison) : Event :=
  ⟨.comparison, if register.outcome = .agree then .info else .error,
    s!"PCR{register.index} {register.outcome.text}"⟩

def missingError (index : RegisterIndex) : StageError :=
  .ofFault .comparison (.registerMissing index)

def verdictEvent (success : Bool) : Event :=
  if success then ⟨.orchestrator, .info, "Verification successful"⟩
  else ⟨.orchestrator, .error, "Verification failed"⟩

end Report

structure Progress where
  phases : List Phase
  log : EventLog
  errors : List StageError

namespace Progress

open Report

def start : Progress := ⟨[.idle], .empty, []⟩

def record (progress : Progress) (event : Event) : Progress :=
  { progress with log := progress.log.record event.stage event.level event.message }

def fail (progress : Progress) (error : StageError) : Progress :=
  { progress with errors := progress.errors ++ [error] }

def enter (progress : Progress) (phase : Phase) : Progress :=
  { progress.record phase.event with phases := progress.phases ++ [phase] }

def settle (progress : Progress) (stage : Stage) (label : String) :
    Except Fault MeasurementSet → Progress
  | .ok set =>
    let told := set.registers.foldl
      (fun (reached : Progress) register => reached.record (registerEvent stage label register)) progress
    told.record ⟨stage, .debug, s!"{label} measurement fingerprint {set.fingerprint}"⟩
  | .error fault =>
    (progress.record ⟨stage, .error, s!"{label} verification failed: {fault.message}"⟩).fail
      (.ofFault stage fault)

/-- Takes down every register, and an error for each that a side lacks. -/
def compare (progress : Progress) (comparison : Comparison) : Progress :=
  let told := comparison.registers.foldl
    (fun (reached : Progress) register => reached.record (comparisonEvent register)) progress
  let failed := comparison.missing.foldl
    (fun (reached : Progress) index => reached.fail (missingError index)) told
  if comparison.registers.isEmpty then
    failed.record ⟨.comparison, .error, "No registers selected for comparison"⟩
  else failed

def finish (progress : Progress) (success : Bool) (registers : List RegisterComparison)
    (sigstore hardware : Option MeasurementSet) : Report :=
  let ended := progress.enter .done
  ⟨success, registers, ended.errors, sigstore, hardware, ended.log, ended.phases⟩

def settled (digest repository : String) (sigstore hardware : Except Fault MeasurementSet) :
    Progress :=
  let opened := (start.record ⟨.orchestrator, .info,
    s!"Verifying {repository} at digest {digest} against hardware attestation"⟩).enter .verifyingBoth
  (opened.settle .transparency "Sigstore" sigstore).settle .hardware "Nitro" hardware

end Progress

def Report.ofOutcomes (digest repository : String) (indices : List RegisterIndex)
    (sigstore hardware : Except Fault MeasurementSet) : Report :=
  let settled := Progress.settled digest repository sigstore hardware
  match sigstore.toOption, hardware.toOption with
  | some expected, some actual =>
    let comparison := Comparison.make expected actual indices
    let compared := ((settled.enter .comparatorRun).compare comparison).record
      (verdictEvent comparison.success)
    compared.finish comparison.success comparison.registers (some expected) (some actual)
  | expected, actual =>
    let aborted := (settled.enter .abortedOnVerifierFailure).record (verdictEvent false)
    aborted.finish false [] expected actual

/-- The registers that are compared if none are chosen: the boot image, the kernel, and the
application. -/
def defaultRegisters : List RegisterIndex := [0, 1, 2]

structure Orchestrator where
  transparency : TransparencyVerifier
  hardware : HardwareVerifier
  registers : List RegisterIndex
deriving DecidableEq

namespace Orchestrator

/-- Verifies both inputs, either of which may not have been had, and compares what they claim. -/
def run (orchestrator : Orchestrator) (clock : Nat) (digest repository : String)
    (bundle document : Except Fault Bytes) : Report :=
  Report.ofOutcomes digest repository orchestrator.registers
    (bundle.bind fun bytes => orchestrator.transparency.verify digest bytes repository)
    (document.bind fun bytes => orchestrator.hardware.verify clock bytes)

end Orchestrator

end EnclaveProvenance
