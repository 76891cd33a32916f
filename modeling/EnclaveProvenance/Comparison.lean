import EnclaveProvenance.Measurement

/-!
Comparison of two measurement sets, register by register.
-/

namespace EnclaveProvenance

/-- A register is `missing` when at least one side lacks it. -/
inductive Outcome
  | agree
  | mismatch
  | missing
deriving DecidableEq, Repr

def Outcome.text : Outcome → String
  | .agree => "match"
  | .mismatch => "mismatch"
  | .missing => "missing"

structure RegisterComparison where
  index : RegisterIndex
  sigstoreValue : Option String
  hardwareValue : Option String
  outcome : Outcome
deriving DecidableEq, Repr

def Outcome.ofValues : Option Bytes → Option Bytes → Outcome
  | some expected, some actual => if expected = actual then .agree else .mismatch
  | _, _ => .missing

def RegisterComparison.make (sigstore hardware : MeasurementSet) (index : RegisterIndex) :
    RegisterComparison where
  index := index
  sigstoreValue := sigstore.hex? index
  hardwareValue := hardware.hex? index
  outcome := .ofValues (sigstore.get? index) (hardware.get? index)

structure Comparison where
  registers : List RegisterComparison
deriving DecidableEq, Repr

namespace Comparison

def make (sigstore hardware : MeasurementSet) (indices : List RegisterIndex) : Comparison :=
  ⟨indices.map (RegisterComparison.make sigstore hardware)⟩

/-- An empty list proves nothing. -/
def success (comparison : Comparison) : Bool :=
  !comparison.registers.isEmpty && comparison.registers.all (·.outcome = .agree)

def missing (comparison : Comparison) : List RegisterIndex :=
  (comparison.registers.filter (·.outcome = .missing)).map RegisterComparison.index

end Comparison

end EnclaveProvenance
