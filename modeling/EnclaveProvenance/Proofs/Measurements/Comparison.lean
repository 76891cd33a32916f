import EnclaveProvenance.Proofs.Measurements.Writes
import EnclaveProvenance.Proofs.Report.Consistency

/-!
What a comparison of two measurement sets depends on: the values of the listed registers and nothing
else, with neither side before the other.
-/

namespace EnclaveProvenance

namespace RegisterComparison

def swap (register : RegisterComparison) : RegisterComparison :=
  { register with
    sigstoreValue := register.hardwareValue
    hardwareValue := register.sigstoreValue }

theorem make_swap (sigstore hardware : MeasurementSet) (index : RegisterIndex) :
    make hardware sigstore index = (make sigstore hardware index).swap := by
  simp only [make, swap, Outcome.ofValues_comm]

theorem make_congr {sigstore hardware otherSigstore otherHardware : MeasurementSet}
    {index : RegisterIndex} (sameSigstore : sigstore.get? index = otherSigstore.get? index)
    (sameHardware : hardware.get? index = otherHardware.get? index) :
    make sigstore hardware index = make otherSigstore otherHardware index := by
  simp only [make, MeasurementSet.hex?, sameSigstore, sameHardware]

theorem agree_iff_texts {sigstore hardware : MeasurementSet} {register : RegisterComparison}
    (tells : Report.Tells sigstore hardware register) :
    register.outcome = .agree ↔
      ∃ text, register.sigstoreValue = some text ∧ register.hardwareValue = some text := by
  rw [tells.agree_iff, tells.sigstore_value, tells.hardware_value]
  simp only [Option.map_eq_some_iff]
  constructor
  · rintro ⟨value, claimed, measured⟩
    exact ⟨Hex.encode value, ⟨value, claimed, rfl⟩, value, measured, rfl⟩
  · rintro ⟨text, ⟨value, claimed, rfl⟩, other, measured, same⟩
    obtain rfl := Hex.encode_inj.1 same
    exact ⟨other, claimed, measured⟩

theorem mismatch_of_extended {sigstore hardware : MeasurementSet} {register : RegisterComparison}
    (tells : Report.Tells sigstore hardware register) {value more : Bytes} (longer : more ≠ [])
    (values : (sigstore.get? register.index = some value ∧
        hardware.get? register.index = some (value ++ more)) ∨
      (sigstore.get? register.index = some (value ++ more) ∧
        hardware.get? register.index = some value)) :
    register.outcome = .mismatch := by
  have differs : value ≠ value ++ more := fun same => longer (List.self_eq_append_right.1 same)
  rw [tells.mismatch_iff]
  rcases values with ⟨claimed, measured⟩ | ⟨claimed, measured⟩
  · exact ⟨_, _, claimed, measured, differs⟩
  · exact ⟨_, _, claimed, measured, differs.symm⟩

end RegisterComparison

namespace Comparison

variable {sigstore hardware : MeasurementSet} {indices : List RegisterIndex}

theorem registers_make : (make sigstore hardware indices).registers =
    indices.map (RegisterComparison.make sigstore hardware) := rfl

theorem tells_of_mem {register : RegisterComparison}
    (member : register ∈ (make sigstore hardware indices).registers) :
    Report.Tells sigstore hardware register := by
  rw [registers_make] at member
  obtain ⟨index, _, rfl⟩ := List.mem_map.1 member
  exact Report.tells_make sigstore hardware index

/-- A comparison has one entry for each listed register, and succeeds when there are entries and
all of them agree. -/
structure Exact (sigstore hardware : MeasurementSet) (indices : List RegisterIndex)
    (comparison : Comparison) : Prop where
  listed : comparison.registers.map RegisterComparison.index = indices
  tells : ∀ register ∈ comparison.registers, Report.Tells sigstore hardware register
  agree_iff_texts : ∀ register ∈ comparison.registers, register.outcome = .agree ↔
    ∃ text, register.sigstoreValue = some text ∧ register.hardwareValue = some text
  extended : ∀ register ∈ comparison.registers, ∀ value more : Bytes, more ≠ [] →
    (sigstore.get? register.index = some value ∧
        hardware.get? register.index = some (value ++ more)) ∨
      (sigstore.get? register.index = some (value ++ more) ∧
        hardware.get? register.index = some value) →
    register.outcome = .mismatch
  success_iff : comparison.success = true ↔
    indices ≠ [] ∧ ∀ register ∈ comparison.registers, register.outcome = .agree

theorem exact_make (sigstore hardware : MeasurementSet) (indices : List RegisterIndex) :
    Exact sigstore hardware indices (make sigstore hardware indices) where
  listed := by
    have own : RegisterComparison.index ∘ RegisterComparison.make sigstore hardware = id := rfl
    rw [registers_make, List.map_map, own, List.map_id]
  tells := fun register member => tells_of_mem member
  agree_iff_texts := fun register member =>
    RegisterComparison.agree_iff_texts (tells_of_mem member)
  extended := fun register member value more longer values =>
    RegisterComparison.mismatch_of_extended (tells_of_mem member) longer values
  success_iff := by simp [success, registers_make]

theorem make_swap (sigstore hardware : MeasurementSet) (indices : List RegisterIndex) :
    (make hardware sigstore indices).registers =
      (make sigstore hardware indices).registers.map RegisterComparison.swap := by
  rw [registers_make, registers_make, List.map_map]
  exact List.map_congr_left fun index _ => RegisterComparison.make_swap sigstore hardware index

theorem make_congr {otherSigstore otherHardware : MeasurementSet}
    (same : ∀ index ∈ indices, sigstore.get? index = otherSigstore.get? index ∧
      hardware.get? index = otherHardware.get? index) :
    make sigstore hardware indices = make otherSigstore otherHardware indices := by
  have entries : indices.map (RegisterComparison.make sigstore hardware) =
      indices.map (RegisterComparison.make otherSigstore otherHardware) :=
    List.map_congr_left fun index member =>
      RegisterComparison.make_congr (same index member).1 (same index member).2
  rw [make, make, entries]

theorem success_of_drawn {drawn : List RegisterIndex}
    (succeeded : (make sigstore hardware indices).success = true) (nonempty : drawn ≠ [])
    (listed : ∀ index ∈ drawn, index ∈ indices) :
    (make sigstore hardware drawn).success = true := by
  rw [success_make_iff] at succeeded ⊢
  exact ⟨nonempty, fun index member => succeeded.2 index (listed index member)⟩

theorem agree_iff_lowercase {writes others : List RegisterWrite}
    (recorded : sigstore.Records writes) (otherRecorded : hardware.Records others)
    {register : RegisterComparison} (tells : Report.Tells sigstore hardware register)
    {text otherText : String}
    (last : RegisterWrite.IsLast writes register.index (.hex register.index text))
    (otherLast : RegisterWrite.IsLast others register.index (.hex register.index otherText)) :
    register.outcome = .agree ↔ Text.lowercase text = Text.lowercase otherText := by
  have shown : register.sigstoreValue = some (Text.lowercase text) :=
    tells.sigstore_value.trans (recorded.hex_of_text register.index text last)
  have otherShown : register.hardwareValue = some (Text.lowercase otherText) :=
    tells.hardware_value.trans (otherRecorded.hex_of_text register.index otherText otherLast)
  rw [RegisterComparison.agree_iff_texts tells, shown, otherShown]
  simp [eq_comm]

/-- A comparison is exact on the listed registers and blind to all else: exchanging the sides
exchanges the columns, sets with the same values under the listed indices compare in the same way,
and a success extends to whatever is drawn from the list. Between sets that were filled with texts a
match is equality up to the case of letters. -/
theorem compares_listed_values :
    (∀ sigstore hardware indices,
      Exact sigstore hardware indices (make sigstore hardware indices)) ∧
    (∀ sigstore hardware indices,
      (make hardware sigstore indices).registers =
          (make sigstore hardware indices).registers.map RegisterComparison.swap ∧
        (make hardware sigstore indices).registers.map RegisterComparison.outcome =
          (make sigstore hardware indices).registers.map RegisterComparison.outcome ∧
        (make hardware sigstore indices).success = (make sigstore hardware indices).success) ∧
    (∀ sigstore hardware otherSigstore otherHardware indices,
      (∀ index ∈ indices, sigstore.get? index = otherSigstore.get? index ∧
        hardware.get? index = otherHardware.get? index) →
      make sigstore hardware indices = make otherSigstore otherHardware indices) ∧
    (∀ sigstore hardware indices drawn,
      (make sigstore hardware indices).success = true → drawn ≠ [] →
      (∀ index ∈ drawn, index ∈ indices) → (make sigstore hardware drawn).success = true) ∧
    (∀ one other writes others indices,
      ∀ register ∈ (make (RegisterWrite.performAll (.empty one) writes)
        (RegisterWrite.performAll (.empty other) others) indices).registers,
      ∀ text otherText,
        RegisterWrite.IsLast writes register.index (.hex register.index text) →
        RegisterWrite.IsLast others register.index (.hex register.index otherText) →
        (register.outcome = .agree ↔ Text.lowercase text = Text.lowercase otherText)) := by
  refine ⟨exact_make, fun sigstore hardware indices => ?_,
    fun _ _ _ _ _ same => make_congr same,
    fun _ _ _ _ succeeded nonempty listed => success_of_drawn succeeded nonempty listed, ?_⟩
  · have exchanged := make_swap sigstore hardware indices
    have outcomes : RegisterComparison.outcome ∘ RegisterComparison.swap =
        RegisterComparison.outcome := rfl
    refine ⟨exchanged, ?_, ?_⟩
    · rw [exchanged, List.map_map, outcomes]
    · rw [Bool.eq_iff_iff, success_make_iff, success_make_iff]
      simp only [and_comm]
  · intro one other writes others indices register member text otherText last otherLast
    exact agree_iff_lowercase (MeasurementSet.records_performAll one writes)
      (MeasurementSet.records_performAll other others) (tells_of_mem member) last otherLast

end Comparison

end EnclaveProvenance
