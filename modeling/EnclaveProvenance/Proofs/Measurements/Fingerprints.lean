import EnclaveProvenance.Proofs.Encodings
import EnclaveProvenance.Proofs.Report.Events

/-!
What the fingerprint of a measurement set says of it: its predicate, and the octets of its values in
the order of the indices. Neither the indices nor the ends of the values are hashed, so that sets are
told apart if they are laid out alike or have different numbers of octets, and only then.
-/

namespace EnclaveProvenance

theorem Predicate.eq_of_head? {one other : Predicate}
    (same : (Bytes.ofText one.text).head? = (Bytes.ofText other.text).head?) : one = other := by
  cases one with
  | awsNitroEnclaveV1 =>
    cases other with
    | awsNitroEnclaveV1 => rfl
    | unknown => exact absurd same (by decide)
  | unknown =>
    cases other with
    | awsNitroEnclaveV1 => exact absurd same (by decide)
    | unknown => rfl

theorem Predicate.ofText_append_inj {one other : Predicate} {rest otherRest : Bytes}
    (same : Bytes.ofText one.text ++ rest = Bytes.ofText other.text ++ otherRest) :
    one = other ∧ rest = otherRest := by
  have start (predicate : Predicate) (after : Bytes) :
      (Bytes.ofText predicate.text ++ after).head? = (Bytes.ofText predicate.text).head? := by
    cases predicate <;> rfl
  have heads := congrArg List.head? same
  rw [start, start] at heads
  obtain rfl := eq_of_head? heads
  exact ⟨rfl, List.append_cancel_left same⟩

def Register.extent (register : Register) : RegisterIndex × Nat :=
  (register.index, register.value.length)

theorem Register.eq_of_extents {registers others : List Register}
    (extents : registers.map extent = others.map extent)
    (octets : registers.flatMap value = others.flatMap value) : registers = others := by
  induction registers generalizing others with
  | nil => exact (List.map_eq_nil_iff.1 extents.symm).symm
  | cons register rest ih =>
    cases others with
    | nil => cases extents
    | cons first others =>
      obtain ⟨extent, extents⟩ := List.cons.inj extents
      obtain ⟨index, length⟩ := Prod.mk.inj extent
      obtain ⟨value, octets⟩ := List.append_inj octets length
      have same : register = first := by
        cases register
        cases first
        cases index
        cases value
        rfl
      rw [same, ih extents octets]

theorem Register.exists_place_eq (index : RegisterIndex) (registers : List Register) :
    ∃ before after, ∀ value, place ⟨index, value⟩ registers = before ++ ⟨index, value⟩ :: after := by
  induction registers with
  | nil => exact ⟨[], [], fun value => rfl⟩
  | cons head rest ih =>
    by_cases first : index < head.index
    · exact ⟨[], head :: rest, fun value => by simp [place, first]⟩
    · by_cases own : index = head.index
      · exact ⟨[], rest, fun value => by simp [place, own]⟩
      · obtain ⟨before, after, placed⟩ := ih
        exact ⟨head :: before, after, fun value => by simp [place, first, own, placed]⟩

namespace MeasurementSet

def octets (set : MeasurementSet) : Bytes := set.registers.flatMap Register.value

def layout (set : MeasurementSet) : List (RegisterIndex × Nat) := set.registers.map Register.extent

/-- The sets have one predicate and the same octets, however these are divided among registers. -/
def SameContent (one other : MeasurementSet) : Prop :=
  one.predicate = other.predicate ∧ one.octets = other.octets

/-- Different sets that are laid out like these two are never hashed as the same octets. -/
def LayoutsToldApart (one other : MeasurementSet) : Prop :=
  ∀ first second : MeasurementSet, first.layout = one.layout → second.layout = other.layout →
    first.fingerprinted = second.fingerprinted → first = second

theorem fingerprinted_eq (set : MeasurementSet) :
    set.fingerprinted = Bytes.ofText set.predicate.text ++ Bytes.ofText (Hex.encode set.octets) := by
  simp only [fingerprinted, octets, Hex.ofText_encode, List.flatMap_assoc]

theorem fingerprinted_eq_iff {one other : MeasurementSet} :
    one.fingerprinted = other.fingerprinted ↔ one.SameContent other := by
  rw [fingerprinted_eq, fingerprinted_eq]
  constructor
  · intro same
    obtain ⟨predicates, values⟩ := Predicate.ofText_append_inj same
    exact ⟨predicates, Hex.encode_inj.1 (Bytes.ofText_inj.1 values)⟩
  · rintro ⟨predicates, values⟩
    rw [predicates, values]

theorem eq_iff_layout {one other : MeasurementSet} :
    one = other ↔ one.SameContent other ∧ one.layout = other.layout := by
  constructor
  · rintro rfl
    exact ⟨⟨rfl, rfl⟩, rfl⟩
  · rintro ⟨⟨predicates, values⟩, layouts⟩
    exact eq_of_perm predicates (.of_eq (Register.eq_of_extents layouts values))

theorem length_octets_congr {one other : MeasurementSet} (layouts : one.layout = other.layout) :
    one.octets.length = other.octets.length := by
  have lengths (set : MeasurementSet) :
      (set.registers.map fun register => register.value.length) = set.layout.map Prod.snd := by
    rw [layout, List.map_map]
    rfl
  rw [octets, octets, List.length_flatMap, List.length_flatMap, lengths, lengths, layouts]

def zeroed (set : MeasurementSet) : MeasurementSet where
  predicate := .awsNitroEnclaveV1
  registers := set.registers.map fun register =>
    { register with value := List.replicate register.value.length 0 }
  ascending := by
    rw [Register.Ascending, List.pairwise_map]
    exact set.ascending

theorem layout_zeroed (set : MeasurementSet) : set.zeroed.layout = set.layout := by
  simp [layout, zeroed, Register.extent]

theorem octets_zeroed (set : MeasurementSet) :
    set.zeroed.octets = List.replicate set.octets.length 0 := by
  rw [List.eq_replicate_iff]
  constructor
  · exact length_octets_congr (layout_zeroed set)
  · intro octet member
    obtain ⟨register, listed, inside⟩ := List.mem_flatMap.1 member
    obtain ⟨register, _, rfl⟩ := List.mem_map.1 listed
    exact List.eq_of_mem_replicate inside

theorem layoutsToldApart_iff {one other : MeasurementSet} :
    one.LayoutsToldApart other ↔
      one.layout = other.layout ∨ one.octets.length ≠ other.octets.length := by
  constructor
  · intro apart
    by_cases lengths : one.octets.length = other.octets.length
    · -- The zeros of both layouts are hashed alike, so that the layouts are those of one set.
      have content : one.zeroed.SameContent other.zeroed :=
        ⟨rfl, by rw [octets_zeroed, octets_zeroed, lengths]⟩
      have same := apart one.zeroed other.zeroed (layout_zeroed one) (layout_zeroed other)
        (fingerprinted_eq_iff.2 content)
      have layouts := congrArg layout same
      rw [layout_zeroed, layout_zeroed] at layouts
      exact .inl layouts
    · exact .inr lengths
  · intro apart first second own others hashed
    have content := fingerprinted_eq_iff.1 hashed
    rcases apart with layouts | lengths
    · exact eq_iff_layout.2 ⟨content, own.trans (layouts.trans others.symm)⟩
    · have total := congrArg List.length content.2
      rw [length_octets_congr own, length_octets_congr others] at total
      exact absurd total lengths

theorem fingerprinted_insert_iff (set : MeasurementSet) (index : RegisterIndex)
    (value other : Bytes) :
    (set.insert index value).fingerprinted = (set.insert index other).fingerprinted ↔
      value = other := by
  obtain ⟨before, after, placed⟩ := Register.exists_place_eq index set.registers
  have written (value : Bytes) : (set.insert index value).octets =
      before.flatMap Register.value ++ (value ++ after.flatMap Register.value) := by
    have registers : (set.insert index value).registers = before ++ ⟨index, value⟩ :: after :=
      placed value
    rw [octets, registers, List.flatMap_append, List.flatMap_cons]
  rw [fingerprinted_eq_iff]
  constructor
  · rintro ⟨_, values⟩
    rw [written, written] at values
    exact List.append_cancel_right (List.append_cancel_left values)
  · rintro rfl
    exact ⟨rfl, rfl⟩

def Collide (one other : MeasurementSet) : Prop :=
  one.fingerprinted ≠ other.fingerprinted ∧ sha256 one.fingerprinted = sha256 other.fingerprinted

theorem fingerprint_eq_iff {one other : MeasurementSet} :
    one.fingerprint = other.fingerprint ↔ one.SameContent other ∨ one.Collide other := by
  rw [fingerprint, fingerprint, Hex.encode_inj, ← fingerprinted_eq_iff, Collide]
  constructor
  · intro digests
    by_cases same : one.fingerprinted = other.fingerprinted
    · exact .inl same
    · exact .inr ⟨same, digests⟩
  · rintro (same | ⟨_, digests⟩)
    · rw [same]
    · exact digests

end MeasurementSet

namespace Report

def LogsFingerprint (report : Report) (stage : Stage) (label fingerprint : String) : Prop :=
  ⟨stage, .debug, s!"{label} measurement fingerprint {fingerprint}"⟩ ∈ report.log.events

theorem Recounts.logsFingerprint_iff {report : Report} {stage : Stage} {label : String}
    {outcome : Except Fault MeasurementSet} (recounts : Recounts report stage label outcome)
    {fingerprint : String} :
    report.LogsFingerprint stage label fingerprint ↔
      ∃ set, outcome = .ok set ∧ set.fingerprint = fingerprint := by
  have own : report.LogsFingerprint stage label fingerprint ↔
      ⟨stage, .debug, s!"{label} measurement fingerprint {fingerprint}"⟩ ∈
        report.log.eventsOf stage := by
    simp [LogsFingerprint, EventLog.eventsOf]
  rw [own]
  cases outcome with
  | error fault =>
    obtain ⟨error, _, _, _, told⟩ := recounts.of_failure fault rfl
    simp [told]
  | ok set =>
    obtain ⟨registers, _, _, told⟩ := recounts.of_set set rfl
    simp [told, toString, eq_comm]

def LogsOneFingerprint (report : Report) : Prop :=
  ∃ fingerprint, report.LogsFingerprint .transparency "Sigstore" fingerprint ∧
    report.LogsFingerprint .hardware "Nitro" fingerprint

theorem logsOneFingerprint_ofOutcomes_iff {digest repository : String}
    {indices : List RegisterIndex} {sigstore hardware : Except Fault MeasurementSet} :
    (ofOutcomes digest repository indices sigstore hardware).LogsOneFingerprint ↔
      ∃ expected actual,
        (ofOutcomes digest repository indices sigstore hardware).sigstore = some expected ∧
        (ofOutcomes digest repository indices sigstore hardware).hardware = some actual ∧
        (expected.SameContent actual ∨ expected.Collide actual) := by
  have consistent := consistent_ofOutcomes digest repository indices sigstore hardware
  have recounted := recounted_ofOutcomes digest repository indices sigstore hardware
  simp only [LogsOneFingerprint, recounted.transparency.logsFingerprint_iff,
    recounted.hardware.logsFingerprint_iff, consistent.sigstore_iff, consistent.hardware_iff]
  constructor
  · rintro ⟨fingerprint, ⟨expected, claimed, own⟩, actual, measured, theirs⟩
    exact ⟨expected, actual, claimed, measured,
      MeasurementSet.fingerprint_eq_iff.1 (own.trans theirs.symm)⟩
  · rintro ⟨expected, actual, claimed, measured, alike⟩
    exact ⟨actual.fingerprint, ⟨expected, claimed, MeasurementSet.fingerprint_eq_iff.2 alike⟩,
      actual, measured, rfl⟩

end Report

namespace MeasurementSet

/-- Of a set its predicate is hashed and its octets in the order of the indices. So among sets of one
layout each is hashed as octets of its own, and two different layouts are told apart just when they
have different numbers of octets. A fingerprint that is logged for both sides of a run is that of sets
with the same content, unless two texts with one digest have been found. -/
theorem fingerprint_identifies_content :
    (∀ one other : MeasurementSet,
      one.fingerprinted = other.fingerprinted ↔ one.SameContent other) ∧
    (∀ one other : MeasurementSet,
      one = other ↔ one.fingerprinted = other.fingerprinted ∧ one.layout = other.layout) ∧
    (∀ one other : MeasurementSet, one.LayoutsToldApart other ↔
      one.layout = other.layout ∨ one.octets.length ≠ other.octets.length) ∧
    (∀ (set : MeasurementSet) index value other,
      (set.insert index value).fingerprinted = (set.insert index other).fingerprinted ↔
        value = other) ∧
    (∀ one other : MeasurementSet,
      one.fingerprint = other.fingerprint ↔ one.SameContent other ∨ one.Collide other) ∧
    (∀ (orchestrator : Orchestrator) clock digest repository bundle document,
      (orchestrator.run clock digest repository bundle document).LogsOneFingerprint ↔
        ∃ expected actual,
          (orchestrator.run clock digest repository bundle document).sigstore = some expected ∧
          (orchestrator.run clock digest repository bundle document).hardware = some actual ∧
          (expected.SameContent actual ∨ expected.Collide actual)) := by
  refine ⟨fun one other => fingerprinted_eq_iff, fun one other => ?_,
    fun one other => layoutsToldApart_iff, fingerprinted_insert_iff,
    fun one other => fingerprint_eq_iff, ?_⟩
  · rw [fingerprinted_eq_iff]
    exact eq_iff_layout
  · intro orchestrator clock digest repository bundle document
    exact Report.logsOneFingerprint_ofOutcomes_iff

def whole : MeasurementSet := (empty .awsNitroEnclaveV1).insert 0 (List.replicate 64 1)

def moved : MeasurementSet := (empty .awsNitroEnclaveV1).insert 1 (List.replicate 64 1)

def divided : MeasurementSet :=
  ((empty .awsNitroEnclaveV1).insert 0 (List.replicate 32 1)).insert 1 (List.replicate 32 1)

theorem whole_sameContent_moved : whole.SameContent moved := ⟨rfl, by decide⟩

theorem whole_sameContent_divided : whole.SameContent divided := ⟨rfl, by decide⟩

/-- Other indices and other boundaries are not seen, and a run whose comparison fails can log one
fingerprint for both sides. -/
theorem content_hashed_without_layout :
    (whole.fingerprinted = moved.fingerprinted ∧ whole ≠ moved) ∧
    (whole.fingerprinted = divided.fingerprinted ∧ whole ≠ divided) ∧
    (Report.ofOutcomes "0" "o/r" [0, 1] (.ok whole) (.ok divided)).LogsOneFingerprint ∧
    (Report.ofOutcomes "0" "o/r" [0, 1] (.ok whole) (.ok divided)).success = false := by
  refine ⟨⟨fingerprinted_eq_iff.2 whole_sameContent_moved, by decide⟩,
    ⟨fingerprinted_eq_iff.2 whole_sameContent_divided, by decide⟩, ?_, by decide⟩
  exact Report.logsOneFingerprint_ofOutcomes_iff.2
    ⟨whole, divided, rfl, rfl, .inl whole_sameContent_divided⟩

end MeasurementSet

end EnclaveProvenance
