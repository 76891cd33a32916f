import EnclaveProvenance.Proofs.Attestation.Registers

/-!
The record that an attestation document carries, as a payload and within its limits.
-/

namespace EnclaveProvenance

open Checks

theorem Register.perm_place {register : Register} {registers : List Register}
    (fresh : register.index ∉ registers.map Register.index) :
    (place register registers).Perm (register :: registers) := by
  induction registers with
  | nil => exact .refl _
  | cons head rest ih =>
    rw [List.map_cons, List.mem_cons, not_or] at fresh
    unfold place
    rw [if_neg fresh.1]
    split
    · exact .refl _
    · exact ((ih fresh.2).cons head).trans (.swap _ _ _)

namespace MeasurementSet

def insertAll (set : MeasurementSet) (registers : List Register) : MeasurementSet :=
  registers.foldl (fun set register => set.insert register.index register.value) set

theorem perm_insertAll {registers : List Register} {set : MeasurementSet}
    (distinct : ((registers ++ set.registers).map Register.index).Nodup) :
    (set.insertAll registers).registers.Perm (registers ++ set.registers) := by
  induction registers generalizing set with
  | nil => exact .refl _
  | cons first rest ih =>
    rw [List.cons_append, List.map_cons, List.nodup_cons, List.map_append, List.mem_append,
      not_or] at distinct
    have placed : (set.insert first.index first.value).registers.Perm (first :: set.registers) :=
      Register.perm_place distinct.1.2
    have moved : (rest ++ (set.insert first.index first.value).registers).Perm
        (first :: (rest ++ set.registers)) :=
      (placed.append_left rest).trans List.perm_middle
    refine (ih ?_).trans moved
    rw [(moved.map Register.index).nodup_iff, List.map_cons, List.nodup_cons, List.map_append,
      List.mem_append, not_or]
    exact distinct

theorem perm_insertAll_empty {predicate : Predicate} {registers : List Register}
    (distinct : (registers.map Register.index).Nodup) :
    ((empty predicate).insertAll registers).registers.Perm registers := by
  have kept := @perm_insertAll registers (empty predicate)
  simp only [show (empty predicate).registers = [] from rfl, List.append_nil] at kept
  exact kept distinct

theorem predicate_insertAll (set : MeasurementSet) (registers : List Register) :
    (set.insertAll registers).predicate = set.predicate := by
  induction registers generalizing set with
  | nil => rfl
  | cons first rest ih => exact ih _

end MeasurementSet

namespace Attestation

/-- The fields of a document; no register stands twice in `pcrs`. -/
structure Record where
  moduleId : String
  digest : String
  timestamp : UInt64
  pcrs : List Register
  distinct : (pcrs.map Register.index).Nodup
  certificate : Bytes
  authorities : List Bytes
  publicKey : Option Bytes
  userData : Option Bytes
  nonce : Option Bytes

namespace Record

def measurements (record : Record) : MeasurementSet :=
  (MeasurementSet.empty .awsNitroEnclaveV1).insertAll record.pcrs

def payload (record : Record) : Payload where
  moduleId := record.moduleId
  digest := record.digest
  timestamp := record.timestamp.toNat
  measurements := record.measurements
  certificate := record.certificate
  authorities := record.authorities
  publicKey := record.publicKey
  userData := record.userData
  nonce := record.nonce

theorem perm_measurements (record : Record) : record.measurements.registers.Perm record.pcrs :=
  MeasurementSet.perm_insertAll_empty record.distinct

theorem insertAll_of_perm {record : Record} {order : List Register}
    (perm : order.Perm record.pcrs) :
    (MeasurementSet.empty .awsNitroEnclaveV1).insertAll order = record.measurements := by
  have distinct := (perm.map Register.index).nodup_iff.2 record.distinct
  refine MeasurementSet.eq_of_perm ?_ ((MeasurementSet.perm_insertAll_empty distinct).trans
    (perm.trans record.perm_measurements.symm))
  rw [measurements, MeasurementSet.predicate_insertAll, MeasurementSet.predicate_insertAll]

theorem get?_measurements (record : Record) (index : RegisterIndex) (value : Bytes) :
    record.measurements.get? index = some value ↔ ⟨index, value⟩ ∈ record.pcrs := by
  rw [MeasurementSet.get?_eq_some_iff, record.perm_measurements.mem_iff]

/-- The syntax rules for documents. -/
structure WithinLimits (record : Record) : Prop where
  module_named : record.moduleId ≠ ""
  digest_known : record.digest = "SHA384"
  timestamp_given : record.timestamp ≠ 0
  registers : Payload.Registers record.pcrs
  some_authority : record.authorities ≠ []
  certificates : ∀ certificate ∈ record.authorities ++ [record.certificate],
    1 ≤ certificate.length ∧ certificate.length ≤ 1024
  public_key : ∀ content, record.publicKey = some content → content.length ≤ 1024
  user_data : ∀ content, record.userData = some content → content.length ≤ 512
  nonce : ∀ content, record.nonce = some content → content.length ≤ 512

end Record

namespace Payload

theorem checkCertificates_eq_ok_iff {certificates : List Bytes} {done : Unit} :
    checkCertificates certificates = .ok done ↔
      ∀ certificate ∈ certificates, 1 ≤ certificate.length ∧ certificate.length ≤ 1024 := by
  induction certificates with
  | nil => simp [checkCertificates]
  | cons certificate rest ih =>
    rw [checkCertificates, List.forall_mem_cons, ← ih, maxCertificate]
    by_cases bad : certificate.length = 0 ∨ 1024 < certificate.length
    · rw [if_pos bad]
      constructor
      · intro impossible
        cases impossible
      · rintro ⟨good, _⟩
        omega
    · rw [if_neg bad, and_iff_right (by omega)]

theorem checkLength_eq_ok_iff {field : String} {limit : Nat} {value : Option Bytes} {done : Unit} :
    checkLength field limit value = .ok done ↔
      ∀ content, value = some content → content.length ≤ limit := by
  unfold checkLength
  cases value with
  | none => simp
  | some content =>
    by_cases long : limit < content.length
    · simp [long]
    · simp [long]
      omega

theorem check_eq_ok_iff {record : Record} :
    record.payload.check = .ok () ↔ record.WithinLimits := by
  have perm := record.perm_measurements
  have measured : record.payload.measurements.size = record.pcrs.length := perm.length_eq
  have stamped : record.payload.timestamp = 0 ↔ record.timestamp = 0 :=
    @UInt64.toNat_inj record.timestamp 0
  simp only [check, refuse_eq_ok_iff, bind_eq_ok_iff, checkRegisters_eq_ok_iff,
    checkRegister_eq_ok_iff, checkCertificates_eq_ok_iff, checkLength_eq_ok_iff, measured, stamped,
    maxRegisters]
  constructor
  · rintro ⟨named, digest, time, count, _, each, some, _, certificates, _, key, _, data, nonce⟩
    exact {
      module_named := named
      digest_known := Decidable.not_not.1 digest
      timestamp_given := time
      registers := {
        some_register := by omega
        few_registers := by omega
        index_small := fun register member => (each register (perm.mem_iff.2 member)).1
        value_length := fun register member => (each register (perm.mem_iff.2 member)).2 }
      some_authority := some
      certificates := certificates
      public_key := key
      user_data := data
      nonce := nonce }
  · intro limits
    have few := limits.registers.few_registers
    have many := limits.registers.some_register
    have each (register : Register) (member : register ∈ record.payload.measurements.registers) :=
      And.intro (limits.registers.index_small register (perm.mem_iff.1 member))
        (limits.registers.value_length register (perm.mem_iff.1 member))
    exact ⟨limits.module_named, Decidable.not_not.2 limits.digest_known, limits.timestamp_given,
      by omega, (), each, limits.some_authority, (), limits.certificates, (), limits.public_key, (),
      limits.user_data, limits.nonce⟩

end Payload

end Attestation

end EnclaveProvenance
