import EnclaveProvenance.Attestation.Payload
import EnclaveProvenance.Proofs.Checks
import EnclaveProvenance.Proofs.Measurements

/-!
The registers that an attestation document measures: which entries of its payload give them, the
last one for a number counting, and the limits they are within.
-/

namespace EnclaveProvenance

open Checks

namespace Attestation.Payload

open Cbor (Item)

theorem natural?_le {limit value : Nat} {item : Item} (read : item.natural? limit = some value) :
    value ≤ limit := by
  fun_induction Item.natural? limit item with
  | case1 given small => exact Option.some.inj read ▸ small
  | case3 definite digits small => exact Option.some.inj read ▸ small
  | case7 number content _ _ ih => exact ih read
  | _ => cases read

def IsUnder (index : RegisterIndex) (entry : Item × Item) : Prop :=
  entry.1.natural? (UInt32.size - 1) = some index.toNat

def LastUnder (index : RegisterIndex) (entries : List (Item × Item)) (value : Bytes) : Prop :=
  ∃ before entry after, entries = before ++ entry :: after ∧ IsUnder index entry ∧
    entry.2.octets? = some value ∧ ∀ later ∈ after, ¬IsUnder index later

theorem lastUnder_cons_iff {index : RegisterIndex} {entry : Item × Item}
    {rest : List (Item × Item)} {value : Bytes} :
    LastUnder index (entry :: rest) value ↔
      LastUnder index rest value ∨
        (∀ later ∈ rest, ¬IsUnder index later) ∧ IsUnder index entry ∧ entry.2.octets? = some value := by
  constructor
  · rintro ⟨before, last, after, split, under, octets, none⟩
    cases before with
    | nil =>
      obtain ⟨rfl, rfl⟩ := List.cons.inj split
      exact .inr ⟨none, under, octets⟩
    | cons first before =>
      obtain ⟨rfl, rfl⟩ := List.cons.inj split
      exact .inl ⟨before, last, after, rfl, under, octets, none⟩
  · rintro (⟨before, last, after, rfl, under, octets, none⟩ | ⟨none, under, octets⟩)
    · exact ⟨entry :: before, last, after, rfl, under, octets, none⟩
    · exact ⟨[], entry, rest, rfl, under, octets, none⟩

theorem addRegister_eq_some_iff {set next : MeasurementSet} {entry : Item × Item} :
    addRegister set entry = some next ↔
      ∃ index value, IsUnder index entry ∧ entry.2.octets? = some value ∧
        next = set.insert index value := by
  simp only [addRegister, Option.bind_eq_bind, Option.bind_eq_some_iff, Option.pure_def,
    Option.some.injEq]
  constructor
  · rintro ⟨number, read, value, octets, rfl⟩
    have small : number < UInt32.size := Nat.lt_of_le_pred (by decide) (natural?_le read)
    refine ⟨UInt32.ofNat number, value, ?_, octets, rfl⟩
    rw [IsUnder, UInt32.toNat_ofNat_of_lt' small, read]
  · rintro ⟨index, value, under, octets, rfl⟩
    exact ⟨index.toNat, under, value, octets, by rw [UInt32.ofNat_toNat]⟩

theorem get?_of_addRegisters {set final : MeasurementSet} {entries : List (Item × Item)}
    (added : entries.foldlM addRegister set = some final) (index : RegisterIndex) (value : Bytes) :
    final.get? index = some value ↔
      LastUnder index entries value ∨
        (∀ entry ∈ entries, ¬IsUnder index entry) ∧ set.get? index = some value := by
  induction entries generalizing set with
  | nil =>
    cases added
    simp [LastUnder]
  | cons entry rest ih =>
    rw [List.foldlM_cons, Option.bind_eq_bind, Option.bind_eq_some_iff] at added
    obtain ⟨next, step, later⟩ := added
    obtain ⟨own, octets, under, content, rfl⟩ := addRegister_eq_some_iff.1 step
    rw [ih later, lastUnder_cons_iff, MeasurementSet.get?_insert, List.forall_mem_cons]
    by_cases same : own = index
    · subst same
      simp [under, content]
    · have other : ¬IsUnder index entry := by
        intro both
        rw [IsUnder, under, Option.some.injEq] at both
        exact same (UInt32.toNat_inj.1 both)
      simp [same, other]

/-- A payload's text measures a register with a value: the field `pcrs` of the map it starts with
has the value in its last entry under the register's number. -/
def Measures (text : Bytes) (index : RegisterIndex) (value : Bytes) : Prop :=
  ∃ item rest entries fields pcrs registers,
    Cbor.firstItem? text = some (item, rest) ∧ item.entries? = some entries ∧
    fields? entries = some fields ∧ fields.lookup "pcrs" = some pcrs ∧
    pcrs.entries? = some registers ∧ LastUnder index registers value

theorem get?_of_measurements? {item : Item} {set : MeasurementSet}
    (measured : measurements? item = some set) (index : RegisterIndex) (value : Bytes) :
    set.get? index = some value ↔
      ∃ registers, item.entries? = some registers ∧ LastUnder index registers value := by
  rw [measurements?, Option.bind_eq_some_iff] at measured
  obtain ⟨registers, entries, added⟩ := measured
  rw [get?_of_addRegisters added, entries, MeasurementSet.get?_empty]
  simp

theorem ofFields?_measurements {fields : List (String × Item)} {payload : Payload}
    (read : ofFields? fields = some payload) :
    ∃ pcrs, fields.lookup "pcrs" = some pcrs ∧ measurements? pcrs = some payload.measurements := by
  simp only [ofFields?, required, Option.bind_eq_bind, Option.bind_eq_some_iff, Option.pure_def,
    Option.some.injEq] at read
  obtain ⟨_, _, _, _, _, _, set, ⟨pcrs, given, measured⟩, _, _, _, _, _, _, _, _, _, _, rfl⟩ := read
  exact ⟨pcrs, given, measured⟩

/-- The registers of a payload are exactly the ones that its text measures. -/
theorem get?_of_read? {text : Bytes} {payload : Payload} (read : read? text = some payload)
    (index : RegisterIndex) (value : Bytes) :
    payload.measurements.get? index = some value ↔ Measures text index value := by
  simp only [read?, Option.bind_eq_bind, Option.bind_eq_some_iff, Prod.exists] at read
  obtain ⟨item, rest, first, entries, isMap, fields, declared, whole⟩ := read
  obtain ⟨pcrs, given, measured⟩ := ofFields?_measurements whole
  rw [get?_of_measurements? measured]
  simp [Measures, first, isMap, declared, given]

theorem ofBytes_eq_ok_iff {text : Bytes} {payload : Payload} :
    ofBytes text = .ok payload ↔ read? text = some payload ∧ payload.check = .ok () := by
  unfold ofBytes
  cases read? text with
  | none => simp [throw_eq_ok_iff]
  | some found =>
    simp only [bind_eq_ok_iff, pure_eq_ok_iff, Option.some.injEq]
    constructor
    · rintro ⟨_, checked, rfl⟩
      exact ⟨rfl, checked⟩
    · rintro ⟨rfl, checked⟩
      exact ⟨(), checked, rfl⟩

structure Registers (registers : List Register) : Prop where
  some_register : 1 ≤ registers.length
  few_registers : registers.length ≤ 32
  index_small : ∀ register ∈ registers, register.index.toNat < 32
  value_length : ∀ register ∈ registers, register.value.length = 32 ∨ register.value.length = 48 ∨
    register.value.length = 64

theorem checkRegister_eq_ok_iff {register : Register} {done : Unit} :
    checkRegister register = .ok done ↔
      register.index.toNat < 32 ∧
        (register.value.length = 32 ∨ register.value.length = 48 ∨ register.value.length = 64) := by
  unfold checkRegister maxRegisters
  by_cases high : 32 ≤ register.index.toNat
  · rw [if_pos high]
    constructor
    · intro impossible
      cases impossible
    · rintro ⟨low, _⟩
      omega
  · rw [if_neg high]
    have low : register.index.toNat < 32 := by omega
    by_cases known : registerLengths.contains register.value.length = true
    · rw [if_pos known]
      simpa [low, registerLengths] using known
    · rw [if_neg known]
      simpa [low, registerLengths] using known

theorem checkRegisters_eq_ok_iff {registers : List Register} {done : Unit} :
    checkRegisters registers = .ok done ↔
      ∀ register ∈ registers, checkRegister register = .ok () := by
  induction registers with
  | nil => simp [checkRegisters]
  | cons register rest ih =>
    rw [checkRegisters, bind_eq_ok_iff, List.forall_mem_cons, ← ih]
    constructor
    · rintro ⟨_, own, later⟩
      exact ⟨own, later⟩
    · rintro ⟨own, later⟩
      exact ⟨(), own, later⟩

theorem registers_of_check {payload : Payload} (checked : payload.check = .ok ()) :
    Registers payload.measurements.registers := by
  simp only [check, refuse_eq_ok_iff, bind_eq_ok_iff, checkRegisters_eq_ok_iff,
    checkRegister_eq_ok_iff, MeasurementSet.size, maxRegisters] at checked
  obtain ⟨_, _, _, count, _, each, _⟩ := checked
  exact {
    some_register := by omega
    few_registers := by omega
    index_small := fun register member => (each register member).1
    value_length := fun register member => (each register member).2 }

end Attestation.Payload

end EnclaveProvenance
