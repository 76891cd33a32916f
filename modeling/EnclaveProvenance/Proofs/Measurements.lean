import EnclaveProvenance.Comparison

/-!
Measurement sets as maps from register indices to values, and what it takes for two of them to
agree on the registers that are compared.
-/

namespace EnclaveProvenance

theorem Register.find?_place (register : Register) (registers : List Register)
    (index : RegisterIndex) :
    (place register registers).find? (·.index == index) =
      if register.index = index then some register else registers.find? (·.index == index) := by
  induction registers with
  | nil => by_cases own : register.index = index <;> simp [place, own]
  | cons head rest ih =>
    unfold place
    split
    · by_cases own : register.index = index <;> simp [own]
    · split
      · next same => by_cases own : register.index = index <;> simp [← same, own]
      · next differs =>
        rw [List.find?_cons, ih, List.find?_cons]
        by_cases own : register.index = index
        · have passed : (head.index == index) = false :=
            beq_eq_false_iff_ne.2 fun found => differs (own.trans found.symm)
          simp [own, passed]
        · simp [own]

namespace MeasurementSet

theorem get?_empty (predicate : Predicate) (index : RegisterIndex) :
    (empty predicate).get? index = none := rfl

theorem get?_insert (set : MeasurementSet) (index other : RegisterIndex) (value : Bytes) :
    (set.insert index value).get? other = if index = other then some value else set.get? other := by
  unfold get? insert
  rw [Register.find?_place]
  by_cases own : index = other <;> simp [own]

theorem contains_eq_false_iff {set : MeasurementSet} {index : RegisterIndex} :
    set.contains index = false ↔ set.get? index = none := by
  simp [contains]

theorem insertHex_eq_ok_iff {set next : MeasurementSet} {index : RegisterIndex} {text : String} :
    set.insertHex index text = .ok next ↔
      ∃ value, Hex.decode text = .ok value ∧ next = set.insert index value := by
  unfold insertHex
  cases Hex.decode text <;> simp [Except.map, eq_comm]

theorem get?_eq_some_iff {set : MeasurementSet} {index : RegisterIndex} {value : Bytes} :
    set.get? index = some value ↔ ⟨index, value⟩ ∈ set.registers := by
  have found (registers : List Register) (ascending : Register.Ascending registers) :
      (registers.find? (·.index == index)).map Register.value = some value ↔
        ⟨index, value⟩ ∈ registers := by
    induction registers with
    | nil => simp
    | cons head rest ih =>
      have ⟨below, restAscending⟩ := List.pairwise_cons.1 ascending
      rw [List.find?_cons]
      by_cases own : head.index = index
      · have later : ⟨index, value⟩ ∉ rest := by
          intro member
          exact UInt32.lt_irrefl index (by simpa [own] using below _ member)
        simp only [own, beq_self_eq_true, Option.map_some, Option.some.injEq, List.mem_cons, later,
          or_false]
        constructor
        · rintro rfl
          rw [← own]
        · intro same
          rw [← same]
      · have other : head ≠ ⟨index, value⟩ := fun same => own (by rw [same])
        rw [beq_eq_false_iff_ne.2 own, ih restAscending]
        simp [Ne.symm other]
  exact found set.registers set.ascending

theorem eq_of_perm {one other : MeasurementSet}
    (predicate : one.predicate = other.predicate)
    (perm : one.registers.Perm other.registers) : one = other := by
  obtain ⟨onePredicate, oneRegisters, oneAscending⟩ := one
  obtain ⟨otherPredicate, otherRegisters, otherAscending⟩ := other
  have registers : oneRegisters = otherRegisters :=
    perm.eq_of_pairwise (fun first second _ _ below above =>
      absurd (UInt32.lt_trans below above) (UInt32.lt_irrefl _)) oneAscending otherAscending
  cases predicate
  cases registers
  rfl

theorem eq_of_get? {one other : MeasurementSet} (predicate : one.predicate = other.predicate)
    (values : ∀ index value, one.get? index = some value ↔ other.get? index = some value) :
    one = other := by
  have distinct (set : MeasurementSet) : set.registers.Nodup := by
    refine List.Pairwise.imp ?_ set.ascending
    rintro first _ below rfl
    exact UInt32.lt_irrefl _ below
  apply eq_of_perm predicate
  rw [List.perm_ext_iff_of_nodup (distinct one) (distinct other)]
  rintro ⟨index, value⟩
  rw [← get?_eq_some_iff, ← get?_eq_some_iff, values]

theorem isEmpty_eq_false_iff {set : MeasurementSet} :
    set.isEmpty = false ↔ ∃ index value, set.get? index = some value := by
  simp only [isEmpty, List.isEmpty_eq_false_iff_exists_mem, get?_eq_some_iff]
  constructor
  · rintro ⟨⟨index, value⟩, member⟩
    exact ⟨index, value, member⟩
  · rintro ⟨index, value, member⟩
    exact ⟨⟨index, value⟩, member⟩

end MeasurementSet

theorem Outcome.ofValues_eq_agree_iff {expected actual : Option Bytes} :
    ofValues expected actual = .agree ↔ ∃ value, expected = some value ∧ actual = some value := by
  cases expected with
  | none => simp [ofValues]
  | some value => cases actual <;> simp [ofValues, eq_comm]

theorem Outcome.ofValues_eq_missing_iff {expected actual : Option Bytes} :
    ofValues expected actual = .missing ↔ expected = none ∨ actual = none := by
  cases expected with
  | none => simp [ofValues]
  | some value =>
    cases actual with
    | none => simp [ofValues]
    | some other =>
      by_cases same : value = other
      · simp [ofValues, same]
      · simp [ofValues, same]

theorem Outcome.ofValues_eq_mismatch_iff {expected actual : Option Bytes} :
    ofValues expected actual = .mismatch ↔
      ∃ one other, expected = some one ∧ actual = some other ∧ one ≠ other := by
  cases expected with
  | none => simp [ofValues]
  | some value =>
    cases actual with
    | none => simp [ofValues]
    | some other =>
      by_cases same : value = other
      · simp [ofValues, same]
      · simp [ofValues, same]

theorem Outcome.ofValues_comm (one other : Option Bytes) :
    ofValues one other = ofValues other one := by
  cases one with
  | none => cases other <;> rfl
  | some value =>
    cases other with
    | none => rfl
    | some different =>
      by_cases same : value = different
      · simp [ofValues, same]
      · simp [ofValues, same, Ne.symm same]

theorem Comparison.success_make_iff {sigstore hardware : MeasurementSet}
    {indices : List RegisterIndex} :
    (make sigstore hardware indices).success = true ↔
      indices ≠ [] ∧ ∀ index ∈ indices,
        ∃ value, sigstore.get? index = some value ∧ hardware.get? index = some value := by
  simp [success, make, RegisterComparison.make, Outcome.ofValues_eq_agree_iff]

end EnclaveProvenance
