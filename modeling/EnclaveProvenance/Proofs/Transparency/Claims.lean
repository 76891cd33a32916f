import EnclaveProvenance.Proofs.Checks
import EnclaveProvenance.Proofs.Decimal
import EnclaveProvenance.Proofs.Measurements
import EnclaveProvenance.Transparency.Statement

/-!
The registers that a statement claims: which members of its predicate count, for which register,
and with what value.
-/

namespace EnclaveProvenance.Statement

open Checks

def registerKey (index : RegisterIndex) : String := "PCR" ++ toString index.toNat

theorem registerKey_toList (index : RegisterIndex) :
    (registerKey index).toList = ['P', 'C', 'R'] ++ Nat.toDigits 10 index.toNat := by
  rw [registerKey, String.toList_append, Nat.toString_eq_repr, Nat.toList_repr]
  rfl

theorem registerKey_inj {one other : RegisterIndex} (same : registerKey one = registerKey other) :
    one = other := by
  have digits := congrArg String.toList same
  simp only [registerKey_toList, List.append_cancel_left_eq] at digits
  have numbers := congrArg (Nat.ofDigitChars 10 · 0) digits
  simp only [Nat.ofDigitChars_ten_toDigits] at numbers
  exact UInt32.toNat_inj.1 numbers

def Claims (members : List (String × Json.Value)) (index : RegisterIndex) (value : Bytes) : Prop :=
  ∃ text, (registerKey index, .string text) ∈ members ∧ Hex.decode text = .ok value

theorem claims_cons_iff {member : String × Json.Value} {rest : List (String × Json.Value)}
    {index : RegisterIndex} {value : Bytes} : Claims (member :: rest) index value ↔
      (∃ text, member = (registerKey index, .string text) ∧ Hex.decode text = .ok value) ∨
        Claims rest index value := by
  simp only [Claims, List.mem_cons, or_and_right, exists_or, eq_comm]

theorem registerDigits?_eq_some_iff {key : String} {digits : List Char} :
    registerDigits? key = some digits ↔
      key.toList = ['P', 'C', 'R'] ++ digits ∧ digits ≠ [] ∧
        ∀ character ∈ digits, character.isDigit = true := by
  unfold registerDigits?
  have lead : "PCR".toList = ['P', 'C', 'R'] := rfl
  rw [lead]
  split
  · next found prefixed =>
    rw [Text.isPrefixOf?_eq_some_iff] at prefixed
    rw [prefixed]
    by_cases named : found ≠ [] ∧ found.all (·.isDigit) = true
    · rw [if_pos named]
      simp only [List.all_eq_true] at named
      constructor
      · intro same
        cases same
        exact ⟨rfl, named⟩
      · rintro ⟨same, _⟩
        rw [List.append_cancel_left same]
    · rw [if_neg named]
      constructor
      · intro impossible
        cases impossible
      · rintro ⟨same, nonempty, all⟩
        have := List.append_cancel_left same
        subst this
        exact absurd ⟨nonempty, List.all_eq_true.2 all⟩ named
  · next unprefixed =>
    constructor
    · intro impossible
      cases impossible
    · rintro ⟨same, _⟩
      rw [Text.isPrefixOf?_eq_some_iff.2 same] at unprefixed
      cases unprefixed

theorem registerDigits?_registerKey (index : RegisterIndex) :
    registerDigits? (registerKey index) = some (Nat.toDigits 10 index.toNat) := by
  have shortest := Text.shortest_toDigits index.toNat
  exact registerDigits?_eq_some_iff.2
    ⟨registerKey_toList index, shortest.nonempty, shortest.all_digits⟩

theorem registerIndex?_eq_some_iff {digits : List Char} {index : RegisterIndex}
    (nonempty : digits ≠ []) (all : ∀ character ∈ digits, character.isDigit = true) :
    registerIndex? digits = some index ↔ digits = Nat.toDigits 10 index.toNat := by
  unfold registerIndex?
  rw [Text.digits?_eq_some nonempty all]
  by_cases padded : 1 < digits.length ∧ digits.head? = some '0'
  · rw [if_pos padded]
    constructor
    · intro impossible
      cases impossible
    · intro same
      have shortest := Text.shortest_toDigits index.toNat
      rw [← same] at shortest
      exact absurd padded.2 (shortest.no_leading_zero padded.1)
  · rw [if_neg padded]
    have shortest : Text.Shortest digits := ⟨nonempty, all, fun long zero => padded ⟨long, zero⟩⟩
    rw [← Text.shortest_and_value_iff]
    simp only [shortest, true_and]
    by_cases small : Nat.ofDigitChars 10 digits 0 < UInt32.size
    · rw [if_pos small, Option.some.injEq, ← UInt32.toNat_inj, UInt32.toNat_ofNat_of_lt' small]
    · rw [if_neg small]
      constructor
      · intro impossible
        cases impossible
      · intro same
        exact absurd (same ▸ index.toNat_lt) small

theorem registerIndex?_iff_key {key : String} {digits : List Char} {index : RegisterIndex}
    (named : registerDigits? key = some digits) :
    registerIndex? digits = some index ↔ key = registerKey index := by
  have ⟨written, nonempty, all⟩ := registerDigits?_eq_some_iff.1 named
  rw [registerIndex?_eq_some_iff nonempty all, ← String.toList_inj, written, registerKey_toList,
    List.append_cancel_left_eq]

/-- What one member does: it makes no claim, or it claims, in text, a register that has no claim
yet. -/
theorem addClaim_eq_ok_iff {set next : MeasurementSet} {member : String × Json.Value} :
    addClaim set member = .ok next ↔
      registerDigits? member.1 = none ∧ next = set ∨
        ∃ index text value, member = (registerKey index, .string text) ∧
          set.get? index = none ∧ Hex.decode text = .ok value ∧ next = set.insert index value := by
  obtain ⟨key, content⟩ := member
  unfold addClaim
  cases named : registerDigits? key with
  | none =>
    constructor
    · intro added
      exact .inl ⟨rfl, (Except.ok.inj added).symm⟩
    · rintro (⟨_, rfl⟩ | ⟨index, text, value, claimed, _⟩)
      · rfl
      · rw [(Prod.mk.inj claimed).1, registerDigits?_registerKey] at named
        cases named
  | some digits =>
    have keyed (index : RegisterIndex) :
        registerIndex? digits = some index ↔ key = registerKey index := registerIndex?_iff_key named
    simp only [reduceCtorEq, false_and, false_or]
    cases indexed : registerIndex? digits with
    | none =>
      simp only [throw_eq_ok_iff, false_iff]
      rintro ⟨index, text, value, claimed, _⟩
      rw [(keyed index).2 (Prod.mk.inj claimed).1] at indexed
      cases indexed
    | some index =>
      have own := (keyed index).1 indexed
      simp only [refuse_eq_ok_iff, Bool.not_eq_true, MeasurementSet.contains_eq_false_iff]
      constructor
      · rintro ⟨fresh, added⟩
        cases content with
        | string text =>
          simp only [Json.Value.text?, mapError_eq_ok_iff,
            MeasurementSet.insertHex_eq_ok_iff] at added
          obtain ⟨value, decoded, result⟩ := added
          exact ⟨index, text, value, by rw [own], fresh, decoded, result⟩
        | _ => simp [Json.Value.text?, throw_eq_ok_iff] at added
      · rintro ⟨other, text, value, claimed, fresh, decoded, result⟩
        obtain ⟨otherKey, rfl⟩ := Prod.mk.inj claimed
        have same : index = other := Option.some.inj (indexed.symm.trans ((keyed other).2 otherKey))
        subst same
        refine ⟨fresh, ?_⟩
        simp only [Json.Value.text?, mapError_eq_ok_iff, MeasurementSet.insertHex_eq_ok_iff]
        exact ⟨value, decoded, result⟩

theorem addClaims_cons_iff {set final : MeasurementSet} {member : String × Json.Value}
    {rest : List (String × Json.Value)} : addClaims set (member :: rest) = .ok final ↔
      ∃ next, addClaim set member = .ok next ∧ addClaims next rest = .ok final := by
  rw [addClaims, bind_eq_ok_iff]

theorem get?_of_addClaims {set final : MeasurementSet} {members : List (String × Json.Value)}
    (added : addClaims set members = .ok final) (index : RegisterIndex) (value : Bytes) :
    final.get? index = some value ↔ set.get? index = some value ∨ Claims members index value := by
  induction members generalizing set with
  | nil =>
    cases added
    simp [Claims]
  | cons member rest ih =>
    obtain ⟨next, step, later⟩ := addClaims_cons_iff.1 added
    rw [ih later, claims_cons_iff, ← or_assoc]
    refine or_congr ?_ Iff.rfl
    rcases addClaim_eq_ok_iff.1 step with ⟨silent, rfl⟩ |
      ⟨claimed, text, octets, rfl, fresh, decoded, rfl⟩
    · constructor
      · exact .inl
      · rintro (kept | ⟨text, rfl, _⟩)
        · exact kept
        · rw [registerDigits?_registerKey] at silent
          cases silent
    · rw [MeasurementSet.get?_insert]
      by_cases own : claimed = index
      · subst own
        simp [fresh, decoded]
      · have differs (other : String) :
            (registerKey claimed, Json.Value.string text) ≠ (registerKey index, .string other) := by
          intro same
          exact own (registerKey_inj (Prod.mk.inj same).1)
        simp [own, differs]

/-- The registers of a statement are exactly the ones its predicate claims. -/
theorem get?_of_measurements {statement : Statement} {set : MeasurementSet}
    (measured : statement.measurements = .ok set) (index : RegisterIndex) (value : Bytes) :
    set.get? index = some value ↔ Claims statement.predicate index value := by
  unfold measurements at measured
  cases known : Predicate.ofUri? statement.predicateType with
  | none => simp [known, throw_eq_ok_iff] at measured
  | some predicate =>
    simp only [known, bind_eq_ok_iff] at measured
    obtain ⟨claimed, added, kept⟩ := measured
    simp only [refuse_eq_ok_iff, pure_eq_ok_iff] at kept
    rw [← kept.2, get?_of_addClaims added, MeasurementSet.get?_empty]
    simp

end EnclaveProvenance.Statement
