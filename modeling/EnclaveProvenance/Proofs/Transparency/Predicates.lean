import EnclaveProvenance.Proofs.Transparency.Claims
import EnclaveProvenance.Proofs.Transparency.Failures
import EnclaveProvenance.Proofs.Transparency.Written

/-!
When the predicate of a statement gives a set of registers, and what does not count there: the order of
its members, members that name no register, and the case of hexadecimal digits.
-/

namespace EnclaveProvenance.Statement

open Checks

variable {members others : List (String × Json.Value)} {set final : MeasurementSet}

def IsRegisterKey (key : String) : Prop :=
  ∃ digits, key.toList = "PCR".toList ++ digits ∧ digits ≠ [] ∧
    ∀ character ∈ digits, character.isDigit = true

def IsClaim (member : String × Json.Value) : Prop :=
  ∃ index text value, member = (registerKey index, .string text) ∧ Hex.decode text = .ok value

def NamesRegister (members : List (String × Json.Value)) : Prop :=
  ∃ member ∈ members, IsRegisterKey member.1

def Sound (members : List (String × Json.Value)) : Prop :=
  ∀ member ∈ members, IsRegisterKey member.1 → IsClaim member

def Unrepeated (members : List (String × Json.Value)) : Prop :=
  members.Pairwise fun one other => one.1 = other.1 → ¬IsRegisterKey one.1

theorem registerDigits?_eq_none_iff {key : String} :
    registerDigits? key = none ↔ ¬IsRegisterKey key := by
  rw [Option.eq_none_iff_forall_ne_some]
  simp only [ne_eq, registerDigits?_eq_some_iff]
  exact not_exists.symm

theorem isRegisterKey_registerKey (index : RegisterIndex) : IsRegisterKey (registerKey index) :=
  ⟨_, registerDigits?_eq_some_iff.1 (registerDigits?_registerKey index)⟩

theorem registerIndex?_of_key_iff {key : String} {index : RegisterIndex} :
    (registerDigits? key).bind registerIndex? = some index ↔ key = registerKey index := by
  constructor
  · intro read
    obtain ⟨digits, named, indexed⟩ := Option.bind_eq_some_iff.1 read
    exact (registerIndex?_iff_key named).1 indexed
  · rintro rfl
    have named := registerDigits?_registerKey index
    exact Option.bind_eq_some_iff.2 ⟨_, named, (registerIndex?_iff_key named).2 rfl⟩

section Members

variable {member : String × Json.Value} {index : RegisterIndex} {content : Json.Value}

theorem sound_cons_of_unnamed (unnamed : ¬IsRegisterKey member.1) :
    Sound (member :: members) ↔ Sound members := by
  simp only [Sound, List.forall_mem_cons, unnamed, false_implies, true_and]

theorem sound_cons_of_named (named : IsRegisterKey member.1) :
    Sound (member :: members) ↔ IsClaim member ∧ Sound members := by
  simp only [Sound, List.forall_mem_cons, named, true_implies]

theorem unrepeated_cons_of_unnamed (unnamed : ¬IsRegisterKey member.1) :
    Unrepeated (member :: members) ↔ Unrepeated members := by
  simp [Unrepeated, unnamed]

theorem unrepeated_cons_register : Unrepeated ((registerKey index, content) :: members) ↔
    (∀ other ∈ members, other.1 ≠ registerKey index) ∧ Unrepeated members := by
  simp [Unrepeated, isRegisterKey_registerKey, eq_comm]

theorem unrepeated_of_nodup (distinct : (members.map Prod.fst).Nodup) : Unrepeated members :=
  (List.pairwise_map.1 distinct).imp fun differ same => absurd same differ

def FreshFor (set : MeasurementSet) (members : List (String × Json.Value)) : Prop :=
  ∀ member ∈ members, ∀ index, member.1 = registerKey index → set.get? index = none

theorem freshFor_empty (predicate : Predicate) (members : List (String × Json.Value)) :
    FreshFor (.empty predicate) members :=
  fun _ _ _ _ => rfl

theorem freshFor_cons_of_unnamed (unnamed : ¬IsRegisterKey member.1) :
    FreshFor set (member :: members) ↔ FreshFor set members := by
  rw [FreshFor, List.forall_mem_cons, and_iff_right]
  · exact Iff.rfl
  · intro index named
    exact absurd (named ▸ isRegisterKey_registerKey index) unnamed

theorem freshFor_cons_register : FreshFor set ((registerKey index, content) :: members) ↔
    set.get? index = none ∧ FreshFor set members := by
  rw [FreshFor, List.forall_mem_cons]
  refine and_congr ⟨fun fresh => fresh index rfl, fun absent other same => ?_⟩ Iff.rfl
  rw [← registerKey_inj same, absent]

theorem freshFor_insert_iff {value : Bytes} : FreshFor (set.insert index value) members ↔
    FreshFor set members ∧ ∀ other ∈ members, other.1 ≠ registerKey index := by
  simp only [FreshFor, MeasurementSet.get?_insert]
  constructor
  · intro fresh
    refine ⟨fun other belongs own named => ?_, fun other belongs named => ?_⟩
    · have absent := fresh other belongs own named
      split at absent
      · cases absent
      · exact absent
    · have absent := fresh other belongs index named
      rw [if_pos rfl] at absent
      cases absent
  · rintro ⟨fresh, others⟩ other belongs own named
    rw [if_neg]
    · exact fresh other belongs own named
    · rintro rfl
      exact others other belongs named

end Members

section Reading

variable {member : String × Json.Value} {index : RegisterIndex} {text : String} {value : Bytes}

theorem addClaims_of_unnamed (unnamed : ¬IsRegisterKey member.1) :
    addClaims set (member :: members) = addClaims set members := by
  have step : addClaim set member = .ok set :=
    addClaim_eq_ok_iff.2 (.inl ⟨registerDigits?_eq_none_iff.2 unnamed, rfl⟩)
  rw [addClaims, step]
  rfl

theorem isClaim_of_addClaim {next : MeasurementSet} (named : IsRegisterKey member.1)
    (added : addClaim set member = .ok next) : IsClaim member := by
  rcases addClaim_eq_ok_iff.1 added with ⟨silent, _⟩ | ⟨index, text, value, own, _, decoded, _⟩
  · exact absurd named (registerDigits?_eq_none_iff.1 silent)
  · exact ⟨index, text, value, own, decoded⟩

theorem addClaims_claim_iff (decoded : Hex.decode text = .ok value) :
    addClaims set ((registerKey index, .string text) :: members) = .ok final ↔
      set.get? index = none ∧ addClaims (set.insert index value) members = .ok final := by
  rw [addClaims_cons_iff]
  constructor
  · rintro ⟨next, step, later⟩
    rcases addClaim_eq_ok_iff.1 step with ⟨silent, _⟩ | ⟨own, spelled, octets, same, free, read, rfl⟩
    · exact absurd (isRegisterKey_registerKey index) (registerDigits?_eq_none_iff.1 silent)
    · obtain ⟨key, content⟩ := Prod.mk.inj same
      cases registerKey_inj key
      cases content
      cases decoded.symm.trans read
      exact ⟨free, later⟩
  · rintro ⟨free, later⟩
    exact ⟨_, addClaim_eq_ok_iff.2 (.inr ⟨index, text, value, rfl, free, decoded, rfl⟩), later⟩

theorem exists_addClaims_iff : (∃ final, addClaims set members = .ok final) ↔
    Sound members ∧ Unrepeated members ∧ FreshFor set members := by
  induction members generalizing set with
  | nil => simp [addClaims, Sound, Unrepeated, FreshFor]
  | cons member rest ih =>
    by_cases named : IsRegisterKey member.1
    · rw [sound_cons_of_named named]
      by_cases claim : IsClaim member
      · obtain ⟨index, text, value, rfl, decoded⟩ := claim
        have claim : IsClaim (registerKey index, .string text) := ⟨index, text, value, rfl, decoded⟩
        simp only [addClaims_claim_iff decoded, exists_and_left, ih, freshFor_insert_iff,
          unrepeated_cons_register, freshFor_cons_register, claim, true_and]
        constructor
        · rintro ⟨free, sound, unrepeated, fresh, others⟩
          exact ⟨sound, ⟨others, unrepeated⟩, free, fresh⟩
        · rintro ⟨sound, ⟨others, unrepeated⟩, free, fresh⟩
          exact ⟨free, sound, unrepeated, fresh, others⟩
      · constructor
        · rintro ⟨final, added⟩
          obtain ⟨next, step, _⟩ := addClaims_cons_iff.1 added
          exact absurd (isClaim_of_addClaim named step) claim
        · rintro ⟨⟨own, _⟩, _⟩
          exact absurd own claim
    · rw [addClaims_of_unnamed named, ih, sound_cons_of_unnamed named,
        unrepeated_cons_of_unnamed named, freshFor_cons_of_unnamed named]

theorem predicate_of_addClaims (added : addClaims set members = .ok final) :
    final.predicate = set.predicate := by
  induction members generalizing set with
  | nil =>
    cases added
    rfl
  | cons member rest ih =>
    obtain ⟨next, step, later⟩ := addClaims_cons_iff.1 added
    rw [ih later]
    rcases addClaim_eq_ok_iff.1 step with ⟨_, rfl⟩ | ⟨_, _, _, _, _, _, rfl⟩
    · rfl
    · rfl

theorem FreshFor.step {next : MeasurementSet} (fresh : FreshFor set (member :: members))
    (unrepeated : Unrepeated (member :: members)) (added : addClaim set member = .ok next) :
    FreshFor next members := by
  rcases addClaim_eq_ok_iff.1 added with ⟨silent, rfl⟩ | ⟨index, text, value, rfl, _, _, rfl⟩
  · exact (freshFor_cons_of_unnamed (registerDigits?_eq_none_iff.1 silent)).1 fresh
  · exact freshFor_insert_iff.2
      ⟨(freshFor_cons_register.1 fresh).2, (unrepeated_cons_register.1 unrepeated).1⟩

theorem addClaim_repeated (set : MeasurementSet) (member : String × Json.Value)
    (index : RegisterIndex) :
    FailsWithin (fun fault => fault = .malformedBundle (.repeatedRegister index) →
      member.1 = registerKey index ∧ set.get? index ≠ none) (addClaim set member) := by
  unfold addClaim
  split
  · exact failsWithin_ok
  · next digits named =>
    split
    · next own indexed =>
      by_cases present : set.contains own = true
      · rw [if_pos present]
        refine failsWithin_error ?_
        rintro ⟨⟩
        refine ⟨(registerIndex?_iff_key named).1 indexed, fun absent => ?_⟩
        rw [MeasurementSet.contains_eq_false_iff.2 absent] at present
        cases present
      · rw [if_neg present]
        split
        · exact failsWithin_mapError fun _ => by simp
        · exact failsWithin_error (by simp)
    · exact failsWithin_error (by simp)

theorem addClaims_ne_repeated (unrepeated : Unrepeated members) (fresh : FreshFor set members)
    (index : RegisterIndex) :
    addClaims set members ≠ .error (.malformedBundle (.repeatedRegister index)) := by
  induction members generalizing set with
  | nil => simp [addClaims]
  | cons member rest ih =>
    intro failed
    rw [addClaims] at failed
    cases added : addClaim set member with
    | error fault =>
      rw [added] at failed
      cases failed
      obtain ⟨named, present⟩ := addClaim_repeated set member index _ added rfl
      exact present (fresh member List.mem_cons_self index named)
    | ok next =>
      rw [added] at failed
      exact ih (List.pairwise_cons.1 unrepeated).2 (fresh.step unrepeated added) failed

end Reading

section Outcome

variable {statement : Statement} {fault : Fault}

def Addresses (statement : Statement) : Prop :=
  statement.predicateType = Predicate.awsNitroEnclaveV1.text ∧ NamesRegister statement.predicate

theorem ofUri?_eq (uri : String) : Predicate.ofUri? uri =
    if uri = Predicate.awsNitroEnclaveV1.text then some .awsNitroEnclaveV1 else none := rfl

theorem isEmpty_of_addClaims {predicate : Predicate}
    (added : addClaims (.empty predicate) members = .ok set) :
    set.isEmpty = false ↔ NamesRegister members := by
  have claimed := get?_of_addClaims added
  simp only [MeasurementSet.get?_empty, reduceCtorEq, false_or] at claimed
  rw [MeasurementSet.isEmpty_eq_false_iff]
  simp only [claimed]
  constructor
  · rintro ⟨index, value, text, member, _⟩
    exact ⟨_, member, isRegisterKey_registerKey index⟩
  · rintro ⟨member, belongs, named⟩
    have ⟨sound, _⟩ := exists_addClaims_iff.1 ⟨set, added⟩
    obtain ⟨index, text, value, rfl, decoded⟩ := sound member belongs named
    exact ⟨index, value, text, belongs, decoded⟩

theorem addClaims_eq_self (unnamed : ¬NamesRegister members) : addClaims set members = .ok set := by
  induction members with
  | nil => rfl
  | cons member rest ih =>
    rw [NamesRegister, List.exists_mem_cons_iff, not_or] at unnamed
    rw [addClaims_of_unnamed unnamed.1, ih unnamed.2]

theorem measurements_eq_ok_iff : statement.measurements = .ok set ↔
    Addresses statement ∧ addClaims (.empty .awsNitroEnclaveV1) statement.predicate = .ok set := by
  unfold measurements
  rw [ofUri?_eq]
  by_cases known : statement.predicateType = Predicate.awsNitroEnclaveV1.text
  · rw [if_pos known]
    simp only [bind_eq_ok_iff, refuse_eq_ok_iff, pure_eq_ok_iff, Bool.not_eq_true]
    constructor
    · rintro ⟨_, added, filled, rfl⟩
      exact ⟨⟨known, (isEmpty_of_addClaims added).1 filled⟩, added⟩
    · rintro ⟨⟨_, named⟩, added⟩
      exact ⟨set, added, (isEmpty_of_addClaims added).2 named, rfl⟩
  · rw [if_neg known]
    simp [throw_eq_ok_iff, Addresses, known]

theorem exists_measurements_iff : (∃ set, statement.measurements = .ok set) ↔
    Addresses statement ∧ Sound statement.predicate ∧ Unrepeated statement.predicate := by
  simp only [measurements_eq_ok_iff, exists_and_left, exists_addClaims_iff, freshFor_empty, and_true]

theorem predicate_of_measurements (measured : statement.measurements = .ok set) :
    set.predicate = .awsNitroEnclaveV1 :=
  predicate_of_addClaims (measurements_eq_ok_iff.1 measured).2

/-- A claim is missing where no register is named for the known type; any other failure is one of the
bundle. -/
theorem kind_of_measurements (failed : statement.measurements = .error fault) :
    fault.kind = .missingClaim ∧ ¬Addresses statement ∨
      fault.kind = .malformedBundle ∧ Addresses statement := by
  unfold measurements at failed
  rw [ofUri?_eq] at failed
  by_cases known : statement.predicateType = Predicate.awsNitroEnclaveV1.text
  · rw [if_pos known] at failed
    dsimp only at failed
    by_cases named : NamesRegister statement.predicate
    · rcases (addClaims_fails _ _).split failed with malformed | ⟨set, added, failed⟩
      · exact .inr ⟨List.mem_singleton.1 malformed, known, named⟩
      · rw [(isEmpty_of_addClaims added).2 named] at failed
        cases failed
    · rw [addClaims_eq_self named] at failed
      cases failed
      exact .inl ⟨rfl, fun addressed => named addressed.2⟩
  · rw [if_neg known] at failed
    cases failed
    exact .inl ⟨rfl, fun addressed => known addressed.1⟩

theorem measurements_ne_repeated (unrepeated : Unrepeated statement.predicate)
    (index : RegisterIndex) :
    statement.measurements ≠ .error (.malformedBundle (.repeatedRegister index)) := by
  intro failed
  unfold measurements at failed
  cases known : Predicate.ofUri? statement.predicateType with
  | none =>
    rw [known] at failed
    cases failed
  | some predicate =>
    rw [known] at failed
    dsimp only at failed
    cases added : addClaims (.empty predicate) statement.predicate with
    | error fault =>
      rw [added] at failed
      cases failed
      exact addClaims_ne_repeated unrepeated (freshFor_empty _ _) index added
    | ok set =>
      rw [added] at failed
      simp only [bind, Except.bind] at failed
      split at failed
      · cases failed
      · cases failed

end Outcome

section Rewording

/-- Both give the same claims: they name registers, soundly and without repetition, or not, and for the
same registers the same values. -/
structure Agree (members others : List (String × Json.Value)) : Prop where
  named : NamesRegister members ↔ NamesRegister others
  sound : Sound members ↔ Sound others
  unrepeated : Unrepeated members ↔ Unrepeated others
  claims : ∀ index value, Claims members index value ↔ Claims others index value

theorem Agree.measurements_eq {statement other : Statement}
    (typed : statement.predicateType = other.predicateType)
    (agree : Agree statement.predicate other.predicate) :
    statement.measurements.mapError Fault.kind = other.measurements.mapError Fault.kind := by
  have addresses : Addresses statement ↔ Addresses other :=
    and_congr (by rw [typed]) agree.named
  have measured : (∃ set, statement.measurements = .ok set) ↔
      ∃ set, other.measurements = .ok set := by
    rw [exists_measurements_iff, exists_measurements_iff, addresses, agree.sound, agree.unrepeated]
  cases own : statement.measurements with
  | ok set =>
    obtain ⟨others, theirs⟩ := measured.1 ⟨set, own⟩
    have same : set = others := by
      apply MeasurementSet.eq_of_get?
      · rw [predicate_of_measurements own, predicate_of_measurements theirs]
      · intro index value
        rw [get?_of_measurements own, get?_of_measurements theirs, agree.claims]
    rw [theirs, same]
  | error fault =>
    cases theirs : other.measurements with
    | ok set =>
      obtain ⟨_, measured⟩ := measured.2 ⟨set, theirs⟩
      rw [measured] at own
      cases own
    | error found =>
      have kinds : fault.kind = found.kind := by
        rcases kind_of_measurements own with ⟨kind, missing⟩ | ⟨kind, addressed⟩
        · rcases kind_of_measurements theirs with ⟨other, _⟩ | ⟨_, addressed⟩
          · rw [kind, other]
          · exact absurd (addresses.2 addressed) missing
        · rcases kind_of_measurements theirs with ⟨_, missing⟩ | ⟨other, _⟩
          · exact absurd (addresses.1 addressed) missing
          · rw [kind, other]
      exact congrArg Except.error kinds

theorem Agree.trans {more : List (String × Json.Value)} (first : Agree members others)
    (second : Agree others more) : Agree members more where
  named := first.named.trans second.named
  sound := first.sound.trans second.sound
  unrepeated := first.unrepeated.trans second.unrepeated
  claims := fun index value => (first.claims index value).trans (second.claims index value)

theorem agree_of_perm (perm : members.Perm others) : Agree members others where
  named := by simp only [NamesRegister, perm.mem_iff]
  sound := by simp only [Sound, perm.mem_iff]
  unrepeated := perm.pairwise_iff fun distinct same => same ▸ distinct same.symm
  claims := by simp only [Claims, perm.mem_iff, implies_true]

theorem agree_cons {extra : String × Json.Value} (silent : ¬IsRegisterKey extra.1) :
    Agree members (extra :: members) where
  named := by simp only [NamesRegister, List.exists_mem_cons_iff, silent, false_or]
  sound := (sound_cons_of_unnamed silent).symm
  unrepeated := (unrepeated_cons_of_unnamed silent).symm
  claims := by
    intro index value
    rw [claims_cons_iff, or_iff_right]
    rintro ⟨text, rfl, _⟩
    exact silent (isRegisterKey_registerKey index)

def SameButCase (one other : String × Json.Value) : Prop :=
  one = other ∨ ∃ key text spelled, one = (key, .string text) ∧ other = (key, .string spelled) ∧
    Text.lowercase text = Text.lowercase spelled

theorem SameButCase.key_eq {one other : String × Json.Value} (same : SameButCase one other) :
    one.1 = other.1 := by
  rcases same with rfl | ⟨key, text, spelled, rfl, rfl, _⟩
  · rfl
  · rfl

theorem SameButCase.claimed_iff {one other : String × Json.Value} (same : SameButCase one other)
    (index : RegisterIndex) (value : Bytes) :
    (∃ text, one = (registerKey index, .string text) ∧ Hex.decode text = .ok value) ↔
      ∃ text, other = (registerKey index, .string text) ∧ Hex.decode text = .ok value := by
  rcases same with rfl | ⟨key, text, spelled, rfl, rfl, lower⟩
  · exact Iff.rfl
  · simp [Hex.decode_eq_ok_iff, lower]

theorem SameButCase.isClaim_iff {one other : String × Json.Value} (same : SameButCase one other) :
    IsClaim one ↔ IsClaim other := by
  rcases same with rfl | ⟨key, text, spelled, rfl, rfl, lower⟩
  · exact Iff.rfl
  · simp [IsClaim, Hex.decode_eq_ok_iff, lower]

theorem agree_of_recased (recased : List.Forall₂ SameButCase members others) :
    Agree members others := by
  have keys : members.map Prod.fst = others.map Prod.fst := by
    rw [← List.forall₂_eq_eq_eq, List.forall₂_map_left_iff, List.forall₂_map_right_iff]
    exact recased.imp fun _ _ same => same.key_eq
  have named (members : List (String × Json.Value)) :
      NamesRegister members ↔ ∃ key ∈ members.map Prod.fst, IsRegisterKey key := by
    simp [NamesRegister]
  have unrepeated (members : List (String × Json.Value)) : Unrepeated members ↔
      (members.map Prod.fst).Pairwise fun one other => one = other → ¬IsRegisterKey one := by
    rw [List.pairwise_map]
    exact Iff.rfl
  refine ⟨by rw [named, named, keys], ?_, by rw [unrepeated, unrepeated, keys], ?_⟩
  · clear keys
    induction recased with
    | nil => exact Iff.rfl
    | cons same _ ih =>
      simp only [Sound, List.forall_mem_cons]
      exact and_congr (by rw [same.key_eq, same.isClaim_iff]) ih
  · intro index value
    clear keys
    induction recased with
    | nil => exact Iff.rfl
    | cons same _ ih => rw [claims_cons_iff, claims_cons_iff, same.claimed_iff, ih]

/-- Changes that no claim depends on. -/
inductive Rewords : List (String × Json.Value) → List (String × Json.Value) → Prop
  | reordered {members others : List (String × Json.Value)} :
      members.Perm others → Rewords members others
  | added {before after : List (String × Json.Value)} {extra : String × Json.Value} :
      ¬IsRegisterKey extra.1 → Rewords (before ++ after) (before ++ extra :: after)
  | recased {members others : List (String × Json.Value)} :
      List.Forall₂ SameButCase members others → Rewords members others

theorem Rewords.agree (rewords : Rewords members others) : Agree members others := by
  cases rewords with
  | reordered perm => exact agree_of_perm perm
  | added silent => exact (agree_cons silent).trans (agree_of_perm List.perm_middle.symm)
  | recased same => exact agree_of_recased same

end Rewording

section Decoding

def predicateText? (payload : Bytes) : Option Bytes := do
  let fields ← Json.Fields.read ["_type", "subject", "predicateType", "predicate"] false
    (← Json.document? payload)
  fields.find? "predicate"

def MemberRead (slice : Json.Member) (member : String × Json.Value) : Prop :=
  Json.string? slice.key = some member.1 ∧ Json.Value.read valueDepth slice.value = some member.2

/-- The members of a payload's predicate in the order of the text, no key given twice. -/
structure Decoded (payload : Bytes) (members : List (String × Json.Value)) : Prop where
  distinct : (members.map Prod.fst).Nodup
  read_in_order : ∃ text slices, predicateText? payload = some text ∧
    Json.members? text = some slices ∧ List.Forall₂ MemberRead slices members

theorem predicate?_eq_some_iff {text : Bytes} : predicate? text = some members ↔
    (members.map Prod.fst).Nodup ∧
      ∃ slices, Json.members? text = some slices ∧ List.Forall₂ MemberRead slices members := by
  simp only [predicate?, Option.bind_eq_bind, Option.bind_eq_some_iff, mapM_eq_some_iff,
    Json.Value.keyed?_eq_some_iff, Option.ite_none_right_eq_some, Option.some.injEq]
  constructor
  · rintro ⟨slices, sliced, _, each, distinct, rfl⟩
    exact ⟨distinct, slices, sliced, each⟩
  · rintro ⟨distinct, slices, sliced, each⟩
    exact ⟨slices, sliced, members, each, distinct, rfl⟩

theorem decoded_of_read? {payload : Bytes} {statement : Statement}
    (read : read? payload = some statement) : Decoded payload statement.predicate := by
  simp only [read?, ofJson?, Json.record?, Json.Fields.required, Option.bind_eq_bind,
    Option.bind_eq_some_iff, Option.pure_def, Option.some.injEq] at read
  obtain ⟨document, given, fields, named, _, _, _, _, _, _, _, ⟨text, found, own⟩, rfl⟩ := read
  obtain ⟨distinct, slices, sliced, each⟩ := predicate?_eq_some_iff.1 own
  refine ⟨distinct, text, slices, ?_, sliced, each⟩
  simp only [predicateText?, Option.bind_eq_bind, given, named, Option.bind_some, found]

theorem Decoded.nodup {payload text : Bytes} {slices : List Json.Member}
    (decoded : Decoded payload members) (given : predicateText? payload = some text)
    (sliced : Json.members? text = some slices) :
    (slices.map fun slice => Json.string? slice.key).Nodup := by
  obtain ⟨_, _, found, read, each⟩ := decoded.read_in_order
  cases given.symm.trans found
  cases sliced.symm.trans read
  have keys : (slices.map fun slice => Json.string? slice.key) =
      (members.map Prod.fst).map some := by
    rw [← List.forall₂_eq_eq_eq, List.forall₂_map_left_iff, List.map_map,
      List.forall₂_map_right_iff]
    exact each.imp fun _ _ read => read.1
  rw [keys]
  exact List.Pairwise.map some (fun _ _ differ same => differ (Option.some.inj same)) decoded.distinct

end Decoding

structure ReadsClaims (statement : Statement) : Prop where
  ok_iff : (∃ set, statement.measurements = .ok set) ↔
    Addresses statement ∧ Sound statement.predicate
  registers : ∀ set, statement.measurements = .ok set → set.predicate = .awsNitroEnclaveV1 ∧
    ∀ index value, set.get? index = some value ↔ Claims statement.predicate index value
  failure : ∀ fault, statement.measurements = .error fault →
    fault.kind = .missingClaim ∧ ¬Addresses statement ∨
      fault.kind = .malformedBundle ∧ Addresses statement ∧ ¬Sound statement.predicate
  never_repeated : ∀ index,
    statement.measurements ≠ .error (.malformedBundle (.repeatedRegister index))

theorem readsClaims_of_nodup {statement : Statement}
    (distinct : (statement.predicate.map Prod.fst).Nodup) : ReadsClaims statement := by
  have unrepeated := unrepeated_of_nodup distinct
  have readable : (∃ set, statement.measurements = .ok set) ↔
      Addresses statement ∧ Sound statement.predicate := by
    simp only [exists_measurements_iff, unrepeated, and_true]
  refine ⟨readable, ?_, ?_, measurements_ne_repeated unrepeated⟩
  · intro set measured
    exact ⟨predicate_of_measurements measured, get?_of_measurements measured⟩
  · intro fault failed
    rcases kind_of_measurements failed with missing | ⟨kind, addressed⟩
    · exact .inl missing
    · refine .inr ⟨kind, addressed, fun sound => ?_⟩
      obtain ⟨set, measured⟩ := readable.2 ⟨addressed, sound⟩
      rw [measured] at failed
      cases failed

/-- A key names a register only as it is written in decimal, and a statement gives exactly the registers
that the members of its predicate claim, each of them in any order, among any other members and in
digits of either case; keys that are given twice are not read at all. -/
theorem predicate_claims_registers :
    (∀ key index, (registerDigits? key).bind registerIndex? = some index ↔ key = registerKey index) ∧
    (∀ payload text slices, predicateText? payload = some text → Json.members? text = some slices →
      ¬(slices.map fun slice => Json.string? slice.key).Nodup → read? payload = none) ∧
    (∀ payload statement, read? payload = some statement →
      Decoded payload statement.predicate ∧ ReadsClaims statement) ∧
    ∀ statement other : Statement, statement.predicateType = other.predicateType →
      Rewords statement.predicate other.predicate →
        statement.measurements.mapError Fault.kind = other.measurements.mapError Fault.kind := by
  refine ⟨fun _ _ => registerIndex?_of_key_iff, ?_, ?_, ?_⟩
  · intro payload text slices given sliced repeated
    rw [Option.eq_none_iff_forall_ne_some]
    intro statement read
    exact repeated ((decoded_of_read? read).nodup given sliced)
  · intro payload statement read
    have decoded := decoded_of_read? read
    exact ⟨decoded, readsClaims_of_nodup decoded.distinct⟩
  · intro statement other typed rewords
    exact rewords.agree.measurements_eq typed

def notedClaims : List (String × String) := [("PCR10", "0aFF"), ("note", "PCR1"), ("PCR1", "")]

theorem sound_noted : Sound (notedClaims.map fun claim => (claim.1, .string claim.2)) := by
  have note : ¬IsRegisterKey "note" := registerDigits?_eq_none_iff.1 (by decide)
  have first : registerKey 10 = "PCR10" := by decide
  have second : registerKey 1 = "PCR1" := by decide
  simp only [notedClaims, List.map_cons, List.map_nil, Sound, List.forall_mem_cons, note,
    false_implies, true_and]
  exact ⟨fun _ => ⟨10, "0aFF", [0x0A, 0xFF], by rw [first], by decide⟩,
    fun _ => ⟨1, "", [], by rw [second], by decide⟩, nofun⟩

theorem noted_registers : ∃ statement set, read? (writtenText "00" notedClaims) = some statement ∧
    statement.measurements = .ok set ∧ set.get? 10 = some [0x0A, 0xFF] ∧ set.get? 0 = none := by
  have plain : ∀ claim ∈ notedClaims, Json.PlainText claim.1 ∧ Json.PlainText claim.2 := by decide
  have read := read?_writtenText (show Json.PlainText "00" by decide) plain (by decide)
  obtain ⟨_, reads⟩ := predicate_claims_registers.2.2.1 _ _ read
  have key : registerKey 10 = "PCR10" := by decide
  obtain ⟨set, measured⟩ := reads.ok_iff.2
    ⟨⟨rfl, _, List.mem_cons_self, key ▸ isRegisterKey_registerKey 10⟩, sound_noted⟩
  have registers := (reads.registers set measured).2
  refine ⟨_, set, read, measured, (registers 10 _).2 ⟨"0aFF", ?_, by decide⟩, ?_⟩
  · rw [key]
    exact List.mem_cons_self
  · rw [Option.eq_none_iff_forall_ne_some]
    intro value found
    obtain ⟨text, member, _⟩ := (registers 0 value).1 found
    have other : registerKey 0 = "PCR0" := by decide
    rw [other] at member
    simp [notedClaims] at member

end EnclaveProvenance.Statement
