import Mathlib.Data.Finset.Card
import EnclaveProvenance.Proofs.Encodings
import EnclaveProvenance.Proofs.Measurements

/-!
Measurement sets that are filled by writes, each of which may fail. Under an index a set holds what
the last write to it that did not fail has stored, and two sets that hold the same are the same set.
-/

namespace EnclaveProvenance

inductive RegisterWrite
  | octets (index : RegisterIndex) (value : Bytes)
  | hex (index : RegisterIndex) (text : String)
deriving DecidableEq, Repr

namespace RegisterWrite

def index : RegisterWrite → RegisterIndex
  | .octets index _ => index
  | .hex index _ => index

def value : RegisterWrite → Except Hex.Error Bytes
  | .octets _ value => .ok value
  | .hex _ text => Hex.decode text

/-- Performs a write in its place; one that fails is reported, and the set goes on as it was. -/
def perform (write : RegisterWrite) (set : MeasurementSet) :
    Except Hex.Error Unit × MeasurementSet :=
  match write with
  | .octets index value => (.ok (), set.insert index value)
  | .hex index text =>
    match set.insertHex index text with
    | .ok next => (.ok (), next)
    | .error failure => (.error failure, set)

def performAll (set : MeasurementSet) (writes : List RegisterWrite) : MeasurementSet :=
  writes.foldl (fun reached write => (write.perform reached).2) set

def Stores (write : RegisterWrite) (index : RegisterIndex) (value : Bytes) : Prop :=
  write.index = index ∧ write.value = .ok value

def IsLast (writes : List RegisterWrite) (index : RegisterIndex) (last : RegisterWrite) : Prop :=
  ∃ earlier later, writes = earlier ++ last :: later ∧ (∃ value, last.Stores index value) ∧
    ∀ other ∈ later, ∀ value, ¬other.Stores index value

def stored (writes : List RegisterWrite) : List RegisterIndex :=
  (writes.filter fun write => write.value.toBool).map index

theorem perform_of_value {write : RegisterWrite} {value : Bytes} (read : write.value = .ok value)
    (set : MeasurementSet) : write.perform set = (.ok (), set.insert write.index value) := by
  cases write with
  | octets index own =>
    cases read
    rfl
  | hex index text =>
    have inserted : set.insertHex index text = .ok (set.insert index value) :=
      MeasurementSet.insertHex_eq_ok_iff.2 ⟨value, read, rfl⟩
    simp only [perform, inserted, RegisterWrite.index]

theorem perform_of_failure {write : RegisterWrite} {failure : Hex.Error}
    (refused : write.value = .error failure) (set : MeasurementSet) :
    write.perform set = (.error failure, set) := by
  cases write with
  | octets index own => cases refused
  | hex index text =>
    have refusedText : set.insertHex index text = .error failure := by
      rw [MeasurementSet.insertHex, show Hex.decode text = .error failure from refused]
      rfl
    simp only [perform, refusedText]

theorem get?_perform (write : RegisterWrite) (set : MeasurementSet) (index : RegisterIndex) :
    (∃ value, write.Stores index value ∧ (write.perform set).2.get? index = some value) ∨
      (∀ value, ¬write.Stores index value) ∧
        (write.perform set).2.get? index = set.get? index := by
  cases read : write.value with
  | error failure =>
    refine .inr ⟨fun value stores => ?_, ?_⟩
    · cases read.symm.trans stores.2
    · rw [perform_of_failure read]
  | ok value =>
    rw [perform_of_value read, MeasurementSet.get?_insert]
    by_cases own : write.index = index
    · exact .inl ⟨value, ⟨own, read⟩, if_pos own⟩
    · exact .inr ⟨fun _ stores => own stores.1, if_neg own⟩

theorem predicate_perform (write : RegisterWrite) (set : MeasurementSet) :
    (write.perform set).2.predicate = set.predicate := by
  cases read : write.value with
  | error failure => rw [perform_of_failure read]
  | ok value => rw [perform_of_value read]; rfl

theorem predicate_performAll (set : MeasurementSet) (writes : List RegisterWrite) :
    (performAll set writes).predicate = set.predicate := by
  induction writes generalizing set with
  | nil => rfl
  | cons write rest ih => exact (ih _).trans (predicate_perform write set)

theorem IsLast.stores {writes : List RegisterWrite} {index : RegisterIndex} {last : RegisterWrite}
    (isLast : IsLast writes index last) : ∃ value, last.Stores index value := by
  obtain ⟨_, _, _, stores, _⟩ := isLast
  exact stores

theorem isLast_cons_iff {write last : RegisterWrite} {rest : List RegisterWrite}
    {index : RegisterIndex} :
    IsLast (write :: rest) index last ↔ IsLast rest index last ∨
      (∀ other ∈ rest, ∀ value, ¬other.Stores index value) ∧
        (∃ value, write.Stores index value) ∧ last = write := by
  constructor
  · rintro ⟨earlier, later, split, stores, none⟩
    cases earlier with
    | nil =>
      obtain ⟨rfl, rfl⟩ := List.cons.inj split
      exact .inr ⟨none, stores, rfl⟩
    | cons first earlier =>
      obtain ⟨rfl, rfl⟩ := List.cons.inj split
      exact .inl ⟨earlier, later, rfl, stores, none⟩
  · rintro (⟨earlier, later, rfl, stores, none⟩ | ⟨none, stores, rfl⟩)
    · exact ⟨write :: earlier, later, rfl, stores, none⟩
    · exact ⟨[], rest, rfl, stores, none⟩

theorem exists_isLast_iff {writes : List RegisterWrite} {index : RegisterIndex} :
    (∃ last, IsLast writes index last) ↔ ∃ write ∈ writes, ∃ value, write.Stores index value := by
  induction writes with
  | nil => simp [IsLast]
  | cons write rest ih =>
    simp only [isLast_cons_iff, exists_or, List.exists_mem_cons_iff, ih]
    constructor
    · rintro (later | ⟨last, _, stores, rfl⟩)
      · exact .inr later
      · exact .inl stores
    · rintro (stores | later)
      · by_cases others : ∃ other ∈ rest, ∃ value, other.Stores index value
        · exact .inl others
        · exact .inr ⟨write, by simpa using others, stores, rfl⟩
      · exact .inl later

/-- What stands under an index after writes is what the last of them stored there; without one it
is what stood there before. -/
theorem get?_performAll (set : MeasurementSet) (writes : List RegisterWrite)
    (index : RegisterIndex) :
    (∃ last value, IsLast writes index last ∧ last.value = .ok value ∧
        (performAll set writes).get? index = some value) ∨
      (∀ write ∈ writes, ∀ value, ¬write.Stores index value) ∧
        (performAll set writes).get? index = set.get? index := by
  induction writes generalizing set with
  | nil => exact .inr ⟨nofun, rfl⟩
  | cons write rest ih =>
    rcases ih (write.perform set).2 with ⟨last, value, isLast, read, found⟩ | ⟨none, same⟩
    · exact .inl ⟨last, value, isLast_cons_iff.2 (.inl isLast), read, found⟩
    · rcases get?_perform write set index with ⟨value, stores, found⟩ | ⟨idle, kept⟩
      · exact .inl ⟨write, value, isLast_cons_iff.2 (.inr ⟨none, ⟨value, stores⟩, rfl⟩), stores.2,
          same.trans found⟩
      · exact .inr ⟨List.forall_mem_cons.2 ⟨idle, none⟩, same.trans kept⟩

theorem IsLast.unique {writes : List RegisterWrite} {index : RegisterIndex}
    {one other : RegisterWrite} (isOne : IsLast writes index one)
    (isOther : IsLast writes index other) : one = other := by
  induction writes with
  | nil => simp [IsLast] at isOne
  | cons write rest ih =>
    have stored {last : RegisterWrite} (isLast : IsLast rest index last) :
        ¬∀ later ∈ rest, ∀ value, ¬later.Stores index value := by
      have ⟨later, member, value, stores⟩ := exists_isLast_iff.1 ⟨last, isLast⟩
      exact fun none => none later member value stores
    rcases isLast_cons_iff.1 isOne with inRest | ⟨none, _, rfl⟩
    · rcases isLast_cons_iff.1 isOther with otherInRest | ⟨none, _, _⟩
      · exact ih inRest otherInRest
      · exact absurd none (stored inRest)
    · rcases isLast_cons_iff.1 isOther with inRest | ⟨_, _, same⟩
      · exact absurd none (stored inRest)
      · exact same.symm

theorem mem_stored_iff {writes : List RegisterWrite} {index : RegisterIndex} :
    index ∈ stored writes ↔ ∃ write ∈ writes, ∃ value, write.Stores index value := by
  have succeeds (write : RegisterWrite) :
      write.value.toBool = true ↔ ∃ value, write.value = .ok value := by
    cases write.value <;> simp [Except.toBool]
  simp only [stored, List.mem_map, List.mem_filter, succeeds, Stores]
  constructor
  · rintro ⟨write, ⟨member, value, read⟩, own⟩
    exact ⟨write, member, value, own, read⟩
  · rintro ⟨write, member, value, own, read⟩
    exact ⟨write, ⟨member, value, read⟩, own⟩

end RegisterWrite

namespace MeasurementSet

open RegisterWrite

theorem insert_of_get? {set : MeasurementSet} {index : RegisterIndex} {value : Bytes}
    (held : set.get? index = some value) : set.insert index value = set := by
  refine eq_of_get? rfl fun other found => ?_
  rw [get?_insert]
  by_cases own : index = other
  · rw [if_pos own, ← own, held]
  · rw [if_neg own]

theorem insertHex_of_hex? {set : MeasurementSet} {index : RegisterIndex} {text : String}
    (rendered : set.hex? index = some text) : set.insertHex index text = .ok set := by
  obtain ⟨value, held, rfl⟩ := Option.map_eq_some_iff.1 rendered
  exact insertHex_eq_ok_iff.2 ⟨value, Hex.decode_encode value, (insert_of_get? held).symm⟩

theorem nodup_indices (set : MeasurementSet) : (set.registers.map Register.index).Nodup := by
  rw [List.Nodup, List.pairwise_map]
  refine set.ascending.imp fun below same => ?_
  exact UInt32.lt_irrefl _ (same ▸ below)

theorem mem_indices_iff {set : MeasurementSet} {index : RegisterIndex} :
    index ∈ set.registers.map Register.index ↔ ∃ value, set.get? index = some value := by
  simp only [List.mem_map, get?_eq_some_iff]
  constructor
  · rintro ⟨⟨_, value⟩, member, rfl⟩
    exact ⟨value, member⟩
  · rintro ⟨value, member⟩
    exact ⟨⟨index, value⟩, member, rfl⟩

/-- What a set shows after writes to an empty one: under each index the last of them that did not
fail, in the order of the indices and once each. -/
structure Records (writes : List RegisterWrite) (set : MeasurementSet) : Prop where
  held_iff : ∀ index value, set.get? index = some value ↔
    ∃ last, IsLast writes index last ∧ last.value = .ok value
  absent_iff : ∀ index, set.get? index = none ↔
    ∀ write ∈ writes, ∀ value, ¬write.Stores index value
  contains_iff : ∀ index, set.contains index = true ↔ set.get? index ≠ none
  listed_iff : ∀ register, register ∈ set.registers ↔
    set.get? register.index = some register.value
  ascending : set.registers.Pairwise fun earlier later => earlier.index < later.index
  once : ∀ index, (set.registers.map Register.index).count index =
    if index ∈ stored writes then 1 else 0
  size_eq : set.size = (stored writes).toFinset.card
  isEmpty_iff : set.isEmpty = true ↔ stored writes = []
  hex_of_text : ∀ index text, IsLast writes index (.hex index text) →
    set.hex? index = some (Text.lowercase text)
  hex_of_octets : ∀ index value, IsLast writes index (.octets index value) →
    set.hex? index = some (Hex.encode value)
  rewritten : ∀ index text, set.hex? index = some text →
    (RegisterWrite.hex index text).perform set = (.ok (), set)

theorem get?_performAll_empty_iff {predicate : Predicate} {writes : List RegisterWrite}
    {index : RegisterIndex} {value : Bytes} :
    (performAll (empty predicate) writes).get? index = some value ↔
      ∃ last, IsLast writes index last ∧ last.value = .ok value := by
  rcases get?_performAll (empty predicate) writes index with
    ⟨last, own, isLast, read, found⟩ | ⟨none, absent⟩
  · rw [found, Option.some.injEq]
    constructor
    · rintro rfl
      exact ⟨last, isLast, read⟩
    · rintro ⟨other, isOther, otherRead⟩
      rw [isLast.unique isOther, otherRead] at read
      exact (Except.ok.inj read).symm
  · rw [absent, get?_empty]
    constructor
    · intro impossible
      cases impossible
    · rintro ⟨last, isLast, _⟩
      obtain ⟨write, member, own, stores⟩ := exists_isLast_iff.1 ⟨last, isLast⟩
      exact absurd stores (none write member own)

theorem get?_performAll_empty_eq_none_iff {predicate : Predicate} {writes : List RegisterWrite}
    {index : RegisterIndex} :
    (performAll (empty predicate) writes).get? index = none ↔
      ∀ write ∈ writes, ∀ value, ¬write.Stores index value := by
  rcases get?_performAll (empty predicate) writes index with
    ⟨last, own, isLast, _, found⟩ | ⟨none, absent⟩
  · obtain ⟨write, member, value, stores⟩ := exists_isLast_iff.1 ⟨last, isLast⟩
    rw [found]
    constructor
    · intro impossible
      cases impossible
    · intro none
      exact absurd stores (none write member value)
  · rw [absent, get?_empty]
    exact ⟨fun _ => none, fun _ => rfl⟩

theorem records_performAll (predicate : Predicate) (writes : List RegisterWrite) :
    Records writes (performAll (empty predicate) writes) := by
  have held (index : RegisterIndex) (value : Bytes) :
      (performAll (empty predicate) writes).get? index = some value ↔
        ∃ last, IsLast writes index last ∧ last.value = .ok value :=
    get?_performAll_empty_iff
  have indices (index : RegisterIndex) :
      index ∈ (performAll (empty predicate) writes).registers.map Register.index ↔
        index ∈ stored writes := by
    rw [mem_indices_iff, mem_stored_iff, ← exists_isLast_iff]
    simp only [held]
    constructor
    · rintro ⟨value, last, isLast, _⟩
      exact ⟨last, isLast⟩
    · rintro ⟨last, isLast⟩
      obtain ⟨value, _, read⟩ := isLast.stores
      exact ⟨value, last, isLast, read⟩
  have distinct := nodup_indices (performAll (empty predicate) writes)
  constructor
  case held_iff => exact held
  case absent_iff => exact fun index => get?_performAll_empty_eq_none_iff
  case contains_iff => exact fun index => Option.isSome_iff_ne_none
  case listed_iff => exact fun register => get?_eq_some_iff.symm
  case ascending => exact (performAll (empty predicate) writes).ascending
  case once =>
    intro index
    rw [distinct.count]
    simp only [indices]
  case size_eq =>
    have same := List.toFinset.ext indices
    rw [← same, List.toFinset_card_of_nodup distinct, List.length_map]
    rfl
  case isEmpty_iff =>
    have none : stored writes = [] ↔
        (performAll (empty predicate) writes).registers.map Register.index = [] := by
      simp only [List.eq_nil_iff_forall_not_mem, indices]
    rw [none, List.map_eq_nil_iff, isEmpty, List.isEmpty_iff]
  case hex_of_text =>
    intro index text isLast
    obtain ⟨value, _, read⟩ := isLast.stores
    rw [hex?, (held index value).2 ⟨_, isLast, read⟩, Option.map_some,
      ← Hex.decode_eq_ok_iff.1 read]
  case hex_of_octets =>
    intro index value isLast
    rw [hex?, (held index value).2 ⟨_, isLast, rfl⟩, Option.map_some]
  case rewritten =>
    intro index text rendered
    rw [RegisterWrite.perform, insertHex_of_hex? rendered]

/-- Sets are ordered maps in which the last write wins. A write of a text that is no hexadecimal is
refused and leaves the set; every other one stores its value. Two sequences of writes end in the same
set just when that set has the same predicate and shows the same at every index. -/
theorem last_write_wins :
    (∀ predicate writes, (performAll (empty predicate) writes).predicate = predicate ∧
      Records writes (performAll (empty predicate) writes)) ∧
    (∀ set index value, (RegisterWrite.octets index value).perform set =
      (.ok (), set.insert index value)) ∧
    (∀ set index text,
      (∃ failure, Hex.Refuses text failure ∧
        (RegisterWrite.hex index text).perform set = (.error failure, set)) ∨
      (∃ value, Text.lowercase text = Hex.encode value ∧
        (RegisterWrite.hex index text).perform set = (.ok (), set.insert index value))) ∧
    (∀ one other writes others,
      performAll (empty one) writes = performAll (empty other) others ↔
        one = other ∧ ∀ index, (performAll (empty one) writes).get? index =
          (performAll (empty other) others).get? index) := by
  refine ⟨fun predicate writes => ⟨?_, records_performAll predicate writes⟩,
    fun set index value => rfl, fun set index text => ?_, fun one other writes others => ?_⟩
  · rw [predicate_performAll]
    rfl
  · cases read : Hex.decode text with
    | error failure =>
      have refused : (RegisterWrite.hex index text).value = .error failure := read
      exact .inl ⟨failure, Hex.decode_eq_error_iff.1 read, perform_of_failure refused set⟩
    | ok value =>
      have stored : (RegisterWrite.hex index text).value = .ok value := read
      exact .inr ⟨value, Hex.decode_eq_ok_iff.1 read, perform_of_value stored set⟩
  · constructor
    · intro same
      have predicates := congrArg MeasurementSet.predicate same
      rw [predicate_performAll, predicate_performAll] at predicates
      exact ⟨predicates, fun index => by rw [same]⟩
    · rintro ⟨rfl, values⟩
      refine eq_of_get? ?_ fun index value => by rw [values]
      rw [predicate_performAll, predicate_performAll]

end MeasurementSet

end EnclaveProvenance
