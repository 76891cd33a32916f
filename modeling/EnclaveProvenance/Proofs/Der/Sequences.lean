import EnclaveProvenance.Der.Primitive
import EnclaveProvenance.Proofs.Checks
import EnclaveProvenance.Proofs.Der.Elements
import Mathlib.Data.List.Flatten
import Mathlib.Data.List.Forall2

/-!
Parts that are read from elements and written as elements again. What is written may differ from
what was read, but it is read the same way and is not longer.
-/

namespace EnclaveProvenance.Der

open Checks (mapM_eq_some_iff)

variable {α β : Type}

theorem sequence_isTag : isTag sequenceTag = true := by decide

namespace Element

theorem contentOf?_eq_some_iff {element : Element} {tag : UInt8} {content : Bytes} :
    element.contentOf? tag = some content ↔ element = ⟨tag, content⟩ := by
  cases element
  simp [contentOf?]

theorem inside?_eq_some_iff {element : Element} {tag : UInt8} {parts : List Element} :
    element.inside? tag = some parts ↔
      element = ⟨tag, encodeAll parts⟩ ∧ ∀ part ∈ parts, part.Readable := by
  simp only [inside?, Option.bind_eq_some_iff, contentOf?_eq_some_iff, elements?_eq_some_iff]
  constructor
  · rintro ⟨_, rfl, readable, rfl⟩
    exact ⟨rfl, readable⟩
  · rintro ⟨rfl, readable⟩
    exact ⟨_, rfl, readable, rfl⟩

theorem integerContent?_eq_some_iff {element : Element} {content : Bytes} :
    element.integerContent? = some content ↔
      element = ⟨integerTag, content⟩ ∧ isMinimalInteger content = true := by
  rw [integerContent?, Option.filter_eq_some_iff, contentOf?_eq_some_iff]

structure Within (own received : Element) : Prop where
  tag : own.tag = received.tag
  length : own.content.length ≤ received.content.length

theorem Within.refl (element : Element) : element.Within element := ⟨rfl, Nat.le_refl _⟩

theorem Within.readable {own received : Element} (within : own.Within received)
    (readable : received.Readable) : own.Readable where
  tag := within.tag ▸ readable.tag
  length := Nat.le_trans within.length readable.length

end Element

theorem length_lengthOctets (length : Nat) : (lengthOctets length).length =
    if length < 128 then 1 else if length < 256 then 2 else if length < 65536 then 3
    else if length < 16777216 then 4 else 5 := by
  unfold lengthOctets minimalBytes
  split
  · rfl
  · simp only [List.length_cons, Bytes.length_ofNat]
    repeat' split
    all_goals rfl

theorem length_lengthOctets_mono {shorter longer : Nat} (le : shorter ≤ longer) :
    (lengthOctets shorter).length ≤ (lengthOctets longer).length := by
  rw [length_lengthOctets, length_lengthOctets]
  repeat' split
  all_goals omega

theorem Element.Within.encode_le {own received : Element} (within : own.Within received) :
    own.encode.length ≤ received.encode.length := by
  have content := within.length
  have octets := length_lengthOctets_mono content
  simp only [Element.encode, List.cons_append, List.length_cons, List.length_append]
  omega

theorem Element.content_le_encode (element : Element) :
    element.content.length ≤ element.encode.length := by
  simp only [Element.encode, List.cons_append, List.length_cons, List.length_append]
  omega

theorem Element.encode_le (element : Element) :
    element.encode.length ≤ element.content.length + 6 := by
  have octets : (lengthOctets element.content.length).length ≤ 5 := by
    rw [length_lengthOctets]
    repeat' split
    all_goals omega
  simp only [Element.encode, List.cons_append, List.length_cons, List.length_append]
  omega

theorem encode_le_encodeAll {elements : List Element} {element : Element}
    (member : element ∈ elements) : element.encode.length ≤ (encodeAll elements).length := by
  have inside := ((List.singleton_sublist.2 member).flatMap Element.encode).length_le
  rwa [List.flatMap_singleton] at inside

theorem encodeAll_le_of_forall₂ {own received : List Element}
    (within : List.Forall₂ Element.Within own received) :
    (encodeAll own).length ≤ (encodeAll received).length := by
  induction within with
  | nil => exact Nat.le_refl _
  | cons first _ ih =>
    rw [encodeAll_cons, encodeAll_cons, List.length_append, List.length_append]
    exact Nat.add_le_add first.encode_le ih

theorem encodeAll_le_of_sublist {own received : List Element} (within : own.Sublist received) :
    (encodeAll own).length ≤ (encodeAll received).length :=
  (within.flatMap Element.encode).length_le

theorem readable_of_encodeAll {elements : List Element}
    (tagged : ∀ element ∈ elements, isTag element.tag = true)
    (short : (encodeAll elements).length ≤ maxLength) : ∀ element ∈ elements, element.Readable := by
  intro element member
  refine ⟨tagged element member, ?_⟩
  calc element.content.length ≤ element.encode.length := element.content_le_encode
    _ ≤ (encodeAll elements).length := encode_le_encodeAll member
    _ ≤ maxLength := short

theorem encodeAll_inj {first second : List Element}
    (firstReadable : ∀ element ∈ first, element.Readable)
    (secondReadable : ∀ element ∈ second, element.Readable)
    (same : encodeAll first = encodeAll second) : first = second := by
  have split := elements?_eq_some_iff.2 ⟨firstReadable, rfl⟩
  rw [elements?_eq_some_iff.2 ⟨secondReadable, same⟩] at split
  exact (Option.some.inj split).symm

/-- What is written of a value that was read is read as the same value, and takes the place of what
it was read from. -/
structure Rewrites (read : Element → Option α) (write : α → Element) : Prop where
  again : ∀ {element value}, read element = some value → read (write value) = some value
  within : ∀ {element value}, read element = some value → (write value).Within element

def Restores (read : Element → Option α) (write : α → Element) : Prop :=
  ∀ {element value}, read element = some value → write value = element

theorem Restores.rewrites {read : Element → Option α} {write : α → Element}
    (restores : Restores read write) : Rewrites read write where
  again := by
    intro element value found
    rw [restores found, found]
  within := by
    intro element value found
    rw [restores found]
    exact .refl element

section Rewrites

variable {read : Element → Option α} {write : α → Element}

theorem Rewrites.mapM_again (rewrites : Rewrites read write) {parts : List Element}
    {values : List α} (found : parts.mapM read = some values) :
    (values.map write).mapM read = some values := by
  rw [mapM_eq_some_iff] at found ⊢
  induction found with
  | nil => exact .nil
  | cons first _ ih => exact .cons (rewrites.again first) ih

theorem Rewrites.forall₂_within (rewrites : Rewrites read write) {parts : List Element}
    {values : List α} (found : parts.mapM read = some values) :
    List.Forall₂ Element.Within (values.map write) parts := by
  rw [mapM_eq_some_iff] at found
  induction found with
  | nil => exact .nil
  | cons first _ ih => exact .cons (rewrites.within first) ih

theorem readable_of_forall₂ {own received : List Element}
    (within : List.Forall₂ Element.Within own received)
    (readable : ∀ element ∈ received, element.Readable) : ∀ element ∈ own, element.Readable := by
  induction within with
  | nil => simp
  | cons first _ ih =>
    rw [List.forall_mem_cons] at readable ⊢
    exact ⟨first.readable readable.1, ih readable.2⟩

theorem Rewrites.inside?_written (rewrites : Rewrites read write) {tag : UInt8} {element : Element}
    {parts : List Element} {values : List α} (inside : element.inside? tag = some parts)
    (each : parts.mapM read = some values) :
    Element.inside? ⟨tag, encodeAll (values.map write)⟩ tag = some (values.map write) :=
  Element.inside?_eq_some_iff.2 ⟨rfl, readable_of_forall₂ (rewrites.forall₂_within each)
    (Element.inside?_eq_some_iff.1 inside).2⟩

theorem Rewrites.inside (rewrites : Rewrites read write) (tag : UInt8) :
    Rewrites (fun element => (element.inside? tag).bind fun parts => parts.mapM read)
      (fun values => ⟨tag, encodeAll (values.map write)⟩) where
  again := by
    intro element values found
    obtain ⟨parts, inside, each⟩ := Option.bind_eq_some_iff.1 found
    exact Option.bind_eq_some_iff.2
      ⟨_, rewrites.inside?_written inside each, rewrites.mapM_again each⟩
  within := by
    intro element values found
    obtain ⟨parts, inside, each⟩ := Option.bind_eq_some_iff.1 found
    obtain ⟨rfl, _⟩ := Element.inside?_eq_some_iff.1 inside
    exact ⟨rfl, encodeAll_le_of_forall₂ (rewrites.forall₂_within each)⟩

theorem Rewrites.written_eq_iff (rewrites : Rewrites read write) {tag : UInt8} {element : Element}
    {parts : List Element} {values : List α} (inside : element.inside? tag = some parts)
    (each : parts.mapM read = some values) :
    (⟨tag, encodeAll (values.map write)⟩ : Element) = element ↔ values.map write = parts := by
  have written := rewrites.inside?_written inside each
  constructor
  · intro same
    rw [same, inside, Option.some.injEq] at written
    exact written.symm
  · intro same
    rw [same, (Element.inside?_eq_some_iff.1 inside).1]

theorem map_write_eq_iff {plain : Element → Prop}
    (same : ∀ {element value}, read element = some value → (write value = element ↔ plain element))
    {parts : List Element} {values : List α} (found : parts.mapM read = some values) :
    values.map write = parts ↔ ∀ part ∈ parts, plain part := by
  rw [mapM_eq_some_iff] at found
  induction found with
  | nil => simp
  | cons first _ ih => rw [List.map_cons, List.cons.injEq, List.forall_mem_cons, same first, ih]

theorem Restores.map_write (restores : Restores read write) {parts : List Element}
    {values : List α} (found : parts.mapM read = some values) : values.map write = parts := by
  have always {element : Element} {value : α} (first : read element = some value) :
      write value = element ↔ True := by
    simp [restores first]
  exact (map_write_eq_iff always found).2 fun _ _ => trivial

end Rewrites

theorem ObjectIdentifier.restores : Restores ofElement? element := by
  intro received oid found
  simp only [ofElement?, ofContent?, Option.ite_none_right_eq_some, Option.some.injEq] at found
  obtain ⟨tag, _, rfl⟩ := found
  cases received
  cases tag
  rfl

theorem BitString.content_of_ofContent? {content : Bytes} {bits : BitString}
    (found : ofContent? content = some bits) : bits.content = content := by
  unfold ofContent? at found
  split at found
  · cases found
  · rw [Option.ite_none_left_eq_some, Option.some.injEq] at found
    rw [← found.2, BitString.content]

theorem BitString.restores : Restores ofElement? element := by
  intro received bits found
  obtain ⟨content, own, read⟩ := Option.bind_eq_some_iff.1 found
  rw [Element.contentOf?_eq_some_iff.1 own, element, content_of_ofContent? read]

theorem Time.restores : Restores ofElement? element := by
  intro received time found
  simp only [ofElement?] at found
  split at found
  · obtain ⟨_, _, rfl⟩ := Option.map_eq_some_iff.1 found
    rfl
  · split at found
    · obtain ⟨_, _, rfl⟩ := Option.map_eq_some_iff.1 found
      rfl
    · cases found

/-! Optional elements, which are found by their numbers. -/

theorem takeOptional_append {number : Nat} {element : Element}
    (above : number < element.tag.toNat % 32) (elements : List Element) :
    takeOptional number (elements ++ [element]) =
      ((takeOptional number elements).1, (takeOptional number elements).2 ++ [element]) := by
  induction elements with
  | nil => simp [takeOptional, above]
  | cons first rest ih =>
    rw [List.cons_append, takeOptional, takeOptional]
    split
    · rfl
    · split
      · rfl
      · exact ih

theorem exists_before_takeOptional (number : Nat) (elements : List Element) :
    ∃ before, elements = before ++ (takeOptional number elements).2 := by
  induction elements with
  | nil => exact ⟨[], rfl⟩
  | cons first rest ih =>
    rw [takeOptional]
    split
    · exact ⟨[], rfl⟩
    · split
      · exact ⟨[first], rfl⟩
      · obtain ⟨before, split⟩ := ih
        exact ⟨first :: before, congrArg (first :: ·) split⟩

theorem takeOptional_sublist (number : Nat) (elements : List Element) :
    ((takeOptional number elements).1.toList ++ (takeOptional number elements).2).Sublist elements := by
  induction elements with
  | nil => exact .slnil
  | cons first rest ih =>
    rw [takeOptional]
    split
    · exact .refl _
    · split
      · exact .refl _
      · exact ih.cons first

theorem takeOptional_last {number : Nat} {element : Element} {elements : List Element} :
    takeOptional number elements = (some element, []) ↔
      ∃ passed, elements = passed ++ [element] ∧ takeOptional number passed = (none, []) ∧
        element.isContextSpecific = true ∧ element.tag.toNat % 32 = number := by
  constructor
  · intro found
    induction elements with
    | nil => cases found
    | cons first rest ih =>
      rw [takeOptional] at found
      split at found
      · cases found
      · next taken =>
        rw [not_or] at taken
        split at found
        · next same =>
          cases found
          exact ⟨[], rfl, rfl, by simpa using taken.1, same⟩
        · next other =>
          obtain ⟨passed, rfl, none, specific, same⟩ := ih found
          refine ⟨first :: passed, rfl, ?_, specific, same⟩
          rw [takeOptional, if_neg (not_or.2 taken), if_neg other, none]
  · rintro ⟨passed, rfl, none, specific, same⟩
    induction passed with
    | nil => simp [takeOptional, specific, same]
    | cons first rest ih =>
      rw [takeOptional] at none
      rw [List.cons_append, takeOptional]
      split at none
      · cases none
      · next taken =>
        split at none
        · cases none
        · next other => rw [if_neg taken, if_neg other, ih none]

end EnclaveProvenance.Der
