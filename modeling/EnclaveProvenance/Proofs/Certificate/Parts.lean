import EnclaveProvenance.Certificate.Basic
import EnclaveProvenance.Proofs.Der.Sequences

/-!
Algorithms, keys and extensions read and written again. Only an extension that is not critical has
two forms.
-/

namespace EnclaveProvenance

open Der (Element Restores Rewrites)

theorem Der.Element.boolean?_eq_some_iff {element : Element} {value : Bool} :
    element.boolean? = some value ↔ element = ⟨booleanTag, [if value then 0xFF else 0x00]⟩ := by
  unfold boolean?
  split
  · next content =>
    rw [contentOf?_eq_some_iff] at content
    subst content
    cases value <;> simp
  · next content =>
    rw [contentOf?_eq_some_iff] at content
    subst content
    cases value <;> simp
  · next notFalse notTrue =>
    constructor
    · intro impossible
      cases impossible
    · rintro rfl
      cases value
      · exact absurd rfl notFalse
      · exact absurd rfl notTrue

theorem Der.ObjectIdentifier.element_inj {first second : ObjectIdentifier}
    (same : first.element = second.element) : first = second := by
  cases first
  cases second
  cases same
  rfl

theorem AlgorithmIdentifier.restores : Restores ofElement? element := by
  intro received algorithm found
  simp only [ofElement?, Option.bind_eq_bind, Option.bind_eq_some_iff] at found
  obtain ⟨parts, inside, found⟩ := found
  obtain ⟨rfl, _⟩ := Element.inside?_eq_some_iff.1 inside
  split at found
  · simp only [Option.bind_eq_some_iff, Option.pure_def, Option.some.injEq] at found
    obtain ⟨own, ownRead, rfl⟩ := found
    rw [element, Der.ObjectIdentifier.restores ownRead]
    rfl
  · simp only [Option.bind_eq_some_iff, Option.pure_def, Option.some.injEq] at found
    obtain ⟨own, ownRead, rfl⟩ := found
    rw [element, Der.ObjectIdentifier.restores ownRead]
    rfl
  · cases found

theorem KeyInfo.restores : Restores ofElement? element := by
  intro received info found
  simp only [ofElement?, Option.bind_eq_bind, Option.bind_eq_some_iff] at found
  obtain ⟨parts, inside, found⟩ := found
  obtain ⟨rfl, _⟩ := Element.inside?_eq_some_iff.1 inside
  split at found
  · simp only [Option.bind_eq_some_iff, Option.pure_def, Option.some.injEq] at found
    obtain ⟨algorithm, algorithmRead, key, keyRead, rfl⟩ := found
    rw [element, AlgorithmIdentifier.restores algorithmRead, Der.BitString.restores keyRead]
  · cases found

namespace Extension

def parts (extension : Extension) : List Element :=
  extension.oid.element :: (if extension.critical then [⟨Der.booleanTag, [0xFF]⟩] else []) ++
    [⟨Der.octetStringTag, extension.value⟩]

def statedParts (extension : Extension) : List Element :=
  [extension.oid.element, ⟨Der.booleanTag, [0x00]⟩, ⟨Der.octetStringTag, extension.value⟩]

theorem ofElement?_eq_some_iff {received : Element} {extension : Extension} :
    ofElement? received = some extension ↔
      Der.ObjectIdentifier.ofElement? extension.oid.element = some extension.oid ∧
        (received.inside? Der.sequenceTag = some extension.parts ∨
          extension.critical = false ∧
            received.inside? Der.sequenceTag = some extension.statedParts) := by
  simp only [ofElement?, Option.bind_eq_bind, Option.bind_eq_some_iff]
  constructor
  · rintro ⟨inner, inside, found⟩
    split at found
    · simp only [Option.bind_eq_some_iff, Option.pure_def, Option.some.injEq,
        Element.contentOf?_eq_some_iff] at found
      obtain ⟨oid, named, value, rfl, rfl⟩ := found
      obtain rfl := Der.ObjectIdentifier.restores named
      exact ⟨named, .inl inside⟩
    · simp only [Option.bind_eq_some_iff, Option.pure_def, Option.some.injEq,
        Element.contentOf?_eq_some_iff, Element.boolean?_eq_some_iff] at found
      obtain ⟨oid, named, critical, rfl, value, rfl, rfl⟩ := found
      obtain rfl := Der.ObjectIdentifier.restores named
      cases critical with
      | true => exact ⟨named, .inl inside⟩
      | false => exact ⟨named, .inr ⟨rfl, inside⟩⟩
    · cases found
  · rintro ⟨named, inside | ⟨optional, inside⟩⟩
    · refine ⟨_, inside, ?_⟩
      obtain ⟨oid, critical, value⟩ := extension
      cases critical with
      | true => simp [parts, named, Element.contentOf?, Element.boolean?]
      | false => simp [parts, named, Element.contentOf?]
    · refine ⟨_, inside, ?_⟩
      obtain ⟨oid, critical, value⟩ := extension
      cases optional
      simp [statedParts, named, Element.contentOf?, Element.boolean?]

def isOfType (oid : Der.ObjectIdentifier) (element : Element) : Bool :=
  match element.inside? Der.sequenceTag with
  | some (first :: _) => first == oid.element
  | _ => false

theorem isOfType_eq {received : Element} {extension : Extension}
    (found : ofElement? received = some extension) (oid : Der.ObjectIdentifier) :
    isOfType oid received = decide (extension.oid = oid) := by
  have named : (extension.oid.element == oid.element) = decide (extension.oid = oid) := by
    by_cases same : extension.oid = oid
    · simp [same]
    · have differ : extension.oid.element ≠ oid.element := fun equal =>
        same (Der.ObjectIdentifier.element_inj equal)
      simp [same, differ]
  obtain ⟨_, inside | ⟨_, inside⟩⟩ := ofElement?_eq_some_iff.1 found
  · simp only [isOfType, inside, parts, List.cons_append, named]
  · simp only [isOfType, inside, statedParts, named]

theorem parts_sublist (extension : Extension) (optional : extension.critical = false) :
    extension.parts.Sublist extension.statedParts := by
  simp [parts, statedParts, optional]

theorem inside?_element {received : Element} {extension : Extension}
    (found : ofElement? received = some extension) :
    extension.element.inside? Der.sequenceTag = some extension.parts := by
  refine Element.inside?_eq_some_iff.2 ⟨rfl, ?_⟩
  obtain ⟨_, inside | ⟨optional, inside⟩⟩ := ofElement?_eq_some_iff.1 found
  · exact (Element.inside?_eq_some_iff.1 inside).2
  · exact fun part member => (Element.inside?_eq_some_iff.1 inside).2 part
      ((extension.parts_sublist optional).subset member)

theorem rewrites : Rewrites ofElement? element where
  again := fun found => ofElement?_eq_some_iff.2
    ⟨(ofElement?_eq_some_iff.1 found).1, .inl (inside?_element found)⟩
  within := by
    intro received extension found
    obtain ⟨_, inside | ⟨optional, inside⟩⟩ := ofElement?_eq_some_iff.1 found
    · rw [(Element.inside?_eq_some_iff.1 inside).1]
      exact .refl _
    · rw [(Element.inside?_eq_some_iff.1 inside).1]
      exact ⟨rfl, Der.encodeAll_le_of_sublist (extension.parts_sublist optional)⟩

/-- An extension that says that it is not critical, as it need not. -/
def SaysNotCritical (received : Element) : Prop :=
  ∃ oid value, received.inside? Der.sequenceTag = some [oid, ⟨Der.booleanTag, [0x00]⟩, value]

theorem not_saysNotCritical_element {received : Element} {extension : Extension}
    (found : ofElement? received = some extension) : ¬SaysNotCritical extension.element := by
  rintro ⟨oid, value, said⟩
  rw [inside?_element found, Option.some.injEq, parts] at said
  cases critical : extension.critical with
  | true => simp [critical] at said
  | false => simp [critical] at said

theorem element_eq_iff {received : Element} {extension : Extension}
    (found : ofElement? received = some extension) :
    extension.element = received ↔ ¬SaysNotCritical received := by
  constructor
  · rintro rfl
    exact not_saysNotCritical_element found
  · intro silent
    obtain ⟨_, inside | ⟨_, inside⟩⟩ := ofElement?_eq_some_iff.1 found
    · exact (Element.inside?_eq_some_iff.1 inside).1.symm
    · exact absurd ⟨_, _, inside⟩ silent

end Extension

end EnclaveProvenance
