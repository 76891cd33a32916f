import EnclaveProvenance.Proofs.Certificate.Layout

/-!
The form in which a signed part is written from its fields. It is read as the same fields and is not
longer than what was received, and it is what was received only if that was canonical.
-/

namespace EnclaveProvenance

open Der (Element encodeAll takeOptional)

namespace TbsCertificate

variable {layout : Layout} {tbs : TbsCertificate}

def ownLayout (tbs : TbsCertificate) : Layout where
  version := if tbs.version = 0 then none else some (versionElement tbs.version)
  serial := ⟨Der.integerTag, tbs.serial⟩
  algorithm := tbs.algorithm.element
  issuer := tbs.issuer.element
  validity := ⟨Der.sequenceTag, encodeAll [tbs.notBefore.element, tbs.notAfter.element]⟩
  subject := tbs.subject.element
  keyInfo := tbs.keyInfo.element
  identifiers := uniqueIdElements 0x81 tbs.issuerId ++ uniqueIdElements 0x82 tbs.subjectId
  extensions := tbs.extensions.map (List.map Extension.element)

theorem element_ownLayout (tbs : TbsCertificate) : tbs.ownLayout.element = tbs.element := by
  have version : tbs.ownLayout.version.toList = tbs.versionElements := by
    simp only [ownLayout, versionElements, versionElement]
    split
    · rfl
    · rfl
  have extensions : (tbs.ownLayout.extensions.map extensionsElement).toList = tbs.extensionElements := by
    simp only [ownLayout, extensionElements]
    cases tbs.extensions with
    | none => rfl
    | some _ => rfl
  rw [Layout.element, Layout.elements, Layout.optional, version, extensions, element]
  simp [ownLayout, Layout.fields]

theorem uniqueId?_eq_some_iff {tag : UInt8} {received : Option Element}
    {bits : Option Der.BitString} :
    uniqueId? tag received = some bits ↔ received.toList = uniqueIdElements tag bits ∧
      ∀ own ∈ bits, Der.BitString.ofContent? own.content = some own := by
  cases received with
  | none => cases bits <;> simp [uniqueId?, uniqueIdElements]
  | some element =>
    simp only [uniqueId?, Option.bind_eq_bind, Option.bind_eq_some_iff,
      Element.contentOf?_eq_some_iff, Option.pure_def, Option.some.injEq]
    constructor
    · rintro ⟨content, rfl, own, read, rfl⟩
      obtain rfl := Der.BitString.content_of_ofContent? read
      exact ⟨rfl, by simpa using read⟩
    · rintro ⟨same, read⟩
      cases bits with
      | none => cases same
      | some own => exact ⟨own.content, (List.cons.inj same).1, own, read own rfl, rfl⟩

namespace Layout

theorem ReadsIdentifiers.taken {received : List Element} {issuerId subjectId : Option Der.BitString}
    (reads : ReadsIdentifiers received issuerId subjectId) :
    (uniqueIdElements 0x81 issuerId ++ uniqueIdElements 0x82 subjectId).Sublist received := by
  have first := Der.takeOptional_sublist 1 received
  have second := Der.takeOptional_sublist 2 (takeOptional 1 received).2
  rw [(uniqueId?_eq_some_iff.1 reads.issuer).1] at first
  rw [(uniqueId?_eq_some_iff.1 reads.subject).1] at second
  exact (((List.sublist_append_left _ _).trans second).append_left _).trans first

theorem ReadsIdentifiers.again {received : List Element} {issuerId subjectId : Option Der.BitString}
    (reads : ReadsIdentifiers received issuerId subjectId) :
    ReadsIdentifiers (uniqueIdElements 0x81 issuerId ++ uniqueIdElements 0x82 subjectId)
      issuerId subjectId := by
  have issuer := (uniqueId?_eq_some_iff.1 reads.issuer).2
  have subject := (uniqueId?_eq_some_iff.1 reads.subject).2
  cases issuerId <;> cases subjectId <;>
    constructor <;>
    simp_all [uniqueIdElements, takeOptional, Element.isContextSpecific, uniqueId?_eq_some_iff]

theorem ReadsVersion.again {received : Option Element} {number : UInt8}
    (reads : ReadsVersion received number) :
    ReadsVersion (if number = 0 then none else some (versionElement number)) number := by
  by_cases first : number = 0
  · subst first
    exact .absent
  · rw [if_neg first]
    cases reads with
    | absent => exact absurd rfl first
    | present known => exact .present known

theorem ReadsVersion.taken {received : Option Element} {number : UInt8}
    (reads : ReadsVersion received number) :
    (if number = 0 then none else some (versionElement number)).toList.Sublist received.toList := by
  by_cases first : number = 0
  · rw [if_pos first]
    exact List.nil_sublist _
  · rw [if_neg first]
    cases reads with
    | absent => exact absurd rfl first
    | present _ => exact .refl _

theorem within_extensionsElement {own received : List Element}
    (shorter : (encodeAll own).length ≤ (encodeAll received).length) :
    (extensionsElement own).Within (extensionsElement received) :=
  ⟨rfl, Element.Within.encode_le ⟨rfl, shorter⟩⟩

theorem ReadsExtensions.again {received : Option (List Element)}
    {extensions : Option (List Extension)} (reads : ReadsExtensions received extensions) :
    ReadsExtensions (extensions.map (List.map Extension.element)) extensions := by
  cases reads with
  | absent => exact .absent
  | present readable each =>
    exact .present (Der.readable_of_forall₂ (Extension.rewrites.forall₂_within each) readable)
      (Extension.rewrites.mapM_again each)

theorem ReadsExtensions.within {received : Option (List Element)}
    {extensions : Option (List Extension)} (reads : ReadsExtensions received extensions) :
    List.Forall₂ Element.Within
      ((extensions.map (List.map Extension.element)).map extensionsElement).toList
      (received.map extensionsElement).toList := by
  cases reads with
  | absent => exact .nil
  | present _ each =>
    exact .cons (within_extensionsElement
      (Der.encodeAll_le_of_forall₂ (Extension.rewrites.forall₂_within each))) .nil

theorem ReadsFields.serial_eq (reads : layout.ReadsFields tbs) :
    layout.serial = tbs.ownLayout.serial :=
  (Element.integerContent?_eq_some_iff.1 reads.serial).1

theorem ReadsFields.again (reads : layout.ReadsFields tbs) : tbs.ownLayout.ReadsFields tbs where
  serial := reads.serial_eq ▸ reads.serial
  short := reads.short
  algorithm := AlgorithmIdentifier.restores.rewrites.again reads.algorithm
  issuer := Name.rewrites.again reads.issuer
  validity := validity_restores.rewrites.again reads.validity
  subject := Name.rewrites.again reads.subject
  keyInfo := KeyInfo.restores.rewrites.again reads.keyInfo
  identifiers := reads.identifiers.again
  extensions := reads.extensions.again

theorem ReadsFields.within (reads : layout.ReadsFields tbs) :
    List.Forall₂ Element.Within tbs.ownLayout.fields layout.fields := by
  refine .cons (reads.serial_eq ▸ .refl _) (.cons ?_ (.cons ?_ (.cons ?_ (.cons ?_ (.cons ?_ .nil)))))
  · exact AlgorithmIdentifier.restores.rewrites.within reads.algorithm
  · exact Name.rewrites.within reads.issuer
  · exact validity_restores.rewrites.within reads.validity
  · exact Name.rewrites.within reads.subject
  · exact KeyInfo.restores.rewrites.within reads.keyInfo

theorem Reads.within (reads : layout.Reads tbs) : ∃ kept : List Element,
    List.Forall₂ Element.Within tbs.ownLayout.elements kept ∧ kept.Sublist layout.elements := by
  have same (elements : List Element) : List.Forall₂ Element.Within elements elements :=
    List.forall₂_same.2 fun element _ => .refl element
  refine ⟨tbs.ownLayout.version.toList ++ layout.fields ++
    (tbs.ownLayout.identifiers ++ (layout.extensions.map extensionsElement).toList), ?_, ?_⟩
  · exact List.rel_append (List.rel_append (same _) reads.toReadsFields.within)
      (List.rel_append (same _) reads.extensions.within)
  · exact (reads.version.taken.append_right _).append (reads.identifiers.taken.append_right _)

theorem Reads.again (reads : layout.Reads tbs) : tbs.ownLayout.Reads tbs where
  toReadsFields := reads.toReadsFields.again
  readable := by
    obtain ⟨kept, within, sublist⟩ := reads.within
    exact Der.readable_of_forall₂ within fun element member =>
      reads.readable element (sublist.subset member)
  version := reads.version.again

theorem Reads.written_within (reads : layout.Reads tbs) : tbs.element.Within layout.element := by
  obtain ⟨kept, within, sublist⟩ := reads.within
  rw [← element_ownLayout]
  exact ⟨rfl, Nat.le_trans (Der.encodeAll_le_of_forall₂ within)
    (Der.encodeAll_le_of_sublist sublist)⟩

/-! Which layouts are the own ones of their fields. -/

/-- The first version is not written, the sets of the names are in ascending order, there is nothing
beside the two identifiers, and no extension says that it is not critical. -/
structure Canonical (layout : Layout) : Prop where
  version : layout.version ≠ some (versionElement 0)
  issuer : Name.IsAscending layout.issuer
  subject : Name.IsAscending layout.subject
  identifiers : (layout.identifiers.map Element.tag).Sublist [0x81, 0x82]
  extensions : ∀ list, layout.extensions = some list →
    ∀ element ∈ list, ¬Extension.SaysNotCritical element

theorem ReadsVersion.eq_iff {received : Option Element} {number : UInt8}
    (reads : ReadsVersion received number) :
    (if number = 0 then none else some (versionElement number)) = received ↔
      received ≠ some (versionElement 0) := by
  cases reads with
  | absent => simp
  | present _ =>
    by_cases first : number = 0
    · simp [first]
    · simp [first, versionElement, Element.encode]

theorem ReadsExtensions.eq_iff {received : Option (List Element)}
    {extensions : Option (List Extension)} (reads : ReadsExtensions received extensions) :
    extensions.map (List.map Extension.element) = received ↔
      ∀ list, received = some list → ∀ element ∈ list, ¬Extension.SaysNotCritical element := by
  cases reads with
  | absent => simp
  | present _ each =>
    simp only [Option.map_some, Option.some.injEq, forall_eq',
      Der.map_write_eq_iff Extension.element_eq_iff each]

theorem ReadsIdentifiers.eq_iff {received : List Element} {issuerId subjectId : Option Der.BitString}
    (reads : ReadsIdentifiers received issuerId subjectId) :
    uniqueIdElements 0x81 issuerId ++ uniqueIdElements 0x82 subjectId = received ↔
      (received.map Element.tag).Sublist [0x81, 0x82] := by
  constructor
  · rintro rfl
    cases issuerId <;> cases subjectId <;> simp [uniqueIdElements]
  · intro known
    have issuer := (uniqueId?_eq_some_iff.1 reads.issuer).1
    have subject := (uniqueId?_eq_some_iff.1 reads.subject).1
    rw [← issuer, ← subject]
    simp only [List.sublist_cons_iff, List.sublist_nil, List.map_eq_nil_iff, List.map_eq_cons_iff,
      exists_eq_right, existsAndEq, and_true] at known
    rcases known with (rfl | ⟨own, rfl, tag⟩) | ⟨own, _, ⟨rfl, tag⟩, rfl | ⟨other, rfl, otherTag⟩⟩
    · rfl
    · simp [takeOptional, Element.isContextSpecific, tag]
    · simp [takeOptional, Element.isContextSpecific, tag]
    · simp [takeOptional, Element.isContextSpecific, tag, otherTag]

theorem ReadsFields.eq_iff (reads : layout.ReadsFields tbs) :
    tbs.ownLayout.fields = layout.fields ↔
      Name.IsAscending layout.issuer ∧ Name.IsAscending layout.subject := by
  rw [← Name.element_eq_iff reads.issuer, ← Name.element_eq_iff reads.subject]
  simp [fields, ownLayout, reads.serial_eq, AlgorithmIdentifier.restores reads.algorithm,
    validity_restores reads.validity, KeyInfo.restores reads.keyInfo]

theorem ReadsExtensions.append_inj {first second : Option (List Element)}
    {extensions : Option (List Extension)} (firstReads : ReadsExtensions first extensions)
    (secondReads : ReadsExtensions second extensions) {before otherBefore : List Element}
    (same : before ++ (first.map extensionsElement).toList =
      otherBefore ++ (second.map extensionsElement).toList) :
    before = otherBefore ∧ first = second := by
  cases firstReads with
  | absent =>
    cases secondReads with
    | absent => exact ⟨by simpa using same, rfl⟩
  | @present list _ readable _ =>
    cases secondReads with
    | @present otherList _ otherReadable _ =>
      obtain ⟨others, last⟩ := List.append_inj' same rfl
      have content := (Element.mk.inj (List.cons.inj last).1).2
      have inner := (Element.mk.inj (Element.encode_inj content)).2
      exact ⟨others, by rw [Der.encodeAll_inj readable otherReadable inner]⟩

theorem eq_of_elements_eq {first second : Layout} (firstReads : first.Reads tbs)
    (secondReads : second.Reads tbs) (same : first.elements = second.elements) : first = second := by
  have split := congrArg (takeOptional 0) same
  rw [takeOptional_elements firstReads.toReadsFields firstReads.version,
    takeOptional_elements secondReads.toReadsFields secondReads.version, Prod.mk.injEq] at split
  obtain ⟨version, later⟩ := split
  obtain ⟨fields, optional⟩ := List.append_inj later rfl
  obtain ⟨identifiers, extensions⟩ := firstReads.extensions.append_inj secondReads.extensions optional
  cases first
  cases second
  simp_all [Layout.fields]

theorem Reads.encode_eq_iff (reads : layout.Reads tbs) : tbs.encode = layout.encode ↔ layout.Canonical := by
  have again := reads.again
  have whole : tbs.encode = layout.encode ↔ tbs.ownLayout = layout := by
    constructor
    · intro same
      rw [TbsCertificate.encode, ← element_ownLayout] at same
      have content := (Element.mk.inj (Element.encode_inj same)).2
      exact eq_of_elements_eq again reads (Der.encodeAll_inj again.readable reads.readable content)
    · intro same
      rw [← same, TbsCertificate.encode, ← element_ownLayout, Layout.encode]
  rw [whole]
  constructor
  · intro same
    obtain ⟨issuer, subject⟩ := reads.toReadsFields.eq_iff.1 (by rw [same])
    exact ⟨reads.version.eq_iff.1 (congrArg Layout.version same), issuer, subject,
      reads.identifiers.eq_iff.1 (congrArg Layout.identifiers same),
      reads.extensions.eq_iff.1 (congrArg Layout.extensions same)⟩
  · rintro ⟨version, issuer, subject, identifiers, extensions⟩
    refine eq_of_elements_eq again reads ?_
    have sameVersion : tbs.ownLayout.version = layout.version := reads.version.eq_iff.2 version
    have sameIdentifiers : tbs.ownLayout.identifiers = layout.identifiers :=
      reads.identifiers.eq_iff.2 identifiers
    have sameExtensions : tbs.ownLayout.extensions = layout.extensions :=
      reads.extensions.eq_iff.2 extensions
    rw [elements, elements, optional, optional, sameVersion, sameIdentifiers, sameExtensions,
      reads.toReadsFields.eq_iff.2 ⟨issuer, subject⟩]

end Layout

end TbsCertificate

end EnclaveProvenance
