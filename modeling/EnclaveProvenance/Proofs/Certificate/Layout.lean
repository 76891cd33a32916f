import EnclaveProvenance.Proofs.Certificate.Names
import EnclaveProvenance.Proofs.Certificate.Parts

/-!
The signed part of a certificate in the form in which it is received. Writing its fields again gives
the octets that were received exactly if these were written in one certain way.
-/

namespace EnclaveProvenance

open Der (Element Restores sequence_isTag takeOptional)

namespace TbsCertificate

theorem validity_restores : Restores validity? fun times =>
    ⟨Der.sequenceTag, Der.encodeAll [times.1.element, times.2.element]⟩ := by
  intro received times found
  simp only [validity?, Option.bind_eq_bind, Option.bind_eq_some_iff] at found
  obtain ⟨parts, inside, found⟩ := found
  obtain ⟨rfl, _⟩ := Element.inside?_eq_some_iff.1 inside
  split at found
  · simp only [Option.bind_eq_some_iff, Option.pure_def, Option.some.injEq] at found
    obtain ⟨notBefore, beforeRead, notAfter, afterRead, rfl⟩ := found
    simp only [Der.Time.restores beforeRead, Der.Time.restores afterRead]
  · cases found

def versionElement (number : UInt8) : Element :=
  ⟨0xA0, Element.encode ⟨Der.integerTag, [number]⟩⟩

theorem inside?_versionElement (number : UInt8) :
    (versionElement number).inside? 0xA0 = some [⟨Der.integerTag, [number]⟩] := by
  refine Element.inside?_eq_some_iff.2 ⟨by simp [versionElement, Der.encodeAll], ?_⟩
  rintro part (_ | ⟨_, ⟨⟩⟩)
  have tagged : Der.isTag Der.integerTag = true := by decide
  have single : ([number] : Bytes).length ≤ Der.maxLength := by simp [Der.maxLength]
  exact ⟨tagged, single⟩

theorem version?_eq_some_iff {received : Element} {number : UInt8} :
    version? received = some number ↔ received = versionElement number ∧ number ≤ 2 := by
  simp only [version?, Option.bind_eq_bind, Option.bind_eq_some_iff]
  constructor
  · rintro ⟨parts, inside, found⟩
    split at found
    · obtain ⟨content, own, single⟩ := Option.bind_eq_some_iff.1 found
      obtain ⟨rfl, _⟩ := Element.integerContent?_eq_some_iff.1 own
      split at single
      · rw [Option.ite_none_right_eq_some, Option.some.injEq] at single
        obtain ⟨known, rfl⟩ := single
        refine ⟨?_, known⟩
        rw [(Element.inside?_eq_some_iff.1 inside).1, versionElement]
        simp [Der.encodeAll]
      · cases single
    · cases found
  · rintro ⟨rfl, known⟩
    refine ⟨_, inside?_versionElement number, ?_⟩
    have own : Element.integerContent? ⟨Der.integerTag, [number]⟩ = some [number] :=
      Element.integerContent?_eq_some_iff.2 ⟨rfl, rfl⟩
    simp [own, known]

def extensionsElement (list : List Element) : Element :=
  ⟨0xA3, Element.encode ⟨Der.sequenceTag, Der.encodeAll list⟩⟩

/-- The elements of a signed part. The identifiers are all that stands between the key and the
extensions. -/
structure Layout where
  version : Option Element
  serial : Element
  algorithm : Element
  issuer : Element
  validity : Element
  subject : Element
  keyInfo : Element
  identifiers : List Element
  extensions : Option (List Element)

namespace Layout

def fields (layout : Layout) : List Element :=
  [layout.serial, layout.algorithm, layout.issuer, layout.validity, layout.subject, layout.keyInfo]

def optional (layout : Layout) : List Element :=
  layout.identifiers ++ (layout.extensions.map extensionsElement).toList

def elements (layout : Layout) : List Element :=
  layout.version.toList ++ layout.fields ++ layout.optional

def element (layout : Layout) : Element := ⟨Der.sequenceTag, Der.encodeAll layout.elements⟩

def encode (layout : Layout) : Bytes := layout.element.encode

inductive ReadsVersion : Option Element → UInt8 → Prop
  | absent : ReadsVersion none 0
  | present {number : UInt8} (known : number ≤ 2) : ReadsVersion (some (versionElement number)) number

structure ReadsIdentifiers (received : List Element) (issuerId subjectId : Option Der.BitString) :
    Prop where
  issuer : uniqueId? 0x81 (takeOptional 1 received).1 = some issuerId
  subject : uniqueId? 0x82 (takeOptional 2 (takeOptional 1 received).2).1 = some subjectId
  others : takeOptional 3 (takeOptional 2 (takeOptional 1 received).2).2 = (none, [])

inductive ReadsExtensions : Option (List Element) → Option (List Extension) → Prop
  | absent : ReadsExtensions none none
  | present {list : List Element} {extensions : List Extension}
      (readable : ∀ element ∈ list, element.Readable)
      (each : list.mapM Extension.ofElement? = some extensions) :
      ReadsExtensions (some list) (some extensions)

theorem ReadsExtensions.eq_or {received : Option (List Element)}
    {extensions : Option (List Extension)} (reads : ReadsExtensions received extensions) :
    (received = none ∧ extensions = none) ∨ ∃ list each, received = some list ∧
      extensions = some each ∧ list.mapM Extension.ofElement? = some each := by
  cases reads with
  | absent => exact .inl ⟨rfl, rfl⟩
  | present _ each => exact .inr ⟨_, _, rfl, rfl, each⟩

structure ReadsFields (layout : Layout) (tbs : TbsCertificate) : Prop where
  serial : layout.serial.integerContent? = some tbs.serial
  short : tbs.serial.length ≤ maxSerial
  algorithm : AlgorithmIdentifier.ofElement? layout.algorithm = some tbs.algorithm
  issuer : Name.ofElement? layout.issuer = some tbs.issuer
  validity : validity? layout.validity = some (tbs.notBefore, tbs.notAfter)
  subject : Name.ofElement? layout.subject = some tbs.subject
  keyInfo : KeyInfo.ofElement? layout.keyInfo = some tbs.keyInfo
  identifiers : ReadsIdentifiers layout.identifiers tbs.issuerId tbs.subjectId
  extensions : ReadsExtensions layout.extensions tbs.extensions

structure Reads (layout : Layout) (tbs : TbsCertificate) : Prop extends ReadsFields layout tbs where
  readable : ∀ element ∈ layout.elements, element.Readable
  version : ReadsVersion layout.version tbs.version

end Layout

/-! The reader, by its steps. -/

def readVersion? : Option Element → Option UInt8
  | none => some 0
  | some element => version? element

def ofFields? (version : UInt8) : List Element → Option TbsCertificate
  | serial :: algorithm :: issuer :: validity :: subject :: keyInfo :: optional => do
    let serial ← serial.integerContent?
    let times ← validity? validity
    let first := takeOptional 1 optional
    let second := takeOptional 2 first.2
    let third := takeOptional 3 second.2
    if maxSerial < serial.length ∨ third.2 ≠ [] then none
    else
      return {
        version := version
        serial := serial
        algorithm := ← AlgorithmIdentifier.ofElement? algorithm
        issuer := ← Name.ofElement? issuer
        notBefore := times.1
        notAfter := times.2
        subject := ← Name.ofElement? subject
        keyInfo := ← KeyInfo.ofElement? keyInfo
        issuerId := ← uniqueId? 0x81 first.1
        subjectId := ← uniqueId? 0x82 second.1
        extensions := ← extensions? third.1 }
  | _ => none

theorem ofElements?_eq (elements : List Element) :
    ofElements? elements = (readVersion? (takeOptional 0 elements).1).bind fun version =>
      ofFields? version (takeOptional 0 elements).2 := by
  unfold ofElements?
  cases takeOptional 0 elements with
  | mk version later => cases version <;> rfl

theorem readsExtensions_of_extensions? {received : Option Element}
    {extensions : Option (List Extension)} (found : extensions? received = some extensions) :
    ∃ lists : Option (List Element), received = lists.map extensionsElement ∧
      Layout.ReadsExtensions lists extensions := by
  cases received with
  | none =>
    cases found
    exact ⟨none, rfl, .absent⟩
  | some element =>
    simp only [extensions?, Option.bind_eq_bind, Option.bind_eq_some_iff] at found
    obtain ⟨parts, inside, found⟩ := found
    split at found
    · obtain ⟨elements, elementsRead, found⟩ := Option.bind_eq_some_iff.1 found
      obtain ⟨each, eachRead, same⟩ := Option.bind_eq_some_iff.1 found
      cases same
      obtain ⟨rfl, _⟩ := Element.inside?_eq_some_iff.1 inside
      obtain ⟨rfl, readable⟩ := Element.inside?_eq_some_iff.1 elementsRead
      exact ⟨some elements, by simp [extensionsElement, Der.encodeAll], .present readable eachRead⟩
    · cases found

theorem extensions?_map {lists : Option (List Element)} {extensions : Option (List Extension)}
    (reads : Layout.ReadsExtensions lists extensions)
    (readable : ∀ element ∈ lists.map extensionsElement, element.Readable) :
    extensions? (lists.map extensionsElement) = some extensions := by
  cases reads with
  | absent => rfl
  | @present list extensions partsReadable each =>
    have outer := readable _ rfl
    have inner : Element.Readable ⟨Der.sequenceTag, Der.encodeAll list⟩ :=
      ⟨sequence_isTag, Nat.le_trans (Element.content_le_encode _) outer.length⟩
    have outside : (extensionsElement list).inside? 0xA3 =
        some [⟨Der.sequenceTag, Der.encodeAll list⟩] :=
      Element.inside?_eq_some_iff.2 ⟨by simp [extensionsElement, Der.encodeAll], by simpa using inner⟩
    have inside : Element.inside? ⟨Der.sequenceTag, Der.encodeAll list⟩ Der.sequenceTag = some list :=
      Element.inside?_eq_some_iff.2 ⟨rfl, partsReadable⟩
    simp [extensions?, outside, inside, each]

theorem number_extensionsElement (list : List Element) :
    (extensionsElement list).tag.toNat % 32 = 3 := by
  simp [extensionsElement]

theorem takeOptional_extensions {number : Nat} (below : number < 3) (received : List Element)
    (lists : Option (List Element)) :
    takeOptional number (received ++ (lists.map extensionsElement).toList) =
      ((takeOptional number received).1,
        (takeOptional number received).2 ++ (lists.map extensionsElement).toList) := by
  cases lists with
  | none => simp
  | some list =>
    exact Der.takeOptional_append (by rw [number_extensionsElement]; exact below) received

theorem takeOptional_three_iff {received : List Element} {lists : Option (List Element)} :
    takeOptional 3 received = (lists.map extensionsElement, []) ↔
      ∃ passed, received = passed ++ (lists.map extensionsElement).toList ∧
        takeOptional 3 passed = (none, []) := by
  cases lists with
  | none => simp
  | some list =>
    have specific : (extensionsElement list).isContextSpecific = true := rfl
    simp only [Option.map_some, Der.takeOptional_last, specific, number_extensionsElement, and_true,
      Option.toList_some]

theorem searches_iff {received : List Element} {lists : Option (List Element)}
    {issuerId subjectId : Option Der.BitString} :
    (uniqueId? 0x81 (takeOptional 1 received).1 = some issuerId ∧
      uniqueId? 0x82 (takeOptional 2 (takeOptional 1 received).2).1 = some subjectId ∧
      takeOptional 3 (takeOptional 2 (takeOptional 1 received).2).2 =
        (lists.map extensionsElement, [])) ↔
    ∃ identifiers, received = identifiers ++ (lists.map extensionsElement).toList ∧
      Layout.ReadsIdentifiers identifiers issuerId subjectId := by
  constructor
  · rintro ⟨issuer, subject, last⟩
    obtain ⟨passed, split, none⟩ := takeOptional_three_iff.1 last
    obtain ⟨first, firstSplit⟩ := Der.exists_before_takeOptional 1 received
    obtain ⟨second, secondSplit⟩ := Der.exists_before_takeOptional 2 (takeOptional 1 received).2
    have whole : received = (first ++ second ++ passed) ++ (lists.map extensionsElement).toList := by
      rw [firstSplit, secondSplit, split]
      simp
    refine ⟨_, whole, ?_⟩
    generalize first ++ second ++ passed = identifiers at whole
    subst whole
    simp only [takeOptional_extensions (show 1 < 3 by decide),
      takeOptional_extensions (show 2 < 3 by decide)] at issuer subject split
    exact ⟨issuer, subject, by rw [List.append_cancel_right split, none]⟩
  · rintro ⟨identifiers, rfl, reads⟩
    rw [takeOptional_extensions (by omega), takeOptional_extensions (by omega)]
    exact ⟨reads.issuer, reads.subject, takeOptional_three_iff.2 ⟨_, rfl, reads.others⟩⟩

theorem ofFields?_eq_some_iff {number : UInt8} {received : List Element} {tbs : TbsCertificate}
    (readable : ∀ element ∈ received, element.Readable) (version : Option Element) :
    ofFields? number received = some tbs ↔ tbs.version = number ∧ ∃ layout : Layout,
      layout.version = version ∧ layout.fields ++ layout.optional = received ∧
        layout.ReadsFields tbs := by
  constructor
  · intro found
    unfold ofFields? at found
    split at found
    · next serial algorithm issuer validity subject keyInfo optional =>
      simp only [Option.bind_eq_bind, Option.bind_eq_some_iff, Option.ite_none_left_eq_some, not_or,
        Nat.not_lt, ne_eq, Decidable.not_not, Option.pure_def, Option.some.injEq] at found
      obtain ⟨_, serialRead, times, timesRead, ⟨short, last⟩, _, algorithmRead, _, issuerRead, _,
        subjectRead, _, keyInfoRead, issuerId, issuerIdRead, subjectId, subjectIdRead, _,
        extensionsRead, rfl⟩ := found
      obtain ⟨lists, third, reads⟩ := readsExtensions_of_extensions? extensionsRead
      obtain ⟨identifiers, rfl, identifiersRead⟩ := searches_iff.1
        ⟨issuerIdRead, subjectIdRead, Prod.ext third last⟩
      exact ⟨rfl, ⟨version, serial, algorithm, issuer, validity, subject, keyInfo, identifiers, lists⟩,
        rfl, rfl, serialRead, short, algorithmRead, issuerRead, timesRead, subjectRead, keyInfoRead,
        identifiersRead, reads⟩
    · cases found
  · rintro ⟨rfl, layout, rfl, rfl, reads⟩
    obtain ⟨issuerId, subjectId, third⟩ :=
      (@searches_iff layout.optional layout.extensions _ _).2 ⟨_, rfl, reads.identifiers⟩
    have extensionsRead := extensions?_map reads.extensions fun element given =>
      readable element (by
        rw [Layout.optional, given]
        simp)
    rw [Layout.fields]
    simp [ofFields?, issuerId, subjectId, third, extensionsRead, reads.serial,
      reads.short, reads.algorithm, reads.issuer, reads.validity, reads.subject, reads.keyInfo]

theorem takeOptional_zero (elements : List Element) :
    (takeOptional 0 elements).1.toList ++ (takeOptional 0 elements).2 = elements := by
  cases elements with
  | nil => rfl
  | cons first rest =>
    rw [takeOptional]
    split
    · rfl
    · next taken =>
      rw [if_pos (by omega)]
      rfl

theorem takeOptional_elements {layout : Layout} {tbs : TbsCertificate} {number : UInt8}
    (fields : layout.ReadsFields tbs) (version : Layout.ReadsVersion layout.version number) :
    takeOptional 0 layout.elements = (layout.version, layout.fields ++ layout.optional) := by
  have serial : layout.serial.isContextSpecific = false := by
    rw [(Element.integerContent?_eq_some_iff.1 fields.serial).1]
    rfl
  rw [Layout.elements, List.append_assoc]
  generalize layout.version = received at version
  cases version with
  | absent => simp [Layout.fields, takeOptional, serial]
  | present => simp [versionElement, takeOptional, Element.isContextSpecific]

theorem readVersion?_eq_some_iff {received : Option Element} {number : UInt8} :
    readVersion? received = some number ↔ Layout.ReadsVersion received number := by
  cases received with
  | none =>
    constructor
    · rintro ⟨⟩
      exact .absent
    · rintro ⟨⟩
      rfl
  | some element =>
    rw [readVersion?, version?_eq_some_iff]
    constructor
    · rintro ⟨rfl, known⟩
      exact .present known
    · intro reads
      cases reads with
      | present known => exact ⟨rfl, known⟩

theorem ofElement?_eq_some_iff {received : Element} {tbs : TbsCertificate} :
    ofElement? received = some tbs ↔ ∃ layout : Layout, layout.element = received ∧
      layout.Reads tbs := by
  simp only [ofElement?, Option.bind_eq_some_iff, Element.inside?_eq_some_iff, ofElements?_eq,
    readVersion?_eq_some_iff]
  constructor
  · rintro ⟨elements, ⟨rfl, readable⟩, number, version, found⟩
    have later : ∀ element ∈ (takeOptional 0 elements).2, element.Readable := fun element member =>
      readable element (takeOptional_zero elements ▸ List.mem_append_right _ member)
    obtain ⟨rfl, layout, sameVersion, rest, fields⟩ :=
      (ofFields?_eq_some_iff later (takeOptional 0 elements).1).1 found
    have whole : layout.elements = elements := by
      rw [Layout.elements, List.append_assoc, rest, sameVersion, takeOptional_zero]
    exact ⟨layout, by rw [Layout.element, whole], fields, whole ▸ readable, sameVersion ▸ version⟩
  · rintro ⟨layout, rfl, reads⟩
    have split := takeOptional_elements reads.toReadsFields reads.version
    have later : ∀ element ∈ layout.fields ++ layout.optional, element.Readable :=
      fun element member => reads.readable element (by
        rw [Layout.elements, List.append_assoc]
        exact List.mem_append_right _ member)
    refine ⟨layout.elements, ⟨rfl, reads.readable⟩, tbs.version, ?_, ?_⟩
    · rw [split]
      exact reads.version
    · rw [split, ofFields?_eq_some_iff later layout.version]
      exact ⟨rfl, layout, rfl, rfl, reads.toReadsFields⟩

/-! Another list in the place of the extensions. -/

namespace Layout

variable {layout : Layout} {tbs : TbsCertificate}

def withExtensions (layout : Layout) (list : List Element) : Layout :=
  { layout with extensions := some list }

theorem ReadsExtensions.present_of_mapM {list : List Element} {extensions : List Extension}
    (each : list.mapM Extension.ofElement? = some extensions)
    (short : (Der.encodeAll list).length ≤ Der.maxLength) :
    ReadsExtensions (some list) (some extensions) := by
  have tagged : ∀ element extension, Extension.ofElement? element = some extension →
      Der.isTag element.tag = true ∧ Extension.ofElement? element = some extension := by
    intro element extension read
    have same : Der.sequenceTag = element.tag := (Extension.rewrites.within read).tag
    exact ⟨same ▸ sequence_isTag, read⟩
  have all := (Checks.mapM_eq_some_iff.1 each).imp tagged
  exact .present (Der.readable_of_encodeAll ((List.forall₂_and_left _ _).1 all).1 short) each

theorem mem_elements_withExtensions {list : List Element} {element : Element} :
    element ∈ (layout.withExtensions list).elements →
      element ∈ layout.elements ∨ element = extensionsElement list := by
  simp only [elements, fields, optional, withExtensions, List.mem_append, Option.map_some,
    Option.toList_some, List.mem_singleton]
  tauto

theorem Reads.withExtensions (reads : layout.Reads tbs) {list : List Element}
    {extensions : List Extension} (each : list.mapM Extension.ofElement? = some extensions)
    (short : (layout.withExtensions list).element.content.length ≤ Der.maxLength) :
    (layout.withExtensions list).Reads { tbs with extensions := some extensions } where
  serial := reads.serial
  short := reads.short
  algorithm := reads.algorithm
  issuer := reads.issuer
  validity := reads.validity
  subject := reads.subject
  keyInfo := reads.keyInfo
  identifiers := reads.identifiers
  extensions := by
    have last : extensionsElement list ∈ (layout.withExtensions list).elements := by
      simp [elements, optional, Layout.withExtensions]
    refine .present_of_mapM each ?_
    calc (Der.encodeAll list).length
        ≤ (extensionsElement list).content.length := Element.content_le_encode ⟨_, Der.encodeAll list⟩
      _ ≤ (extensionsElement list).encode.length := Element.content_le_encode _
      _ ≤ (Der.encodeAll (layout.withExtensions list).elements).length := Der.encode_le_encodeAll last
      _ ≤ Der.maxLength := short
  readable := by
    refine Der.readable_of_encodeAll (fun element member => ?_) short
    rcases mem_elements_withExtensions member with received | rfl
    · exact (reads.readable element received).tag
    · have tagged : Der.isTag 0xA3 = true := by decide
      exact tagged
  version := reads.version

theorem Reads.relisted (reads : layout.Reads tbs) {list : List Element}
    {extensions : List Extension} (listed : tbs.extensions = some extensions)
    (each : list.mapM Extension.ofElement? = some extensions)
    (short : (layout.withExtensions list).element.content.length ≤ Der.maxLength) :
    (layout.withExtensions list).Reads tbs := by
  have other := reads.withExtensions each short
  rwa [← listed] at other

end Layout

end TbsCertificate

/-! The whole certificate. -/

namespace Certificate

def outer (signed : Bytes) (algorithm : AlgorithmIdentifier) (signature : Der.BitString) : Element :=
  ⟨Der.sequenceTag, signed ++ algorithm.element.encode ++ signature.element.encode⟩

theorem signed_le_outer (signed : Element) (algorithm : AlgorithmIdentifier)
    (signature : Der.BitString) :
    signed.content.length ≤ (outer signed.encode algorithm signature).content.length := by
  have inside := signed.content_le_encode
  simp only [outer, List.length_append]
  omega

/-- How a certificate stands in the octets that it was read from. -/
structure LaidOut (certificate : Certificate) (layout : TbsCertificate.Layout) : Prop where
  reads : layout.Reads certificate.tbs
  algorithm : AlgorithmIdentifier.ofElement? certificate.algorithm.element = some certificate.algorithm
  signature : Der.BitString.ofElement? certificate.signature.element = some certificate.signature
  short : (outer layout.encode certificate.algorithm certificate.signature).content.length ≤
    Der.maxLength
  octets : certificate.der =
    (outer layout.encode certificate.algorithm certificate.signature).encode

theorem outer_eq (layout : TbsCertificate.Layout) (algorithm : AlgorithmIdentifier)
    (signature : Der.BitString) : outer layout.encode algorithm signature =
      ⟨Der.sequenceTag, Der.encodeAll [layout.element, algorithm.element, signature.element]⟩ := by
  simp [outer, TbsCertificate.Layout.encode, Der.encodeAll]

theorem ofDer_eq_ok_iff {der : Bytes} {certificate : Certificate} :
    ofDer der = .ok certificate ↔ certificate.der = der ∧ ∃ layout, certificate.LaidOut layout := by
  have read : ofDer der = .ok certificate ↔ ofDer? der = some certificate := by
    unfold ofDer
    split
    · next found => simp [found]
    · next missing => simp [missing]
  simp only [read, ofDer?, Option.bind_eq_bind, Option.bind_eq_some_iff,
    Der.onlyElement?_eq_some_iff]
  constructor
  · rintro ⟨_, ⟨readable, rfl⟩, parts, inside, found⟩
    split at found
    · next received algorithm signature =>
      simp only [Option.bind_eq_some_iff, Option.pure_def, Option.some.injEq] at found
      obtain ⟨tbs, tbsRead, own, ownRead, bits, bitsRead, rfl⟩ := found
      obtain ⟨layout, rfl, reads⟩ := TbsCertificate.ofElement?_eq_some_iff.1 tbsRead
      obtain ⟨rfl, _⟩ := Element.inside?_eq_some_iff.1 inside
      obtain rfl := AlgorithmIdentifier.restores ownRead
      obtain rfl := Der.BitString.restores bitsRead
      exact ⟨rfl, layout, reads, ownRead, bitsRead, by simpa [outer_eq] using readable.length,
        by rw [outer_eq]⟩
    · cases found
  · rintro ⟨rfl, layout, laidOut⟩
    have short := laidOut.short
    rw [outer_eq] at short
    have bitsTagged : Der.isTag Der.bitStringTag = true := by decide
    refine ⟨_, ⟨⟨sequence_isTag, laidOut.short⟩, laidOut.octets⟩,
      [layout.element, certificate.algorithm.element, certificate.signature.element],
      Element.inside?_eq_some_iff.2 ⟨outer_eq _ _ _, Der.readable_of_encodeAll ?_ short⟩, ?_⟩
    · simp only [List.forall_mem_cons]
      exact ⟨sequence_isTag, sequence_isTag, bitsTagged, by simp⟩
    · simp [TbsCertificate.ofElement?_eq_some_iff.2 ⟨layout, rfl, laidOut.reads⟩, laidOut.algorithm,
        laidOut.signature]

section LaidOut

variable {certificate : Certificate} {layout : TbsCertificate.Layout}

theorem LaidOut.signed_readable (laidOut : certificate.LaidOut layout) : layout.element.Readable :=
  ⟨sequence_isTag, Nat.le_trans (signed_le_outer _ _ _) laidOut.short⟩

theorem LaidOut.signedBytes_eq (laidOut : certificate.LaidOut layout) :
    certificate.signedBytes = .ok layout.encode := by
  have whole := Der.onlyElement?_eq_some_iff.2 ⟨⟨sequence_isTag, laidOut.short⟩, laidOut.octets⟩
  simp only [signedBytes, whole]
  simp only [outer, TbsCertificate.Layout.encode, List.append_assoc,
    Der.readElement_encode laidOut.signed_readable, Bytes.before_append]

theorem LaidOut.tbs_eq {other : TbsCertificate.Layout} {tbs : TbsCertificate}
    (laidOut : certificate.LaidOut layout) (reads : other.Reads tbs)
    (same : layout.encode = other.encode) : certificate.tbs = tbs := by
  have read := TbsCertificate.ofElement?_eq_some_iff.2 ⟨layout, rfl, laidOut.reads⟩
  rw [Element.encode_inj same, TbsCertificate.ofElement?_eq_some_iff.2 ⟨other, rfl, reads⟩] at read
  exact (Option.some.inj read).symm

end LaidOut

end Certificate

end EnclaveProvenance
