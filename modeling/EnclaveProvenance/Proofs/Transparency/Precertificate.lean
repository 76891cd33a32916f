import EnclaveProvenance.Proofs.Certificate.Canonical
import EnclaveProvenance.Proofs.Checks
import EnclaveProvenance.Transparency.Sct

/-!
The precertificate that logs have signed, as it is found again from a certificate that carries their
timestamps: it does not depend on the lists of timestamps, and it is the received signed part without
them just if the rest of that part was canonical.
-/

namespace EnclaveProvenance

open Checks
open Der (Element encodeAll)

variable {α β : Type}

inductive Interspersed (added : α → Prop) : List α → List α → Prop
  | nil : Interspersed added [] []
  | kept {rest more : List α} (member : α) (spread : Interspersed added rest more) :
      Interspersed added (member :: rest) (member :: more)
  | inserted {rest more : List α} {member : α} (new : added member)
      (spread : Interspersed added rest more) : Interspersed added rest (member :: more)

namespace Interspersed

variable {added : α → Prop} {list more : List α}

theorem filter_eq (spread : Interspersed added list more) {keep : α → Bool}
    (dropped : ∀ member, added member → keep member = false) :
    more.filter keep = list.filter keep := by
  induction spread with
  | nil => rfl
  | kept member _ ih => rw [List.filter_cons, List.filter_cons, ih]
  | @inserted _ _ member new _ ih =>
    rw [List.filter_cons_of_neg (by rw [dropped member new]; exact Bool.false_ne_true), ih]

theorem of_filter {keep : α → Bool} (news : ∀ member ∈ list, keep member = false → added member) :
    Interspersed added (list.filter keep) list := by
  induction list with
  | nil => exact .nil
  | cons member rest ih =>
    have later := ih fun other belongs => news other (List.mem_cons_of_mem _ belongs)
    by_cases kept : keep member = true
    · rw [List.filter_cons_of_pos kept]
      exact .kept member later
    · rw [List.filter_cons_of_neg kept]
      exact .inserted (news member List.mem_cons_self (Bool.eq_false_iff.2 kept)) later

theorem mapM {read : α → Option β} {addedValue : β → Prop} {values : List β}
    (spread : Interspersed added list more)
    (news : ∀ member, added member → ∃ value, read member = some value ∧ addedValue value)
    (each : list.mapM read = some values) :
    ∃ moreValues, more.mapM read = some moreValues ∧ Interspersed addedValue values moreValues := by
  simp only [mapM_eq_some_iff] at each ⊢
  induction spread generalizing values with
  | nil =>
    cases each
    exact ⟨[], .nil, .nil⟩
  | kept member _ ih =>
    cases each with
    | cons first later =>
      obtain ⟨moreValues, moreRead, moreSpread⟩ := ih later
      exact ⟨_ :: moreValues, .cons first moreRead, .kept _ moreSpread⟩
  | inserted new _ ih =>
    obtain ⟨value, valueRead, valueNew⟩ := news _ new
    obtain ⟨moreValues, moreRead, moreSpread⟩ := ih each
    exact ⟨value :: moreValues, .cons valueRead moreRead, .inserted valueNew moreSpread⟩

end Interspersed

namespace TbsCertificate.Layout

variable {layout : Layout} {tbs : TbsCertificate}

/-- The elements without the extensions of a type; all that encloses these is as long as what is
left. -/
def without (oid : Der.ObjectIdentifier) (layout : Layout) : Layout :=
  { layout with
    extensions := layout.extensions.map fun list =>
      list.filter fun extension => !Extension.isOfType oid extension }

theorem mapM_filter_isOfType {list : List Element} {extensions : List Extension}
    (each : list.mapM Extension.ofElement? = some extensions) (oid : Der.ObjectIdentifier) :
    (list.filter fun extension => !Extension.isOfType oid extension).mapM Extension.ofElement? =
      some (extensions.filter fun extension => extension.oid ≠ oid) := by
  rw [mapM_eq_some_iff] at each ⊢
  refine List.rel_filter (fun element extension read => ?_) each
  simp [Extension.isOfType_eq read]

theorem without_eq_self (absent : layout.extensions = none) (oid : Der.ObjectIdentifier) :
    layout.without oid = layout := by
  cases layout
  cases absent
  rfl

theorem without_eq_withExtensions {list : List Element} (given : layout.extensions = some list)
    (oid : Der.ObjectIdentifier) : layout.without oid =
      layout.withExtensions (list.filter fun extension => !Extension.isOfType oid extension) := by
  rw [without, given]
  rfl

theorem length_withExtensions_le {list shorter : List Element}
    (given : layout.extensions = some list) (sublist : shorter.Sublist list) :
    (layout.withExtensions shorter).element.content.length ≤ layout.element.content.length := by
  have last := (within_extensionsElement (Der.encodeAll_le_of_sublist sublist)).encode_le
  simp only [element, elements, optional, withExtensions, fields, given, encodeAll,
    List.flatMap_append, List.length_append, Option.map_some, Option.toList_some,
    List.flatMap_singleton]
  omega

theorem Reads.without (reads : layout.Reads tbs) (signed : layout.element.Readable) :
    (layout.without Sct.listOid).Reads (Sct.precertificate tbs) := by
  rcases reads.extensions.eq_or with ⟨absent, noneRead⟩ | ⟨list, extensions, given, read, each⟩
  · have same : Sct.precertificate tbs = tbs := by
      cases tbs
      cases noneRead
      rfl
    rw [without_eq_self absent, same]
    exact reads
  · rw [without_eq_withExtensions given, Sct.precertificate, read]
    refine reads.withExtensions (mapM_filter_isOfType each _) (Nat.le_trans ?_ signed.length)
    exact length_withExtensions_le given List.filter_sublist

end TbsCertificate.Layout

namespace Sct

variable {leaf : Certificate} {layout : TbsCertificate.Layout}

theorem others_eq_self {extensions : List Extension} (read : leaf.tbs.extensions = some extensions)
    (unlisted : leaf.extension? listOid = none) :
    (extensions.filter fun extension => extension.oid ≠ listOid) = extensions := by
  rw [Certificate.extension?, read, Option.map_eq_none_iff, Option.getD_some,
    List.find?_eq_none] at unlisted
  rw [List.filter_eq_self]
  simpa using unlisted

theorem without_eq_self_of_unlisted (reads : layout.Reads leaf.tbs)
    (unlisted : leaf.extension? listOid = none) : layout.without listOid = layout := by
  rcases reads.extensions.eq_or with ⟨absent, _⟩ | ⟨list, extensions, given, read, each⟩
  · exact TbsCertificate.Layout.without_eq_self absent listOid
  · have left := TbsCertificate.Layout.mapM_filter_isOfType each listOid
    rw [others_eq_self read unlisted] at left
    have length := (mapM_eq_some_iff.1 left).length_eq.trans (mapM_eq_some_iff.1 each).length_eq.symm
    rw [TbsCertificate.Layout.without_eq_withExtensions given, List.filter_sublist.eq_of_length length]
    cases layout
    cases given
    rfl

namespace Stated

/-! A certificate with two extensions. The first says that it is not critical, as it need not; the
second holds a timestamp. -/

def text : Bytes := [
    0x3082019d30820143a003020102020102300a06082a8648ce3d040302300d310b,
    0x300906035504030c026361301e170d3233313131343030303030305a170d3233,
    0x313131353030303030305a30003059301306072a8648ce3d020106082a8648ce,
    0x3d030107034200041129829272411f81cb44f74d6962397a66187a44925fb110,
    0x3743e86a6a75a83ebf2234a063f232889cb4f1b500ba29c343c3ad4ddcbe827f,
    0x18f697e35fcf92bea381a030819d300e0603551d0f0101000404030207803081,
    0x8a060a2b06010401d679020402047c047a007800760016bcc4546ae1595197f8,
    0x0295673168182263c21a047ba18a7f2e408a4badf3100000018bcfe568000000,
    0x040300473045022100d04240a1da34e6c3a3719b5ef967e2e06c9dff1324efaa,
    0x1806d88dc26e7b5b10022031152ae1b64f9aa94f439ab1ebec87a4624ced1045,
    0xf2559bc63405279f716fa0300a06082a8648ce3d0403020348003045022100f9,
    0x1f4e9fb4057a5e1ffd1f30650cd5fcc1d76b929920c165d2d0e69ddc35fc1d02,
    0x204c07c7a38ac94e3a7013cde68f5076720a4ae63b3456041b29467a07164599].flatMap (Bytes.ofNat 32) ++
    Bytes.ofNat 1 0x8f

set_option maxRecDepth 100000 in
theorem text_parses : (Certificate.ofDer? text).isSome = true := by decide +kernel

def certificate : Certificate := (Certificate.ofDer? text).get text_parses

theorem parsed : Certificate.ofDer text = .ok certificate := by
  rw [Certificate.ofDer, ← Option.some_get text_parses]
  rfl

def usage : Element := ⟨Der.sequenceTag, [0x06, 0x03, 0x55, 0x1D, 0x0F, 0x01, 0x01, 0x00, 0x04, 0x04,
  0x03, 0x02, 0x07, 0x80]⟩

def timestamps : Element := ⟨Der.sequenceTag, encodeAll [listOid.element,
  ⟨Der.octetStringTag, (certificate.extension? listOid).getD []⟩]⟩

def received : TbsCertificate.Layout := certificate.tbs.ownLayout.withExtensions [usage, timestamps]

set_option maxRecDepth 100000 in
theorem listed : certificate.tbs.extensions = some (certificate.tbs.extensions.getD []) := by
  decide +kernel

set_option maxRecDepth 100000 in
theorem extensions_read :
    [usage, timestamps].mapM Extension.ofElement? = some (certificate.tbs.extensions.getD []) := by
  decide +kernel

set_option maxRecDepth 100000 in
theorem short : (Certificate.outer received.encode certificate.algorithm
    certificate.signature).content.length ≤ Der.maxLength := by
  decide +kernel

set_option maxRecDepth 100000 in
theorem text_written :
    text = (Certificate.outer received.encode certificate.algorithm certificate.signature).encode := by
  decide +kernel

set_option maxRecDepth 100000 in
theorem written_differs :
    (precertificate certificate.tbs).encode ≠ (received.without listOid).encode := by
  decide +kernel

theorem laidOut : certificate.LaidOut received := by
  obtain ⟨same, _, parsedLaidOut⟩ := Certificate.ofDer_eq_ok_iff.1 parsed
  have signedShort := Nat.le_trans (Certificate.signed_le_outer _ _ _) short
  have reads := parsedLaidOut.reads.again.relisted listed extensions_read signedShort
  exact ⟨reads, parsedLaidOut.algorithm, parsedLaidOut.signature, short, same.trans text_written⟩

end Stated

/-- What is written of a precertificate is what was received of the certificate, without the lists of
timestamps, just if all else was received in the canonical form. -/
theorem precertificate_eq_without_iff {text : Bytes} (parsed : Certificate.ofDer text = .ok leaf) :
    ∃ layout, leaf.LaidOut layout ∧ leaf.signedBytes = .ok layout.encode ∧
      ((precertificate leaf.tbs).encode = (layout.without listOid).encode ↔
        (layout.without listOid).Canonical) ∧
      (leaf.extension? listOid = none → layout.without listOid = layout) := by
  obtain ⟨_, layout, laidOut⟩ := Certificate.ofDer_eq_ok_iff.1 parsed
  exact ⟨layout, laidOut, laidOut.signedBytes_eq,
    (laidOut.reads.without laidOut.signed_readable).encode_eq_iff,
    without_eq_self_of_unlisted laidOut.reads⟩

theorem stated_eq_without_iff : Certificate.ofDer Stated.text = .ok Stated.certificate ∧
    ∃ layout, Stated.certificate.LaidOut layout ∧
      Stated.certificate.signedBytes = .ok layout.encode ∧
      ((precertificate Stated.certificate.tbs).encode = (layout.without listOid).encode ↔
        (layout.without listOid).Canonical) ∧
      (Stated.certificate.extension? listOid = none → layout.without listOid = layout) :=
  ⟨Stated.parsed, precertificate_eq_without_iff Stated.parsed⟩

theorem stated_ne_without : Certificate.ofDer Stated.text = .ok Stated.certificate ∧
    Stated.certificate.LaidOut Stated.received ∧
    Stated.certificate.signedBytes = .ok Stated.received.encode ∧
    (precertificate Stated.certificate.tbs).encode ≠ (Stated.received.without listOid).encode :=
  ⟨Stated.parsed, Stated.laidOut, Stated.laidOut.signedBytes_eq, Stated.written_differs⟩

def IsTimestampList (element : Element) : Prop :=
  ∃ extension, Extension.ofElement? element = some extension ∧ extension.oid = listOid

theorem isTimestampList_iff {element : Element} {extension : Extension}
    (read : Extension.ofElement? element = some extension) :
    IsTimestampList element ↔ extension.oid = listOid := by
  constructor
  · rintro ⟨other, otherRead, listed⟩
    cases read.symm.trans otherRead
    exact listed
  · intro listed
    exact ⟨extension, read, listed⟩

/-- What is left of a signed part without the lists of timestamps among its extensions. -/
structure Strips (tbs stripped : TbsCertificate) : Prop where
  fields : { stripped with extensions := tbs.extensions } = tbs
  present : stripped.extensions.isSome = tbs.extensions.isSome
  order : Interspersed (fun extension : Extension => extension.oid = listOid)
    (stripped.extensions.getD []) (tbs.extensions.getD [])
  unlisted : ∀ extension ∈ stripped.extensions.getD [], extension.oid ≠ listOid

theorem strips_precertificate (tbs : TbsCertificate) : Strips tbs (precertificate tbs) := by
  have others : (precertificate tbs).extensions.getD [] =
      (tbs.extensions.getD []).filter fun extension => extension.oid ≠ listOid := by
    rw [precertificate]
    cases tbs.extensions with
    | none => rfl
    | some extensions => rfl
  refine ⟨rfl, ?_, ?_, ?_⟩
  · simp [precertificate]
  · rw [others]
    exact .of_filter fun extension _ dropped => by simpa using dropped
  · rw [others]
    intro extension member
    simpa using (List.mem_filter.1 member).2

/-- The octets of a stripped part hold the elements of the other extensions in the order in which they
were received. They hold one as it was received unless it says that it is not critical, and else
without saying so. -/
def HoldsOthers (received : List Element) (stripped : TbsCertificate) : Prop :=
  ∃ (kept written : List Element) (own : TbsCertificate.Layout),
    Interspersed IsTimestampList kept received ∧ (∀ element ∈ kept, ¬IsTimestampList element) ∧
    List.Forall₂ (fun element again => Extension.ofElement? again = Extension.ofElement? element ∧
      (again = element ↔ ¬Extension.SaysNotCritical element)) kept written ∧
    own.extensions = some written ∧ own.Reads stripped ∧ own.encode = stripped.encode

theorem encode_ownLayout (tbs : TbsCertificate) : tbs.ownLayout.encode = tbs.encode := by
  rw [TbsCertificate.Layout.encode, TbsCertificate.element_ownLayout, TbsCertificate.encode]

theorem holdsOthers {list : List Element} {bare : List Extension} (reads : layout.Reads leaf.tbs)
    (signed : layout.element.Readable) (given : leaf.tbs.extensions = some bare)
    (each : list.mapM Extension.ofElement? = some bare) :
    HoldsOthers list (precertificate leaf.tbs) := by
  have isList : ∀ element ∈ list,
      (Extension.isOfType listOid element = true ↔ IsTimestampList element) := by
    intro element member
    obtain ⟨extension, read⟩ := Option.isSome_iff_exists.1 (isSome_of_mapM each element member)
    rw [Extension.isOfType_eq read, decide_eq_true_iff, isTimestampList_iff read]
  have left := mapM_eq_some_iff.1 (TbsCertificate.Layout.mapM_filter_isOfType each listOid)
  have spread : Interspersed IsTimestampList
      (list.filter fun element => !Extension.isOfType listOid element) list :=
    .of_filter fun element member dropped => (isList element member).1 (by simpa using dropped)
  refine ⟨_, (bare.filter fun extension => extension.oid ≠ listOid).map Extension.element,
    (precertificate leaf.tbs).ownLayout, spread, ?_, ?_, ?_, (reads.without signed).again,
    encode_ownLayout _⟩
  · intro element member
    obtain ⟨received, others⟩ := List.mem_filter.1 member
    rw [← isList element received]
    simpa using others
  · exact List.forall₂_map_right_iff.2 (left.imp fun element extension read =>
      ⟨(Extension.rewrites.again read).trans read.symm, Extension.element_eq_iff read⟩)
  · simp only [TbsCertificate.ownLayout, precertificate, given, Option.map_some]

/-- What a certificate has in common with one that has lists of timestamps put among its
extensions. -/
structure KeepsPrecertificate (leaf issued : Certificate) : Prop where
  written : (precertificate issued.tbs).encode = (precertificate leaf.tbs).encode
  strips : Strips issued.tbs (precertificate leaf.tbs)
  fields : { issued.tbs with extensions := leaf.tbs.extensions } = leaf.tbs
  order : Interspersed (fun extension => extension.oid = listOid) (leaf.tbs.extensions.getD [])
    (issued.tbs.extensions.getD [])
  others : ∀ oid, oid ≠ listOid → issued.extension? oid = leaf.extension? oid
  verified : ∀ issuer root required scts, embedded issued = .ok scts →
    (verifyAll issued issuer root required = .ok () ↔ required = 0 ∨
      required ≤ (tally scts (issuerKeyHash issuer) (precertificate leaf.tbs).encode root).logs.length)

theorem verifyAll_eq_ok_iff {issuer : Certificate} {root : TrustedRoot} {required : Nat}
    {scts : List Sct} (read : embedded leaf = .ok scts) :
    verifyAll leaf issuer root required = .ok () ↔ required = 0 ∨
      required ≤ (tally scts (issuerKeyHash issuer) (precertificate leaf.tbs).encode root).logs.length := by
  unfold verifyAll
  by_cases none : required = 0
  · simp [none, pure, Except.pure]
  · rw [if_neg none, read]
    simp [none, Except.mapError, refuseLast_eq_ok_iff, pure_eq_ok_iff, bind_eq_ok_iff]

theorem KeepsPrecertificate.of_interspersed {issued : Certificate} {bare stamped : List Extension}
    (listed : leaf.tbs.extensions = some bare)
    (same : issued.tbs = { leaf.tbs with extensions := some stamped })
    (spread : Interspersed (fun extension : Extension => extension.oid = listOid) bare stamped) :
    KeepsPrecertificate leaf issued := by
  have stripped : precertificate issued.tbs = precertificate leaf.tbs := by
    rw [same]
    simp only [precertificate, listed, Option.map_some]
    rw [spread.filter_eq fun extension isList => by simp [isList]]
  constructor
  · rw [stripped]
  · rw [← stripped]
    exact strips_precertificate issued.tbs
  · rw [same]
  · rw [same, listed]
    exact spread
  · intro oid other
    rw [Certificate.extension?, Certificate.extension?, same, listed, Option.getD_some,
      Option.getD_some, ← List.head?_filter, ← List.head?_filter]
    rw [spread.filter_eq fun extension isList => by simpa [isList] using other.symm]
  · intro issuer root required scts read
    rw [verifyAll_eq_ok_iff read, stripped]

theorem interspersed_extensions {bare : List Extension} {list stamped : List Element}
    (each : list.mapM Extension.ofElement? = some bare)
    (spread : Interspersed IsTimestampList list stamped) :
    ∃ extensions, stamped.mapM Extension.ofElement? = some extensions ∧
      Interspersed (fun extension : Extension => extension.oid = listOid) bare extensions :=
  spread.mapM (fun _ isList => isList) each

theorem precertificate_within (reads : layout.Reads leaf.tbs) (signed : layout.element.Readable) :
    (precertificate leaf.tbs).element.Within layout.element := by
  have written := (reads.without signed).written_within
  refine ⟨rfl, Nat.le_trans written.length ?_⟩
  rcases reads.extensions.eq_or with ⟨absent, _⟩ | ⟨list, _, given, _, _⟩
  · exact Nat.le_of_eq (by rw [TbsCertificate.Layout.without_eq_self absent])
  · rw [TbsCertificate.Layout.without_eq_withExtensions given]
    exact TbsCertificate.Layout.length_withExtensions_le given List.filter_sublist

theorem precertificate_precertificate (tbs : TbsCertificate) :
    precertificate (precertificate tbs) = precertificate tbs := by
  simp [precertificate, Function.comp_def]

theorem stripped_laidOut (laidOut : leaf.LaidOut layout) : ∃ stripped : Certificate,
    stripped.LaidOut (precertificate leaf.tbs).ownLayout := by
  have again := (laidOut.reads.without laidOut.signed_readable).again
  have shorter := (precertificate_within laidOut.reads laidOut.signed_readable).encode_le
  refine ⟨⟨(Certificate.outer (precertificate leaf.tbs).ownLayout.encode leaf.algorithm
    leaf.signature).encode, precertificate leaf.tbs, leaf.algorithm, leaf.signature⟩,
    again, laidOut.algorithm, laidOut.signature, Nat.le_trans ?_ laidOut.short, rfl⟩
  simp only [Certificate.outer, TbsCertificate.Layout.encode, TbsCertificate.element_ownLayout,
    List.length_append] at shorter ⊢
  omega

/-- What is read of octets with these extensions keeps the precertificate, and only their length can
keep them from being read. -/
structure Embeds (leaf : Certificate) (layout : TbsCertificate.Layout) (stamped : List Element) :
    Prop where
  keeps : ∀ text issued, Certificate.ofDer text = .ok issued →
    issued.signedBytes = .ok (layout.withExtensions stamped).encode → KeepsPrecertificate leaf issued
  accepted : ∀ algorithm signature,
    AlgorithmIdentifier.ofElement? algorithm.element = some algorithm →
    Der.BitString.ofElement? signature.element = some signature →
    ((∃ issued, Certificate.ofDer (Certificate.outer (layout.withExtensions stamped).encode algorithm
      signature).encode = .ok issued) ↔ (Certificate.outer (layout.withExtensions stamped).encode
      algorithm signature).content.length ≤ Der.maxLength)

theorem embeds_of_interspersed {bare : List Extension} {list stamped : List Element}
    (reads : layout.Reads leaf.tbs) (listed : leaf.tbs.extensions = some bare)
    (each : list.mapM Extension.ofElement? = some bare)
    (spread : Interspersed IsTimestampList list stamped) : Embeds leaf layout stamped := by
  obtain ⟨extensions, stampedEach, stampedSpread⟩ := interspersed_extensions each spread
  have stampedReads := reads.withExtensions stampedEach
  constructor
  · intro text issued parsed signed
    obtain ⟨_, issuedLayout, laidOut⟩ := Certificate.ofDer_eq_ok_iff.1 parsed
    rw [laidOut.signedBytes_eq, Except.ok.injEq] at signed
    have short := laidOut.signed_readable.length
    rw [Element.encode_inj signed] at short
    exact .of_interspersed listed (laidOut.tbs_eq (stampedReads short) signed) stampedSpread
  · intro algorithm signature algorithmRead signatureRead
    constructor
    · rintro ⟨issued, parsed⟩
      obtain ⟨own, issuedLayout, laidOut⟩ := Certificate.ofDer_eq_ok_iff.1 parsed
      have same := Element.encode_inj (laidOut.octets.symm.trans own)
      exact same ▸ laidOut.short
    · intro short
      have signedShort := Nat.le_trans (Certificate.signed_le_outer _ _ _) short
      exact ⟨⟨_, _, algorithm, signature⟩, Certificate.ofDer_eq_ok_iff.2 ⟨rfl, _,
        stampedReads signedShort, algorithmRead, signatureRead, short, rfl⟩⟩

structure StripsOnce (leaf : Certificate) : Prop where
  accepted : ∃ text stripped, Certificate.ofDer text = .ok stripped ∧
    stripped.signedBytes = .ok (precertificate leaf.tbs).encode
  again : ∀ text stripped, Certificate.ofDer text = .ok stripped →
    stripped.signedBytes = .ok (precertificate leaf.tbs).encode →
    (precertificate stripped.tbs).encode = (precertificate leaf.tbs).encode

theorem stripsOnce (laidOut : leaf.LaidOut layout) : StripsOnce leaf := by
  have written := encode_ownLayout (precertificate leaf.tbs)
  constructor
  · obtain ⟨stripped, strippedLaidOut⟩ := stripped_laidOut laidOut
    exact ⟨stripped.der, stripped, Certificate.ofDer_eq_ok_iff.2 ⟨rfl, _, strippedLaidOut⟩,
      written ▸ strippedLaidOut.signedBytes_eq⟩
  · intro text stripped parsed signed
    obtain ⟨_, strippedLayout, strippedLaidOut⟩ := Certificate.ofDer_eq_ok_iff.1 parsed
    rw [strippedLaidOut.signedBytes_eq, Except.ok.injEq, ← written] at signed
    have again := (laidOut.reads.without laidOut.signed_readable).again
    rw [strippedLaidOut.tbs_eq again signed, precertificate_precertificate]

/-- What a log signs before there are timestamps is the precertificate of what is then issued: its fields
always, and its octets just if they were received in the canonical form. -/
structure IsOwnPrecertificate (leaf : Certificate) (layout : TbsCertificate.Layout) : Prop where
  same : precertificate leaf.tbs = leaf.tbs
  signed_iff : leaf.signedBytes = .ok (precertificate leaf.tbs).encode ↔ layout.Canonical

theorem isOwnPrecertificate {bare : List Extension} (laidOut : leaf.LaidOut layout)
    (listed : leaf.tbs.extensions = some bare) (unlisted : leaf.extension? listOid = none) :
    IsOwnPrecertificate leaf layout := by
  have same : precertificate leaf.tbs = leaf.tbs := by
    rw [precertificate, listed, Option.map_some, others_eq_self listed unlisted, ← listed]
  refine ⟨same, ?_⟩
  rw [same, laidOut.signedBytes_eq, Except.ok.injEq, eq_comm]
  exact laidOut.reads.encode_eq_iff

/-- The precertificate is the certificate's signed part without the lists of timestamps. Lists that are
put among the extensions, wherever and however, do not change it, and stripping it once more changes
nothing. -/
theorem embedding_keeps_precertificate {text : Bytes} {bare : List Extension}
    (parsed : Certificate.ofDer text = .ok leaf) (listed : leaf.tbs.extensions = some bare) :
    ∃ layout list, leaf.LaidOut layout ∧ layout.extensions = some list ∧
      Strips leaf.tbs (precertificate leaf.tbs) ∧ HoldsOthers list (precertificate leaf.tbs) ∧
      (leaf.extension? listOid = none → IsOwnPrecertificate leaf layout) ∧
      (∀ stamped, Interspersed IsTimestampList list stamped → Embeds leaf layout stamped) ∧
      StripsOnce leaf := by
  obtain ⟨_, layout, laidOut⟩ := Certificate.ofDer_eq_ok_iff.1 parsed
  rcases laidOut.reads.extensions.eq_or with ⟨_, absent⟩ | ⟨list, extensions, given, read, each⟩
  · rw [listed] at absent
    cases absent
  · rw [listed, Option.some.injEq] at read
    subst read
    exact ⟨layout, list, laidOut, given, strips_precertificate leaf.tbs,
      holdsOthers laidOut.reads laidOut.signed_readable listed each, isOwnPrecertificate laidOut listed,
      fun stamped spread => embeds_of_interspersed laidOut.reads listed each spread,
      stripsOnce laidOut⟩

theorem stated_keeps_precertificate : Certificate.ofDer Stated.text = .ok Stated.certificate ∧
    Stated.certificate.tbs.extensions = some (Stated.certificate.tbs.extensions.getD []) ∧
    ∃ layout list, Stated.certificate.LaidOut layout ∧ layout.extensions = some list ∧
      Strips Stated.certificate.tbs (precertificate Stated.certificate.tbs) ∧
      HoldsOthers list (precertificate Stated.certificate.tbs) ∧
      (Stated.certificate.extension? listOid = none →
        IsOwnPrecertificate Stated.certificate layout) ∧
      (∀ stamped, Interspersed IsTimestampList list stamped →
        Embeds Stated.certificate layout stamped) ∧
      StripsOnce Stated.certificate :=
  ⟨Stated.parsed, Stated.listed, embedding_keeps_precertificate Stated.parsed Stated.listed⟩

end Sct

end EnclaveProvenance
