import EnclaveProvenance.Proofs.Certificate.SignedPart
import EnclaveProvenance.Proofs.Checks
import EnclaveProvenance.Proofs.Der.Elements
import EnclaveProvenance.Transparency.Sct

/-!
Signed certificate timestamps in octets (RFC 6962): a list is read from its written form and from
nothing else, and the octets that a log signs determine everything that it vouches for.
-/

namespace EnclaveProvenance.Sct

open Checks

def vector (content : Bytes) : Bytes := Bytes.ofNat 2 content.length ++ content

def written (sct : Sct) : Bytes :=
  0 :: sct.logId ++ Bytes.ofNat 8 sct.timestamp.toNat ++ vector sct.extensions ++
    [sct.hashAlgorithm, sct.signatureAlgorithm] ++ vector sct.signature

def entries (scts : List Sct) : Bytes := scts.flatMap fun sct => vector sct.written

def listWritten (scts : List Sct) : Bytes := vector (entries scts)

structure Fits (sct : Sct) : Prop where
  logId : sct.logId.length = 32
  extensions : sct.extensions.length < 65536
  signature : sct.signature.length < 65536

structure FitsEntry (sct : Sct) : Prop extends Fits sct where
  whole : sct.written.length < 65536

structure ListFits (scts : List Sct) : Prop where
  each : ∀ sct ∈ scts, sct.FitsEntry
  whole : (entries scts).length < 65536

theorem take_eq_ok_iff {count : Nat} {bytes head rest : Bytes} :
    take count bytes = .ok (head, rest) ↔ head.length = count ∧ bytes = head ++ rest := by
  unfold take
  split
  · next short =>
    constructor
    · intro impossible
      cases impossible
    · rintro ⟨rfl, rfl⟩
      rw [List.length_append] at short
      omega
  · next enough =>
    simp only [Except.ok.injEq, Prod.mk.injEq]
    constructor
    · rintro ⟨rfl, rfl⟩
      exact ⟨by rw [List.length_take]; omega, (List.take_append_drop count bytes).symm⟩
    · rintro ⟨rfl, rfl⟩
      simp

theorem takeOctet_eq_ok_iff {octet : UInt8} {bytes rest : Bytes} :
    takeOctet bytes = .ok (octet, rest) ↔ bytes = octet :: rest := by
  unfold takeOctet
  split
  · simp
  · simp

theorem takeVector_eq_ok_iff {bytes content rest : Bytes} :
    takeVector bytes = .ok (content, rest) ↔
      content.length < 65536 ∧ bytes = vector content ++ rest := by
  simp only [takeVector, bind_eq_ok_iff, Prod.exists, take_eq_ok_iff]
  constructor
  · rintro ⟨count, later, ⟨two, rfl⟩, counted, rfl⟩
    have bound := Bytes.toNat_lt count
    rw [two, ← counted] at bound
    have number : count = Bytes.ofNat 2 content.length :=
      (Bytes.eq_ofNat_iff bound).2 ⟨two, counted.symm⟩
    refine ⟨bound, ?_⟩
    rw [vector, ← number, List.append_assoc]
  · rintro ⟨bound, rfl⟩
    have small : content.length < Nat.pow 256 2 := bound
    have number := (Bytes.eq_ofNat_iff small).1 rfl
    exact ⟨Bytes.ofNat 2 content.length, content ++ rest,
      ⟨number.1, by rw [vector, List.append_assoc]⟩, number.2.symm, rfl⟩

theorem ofNat_toNat_eq_iff {octets : Bytes} {time : UInt64} (eight : octets.length = 8) :
    UInt64.ofNat (Bytes.toNat octets) = time ↔ octets = Bytes.ofNat 8 time.toNat := by
  have bound := Bytes.toNat_lt octets
  rw [eight, Nat.pow_eq] at bound
  rw [Bytes.eq_ofNat_iff time.toNat_lt, ← UInt64.toNat_inj, UInt64.toNat_ofNat']
  constructor
  · intro same
    exact ⟨eight, by omega⟩
  · rintro ⟨_, same⟩
    omega

theorem written_append (sct : Sct) (rest : Bytes) :
    sct.written ++ rest = 0 :: (sct.logId ++ (Bytes.ofNat 8 sct.timestamp.toNat ++
      (vector sct.extensions ++
        sct.hashAlgorithm :: sct.signatureAlgorithm :: (vector sct.signature ++ rest)))) := by
  simp [written]

theorem ofBytes_eq_ok_iff {bytes : Bytes} {sct : Sct} :
    ofBytes bytes = .ok sct ↔ sct.Fits ∧ bytes = sct.written := by
  simp only [ofBytes, bind_eq_ok_iff, Prod.exists, takeOctet_eq_ok_iff, take_eq_ok_iff,
    takeVector_eq_ok_iff, refuse_eq_ok_iff, pure_eq_ok_iff, ne_eq, Decidable.not_not]
  constructor
  · rintro ⟨version, _, rfl, rfl, logId, _, ⟨identified, rfl⟩, time, _, ⟨eight, rfl⟩, extensions, _,
      ⟨extended, rfl⟩, hash, _, rfl, algorithm, _, rfl, signature, rest, ⟨signed, rfl⟩, rfl, rfl⟩
    have timed : Bytes.ofNat 8 (UInt64.ofNat (Bytes.toNat time)).toNat = time :=
      ((ofNat_toNat_eq_iff eight).1 rfl).symm
    refine ⟨⟨identified, extended, signed⟩, ?_⟩
    rw [← List.append_nil (written _), written_append, timed]
  · rintro ⟨fits, rfl⟩
    have eight := Bytes.length_ofNat 8 sct.timestamp.toNat
    have timed : UInt64.ofNat (Bytes.toNat (Bytes.ofNat 8 sct.timestamp.toNat)) = sct.timestamp :=
      (ofNat_toNat_eq_iff eight).2 rfl
    rw [← List.append_nil sct.written, written_append]
    refine ⟨0, _, rfl, rfl, sct.logId, _, ⟨fits.logId, rfl⟩, _, _, ⟨eight, rfl⟩, sct.extensions, _,
      ⟨fits.extensions, rfl⟩, sct.hashAlgorithm, _, rfl, sct.signatureAlgorithm, _, rfl,
      sct.signature, [], ⟨fits.signature, rfl⟩, rfl, ?_⟩
    rw [timed]

theorem length_vector (content : Bytes) : (vector content).length = content.length + 2 := by
  rw [vector, List.length_append, Bytes.length_ofNat, Nat.add_comm]

theorem vector_ne_nil (content : Bytes) : vector content ≠ [] := by
  simp [vector, Bytes.ofNat]

theorem entries_cons (sct : Sct) (scts : List Sct) :
    entries (sct :: scts) = vector sct.written ++ entries scts := by
  simp [entries]

theorem entries_eq_nil_iff {scts : List Sct} : entries scts = [] ↔ scts = [] := by
  cases scts with
  | nil => simp [entries]
  | cons sct rest => simp [entries_cons, vector_ne_nil]

theorem readAll_nil_eq_ok_iff {fuel : Nat} {scts : List Sct} :
    readAll fuel [] = .ok scts ↔ (∀ sct ∈ scts, sct.FitsEntry) ∧ [] = entries scts := by
  rw [readAll, Except.ok.injEq, eq_comm, eq_comm (b := entries scts), entries_eq_nil_iff]
  constructor
  · rintro rfl
    exact ⟨by simp, rfl⟩
  · exact And.right

theorem readAll_succ_eq_ok_iff {fuel : Nat} {bytes : Bytes} {scts : List Sct} (more : bytes ≠ []) :
    readAll (fuel + 1) bytes = .ok scts ↔ ∃ sct later rest, sct.FitsEntry ∧
      bytes = vector sct.written ++ rest ∧ readAll fuel rest = .ok later ∧ scts = sct :: later := by
  rw [readAll]
  · simp only [bind_eq_ok_iff, Prod.exists, takeVector_eq_ok_iff, ofBytes_eq_ok_iff, pure_eq_ok_iff]
    constructor
    · rintro ⟨_, rest, ⟨whole, rfl⟩, sct, ⟨fits, rfl⟩, later, read, rfl⟩
      exact ⟨sct, later, rest, ⟨fits, whole⟩, rfl, read, rfl⟩
    · rintro ⟨sct, later, rest, fits, rfl, read, rfl⟩
      exact ⟨_, rest, ⟨fits.whole, rfl⟩, sct, ⟨fits.toFits, rfl⟩, later, read, rfl⟩
  · exact more

theorem readAll_eq_ok_iff {fuel : Nat} {bytes : Bytes} {scts : List Sct}
    (enough : bytes.length ≤ fuel) :
    readAll fuel bytes = .ok scts ↔ (∀ sct ∈ scts, sct.FitsEntry) ∧ bytes = entries scts := by
  induction fuel generalizing bytes scts with
  | zero =>
    obtain rfl := List.length_eq_zero_iff.1 (Nat.le_zero.1 enough)
    exact readAll_nil_eq_ok_iff
  | succ fuel ih =>
    by_cases done : bytes = []
    · subst done
      exact readAll_nil_eq_ok_iff
    rw [readAll_succ_eq_ok_iff done]
    have shorter {sct : Sct} {rest : Bytes}
        (long : (vector sct.written ++ rest).length ≤ fuel + 1) : rest.length ≤ fuel := by
      rw [List.length_append, length_vector] at long
      omega
    constructor
    · rintro ⟨sct, later, rest, fits, rfl, read, rfl⟩
      obtain ⟨each, rfl⟩ := (ih (shorter enough)).1 read
      exact ⟨List.forall_mem_cons.2 ⟨fits, each⟩, (entries_cons sct later).symm⟩
    · rintro ⟨each, rfl⟩
      cases scts with
      | nil => exact absurd rfl done
      | cons sct later =>
        obtain ⟨fits, others⟩ := List.forall_mem_cons.1 each
        rw [entries_cons] at enough ⊢
        exact ⟨sct, later, entries later, fits, rfl, (ih (shorter enough)).2 ⟨others, rfl⟩, rfl⟩

theorem ofList_eq_ok_iff {content : Bytes} {scts : List Sct} :
    ofList content = .ok scts ↔ ListFits scts ∧ content = listWritten scts := by
  simp only [ofList, bind_eq_ok_iff, Prod.exists, takeVector_eq_ok_iff, refuse_eq_ok_iff, ne_eq,
    Decidable.not_not]
  constructor
  · rintro ⟨list, rest, ⟨whole, rfl⟩, rfl, read⟩
    obtain ⟨each, rfl⟩ := (readAll_eq_ok_iff (Nat.le_refl _)).1 read
    exact ⟨⟨each, whole⟩, List.append_nil _⟩
  · rintro ⟨fits, rfl⟩
    exact ⟨entries scts, [], ⟨fits.whole, (List.append_nil _).symm⟩, rfl,
      (readAll_eq_ok_iff (Nat.le_refl _)).2 ⟨fits.each, rfl⟩⟩

/-! What is written can be told from whatever follows it. -/

theorem vector_append_inj {first second firstRest secondRest : Bytes}
    (firstFits : first.length < 65536) (secondFits : second.length < 65536)
    (same : vector first ++ firstRest = vector second ++ secondRest) :
    first = second ∧ firstRest = secondRest := by
  have readFirst : takeVector (vector first ++ firstRest) = .ok (first, firstRest) :=
    takeVector_eq_ok_iff.2 ⟨firstFits, rfl⟩
  rw [takeVector_eq_ok_iff.2 ⟨secondFits, same⟩] at readFirst
  simpa [eq_comm] using readFirst

theorem vector_inj {first second : Bytes} (firstFits : first.length < 65536)
    (secondFits : second.length < 65536) (same : vector first = vector second) : first = second :=
  (vector_append_inj firstFits secondFits (congrArg (· ++ []) same)).1

theorem timestamp_inj {first second : UInt64}
    (same : Bytes.ofNat 8 first.toNat = Bytes.ofNat 8 second.toNat) : first = second := by
  have eight := Bytes.length_ofNat 8 first.toNat
  rw [← (ofNat_toNat_eq_iff eight).2 rfl, (ofNat_toNat_eq_iff eight).2 same]

theorem written_append_inj {first second : Sct} {firstRest secondRest : Bytes}
    (firstFits : first.Fits) (secondFits : second.Fits)
    (same : first.written ++ firstRest = second.written ++ secondRest) :
    first = second ∧ firstRest = secondRest := by
  rw [written_append, written_append, List.cons.injEq] at same
  obtain ⟨logId, same⟩ := List.append_inj same.2 (by rw [firstFits.logId, secondFits.logId])
  obtain ⟨time, same⟩ := List.append_inj same (by simp)
  obtain ⟨extensions, same⟩ := vector_append_inj firstFits.extensions secondFits.extensions same
  rw [List.cons.injEq, List.cons.injEq] at same
  obtain ⟨hash, algorithm, same⟩ := same
  obtain ⟨signature, rest⟩ := vector_append_inj firstFits.signature secondFits.signature same
  cases first
  cases second
  cases timestamp_inj time
  simp_all only [and_self]

theorem entries_append_inj {before scts : List Sct} {rest : Bytes}
    (beforeFits : ∀ sct ∈ before, sct.FitsEntry) (fits : ∀ sct ∈ scts, sct.FitsEntry)
    (same : entries before ++ rest = entries scts) :
    ∃ later, scts = before ++ later ∧ rest = entries later := by
  induction before generalizing scts with
  | nil => exact ⟨scts, rfl, same⟩
  | cons sct before ih =>
    cases scts with
    | nil =>
      have empty := (List.append_eq_nil_iff.1 same).1
      cases entries_eq_nil_iff.1 empty
    | cons other scts =>
      rw [entries_cons, entries_cons, List.append_assoc] at same
      obtain ⟨sctFits, othersFit⟩ := List.forall_mem_cons.1 beforeFits
      obtain ⟨otherFits, laterFit⟩ := List.forall_mem_cons.1 fits
      obtain ⟨sameWritten, sameRest⟩ := vector_append_inj sctFits.whole otherFits.whole same
      have sameSct : sct = other :=
        (written_append_inj sctFits.toFits otherFits.toFits (congrArg (· ++ []) sameWritten)).1
      obtain ⟨later, split, rfl⟩ := ih othersFit laterFit sameRest
      exact ⟨later, by rw [sameSct, split, List.cons_append], rfl⟩

/-- Octets that are no entry of a list: a timestamp that is cut short or goes on, or one of another
version. -/
inductive BadEntry : Bytes → Prop
  | cutShort {sct : Sct} {count : Nat} (fits : sct.Fits) (short : count < sct.written.length) :
      BadEntry (sct.written.take count)
  | trailing {sct : Sct} {extra : Bytes} (fits : sct.Fits) (more : extra ≠ []) :
      BadEntry (sct.written ++ extra)
  | version {number : UInt8} {rest : Bytes} (other : number ≠ 0) : BadEntry (number :: rest)

inductive BadList : Bytes → Prop
  | cutShort {scts : List Sct} {count : Nat} (fits : ListFits scts)
      (short : count < (listWritten scts).length) : BadList ((listWritten scts).take count)
  | trailing {scts : List Sct} {extra : Bytes} (fits : ListFits scts) (more : extra ≠ []) :
      BadList (listWritten scts ++ extra)
  | lastCutShort {before : List Sct} {sct : Sct} {count : Nat}
      (beforeFits : ∀ sct ∈ before, sct.FitsEntry) (fits : sct.FitsEntry) (started : 0 < count)
      (short : count < (vector sct.written).length)
      (whole : (entries before ++ (vector sct.written).take count).length < 65536) :
      BadList (vector (entries before ++ (vector sct.written).take count))
  | entry {before : List Sct} {entry after : Bytes} (beforeFits : ∀ sct ∈ before, sct.FitsEntry)
      (bad : BadEntry entry) (whole : (entries before ++ vector entry ++ after).length < 65536) :
      BadList (vector (entries before ++ vector entry ++ after))

theorem drop_ne_nil {bytes : Bytes} {count : Nat} (short : count < bytes.length) :
    bytes.drop count ≠ [] := by
  intro all
  have := List.drop_eq_nil_iff.1 all
  omega

theorem BadEntry.ne_written {entry : Bytes} {sct : Sct} (bad : BadEntry entry) (fits : sct.Fits) :
    entry ≠ sct.written := by
  intro same
  cases bad with
  | @cutShort own count ownFits short =>
    have whole : sct.written ++ own.written.drop count = own.written ++ [] := by
      rw [← same, List.take_append_drop, List.append_nil]
    exact drop_ne_nil short (written_append_inj fits ownFits whole).2
  | @trailing own extra ownFits more =>
    have whole : own.written ++ extra = sct.written ++ [] := by rw [same, List.append_nil]
    exact more (written_append_inj ownFits fits whole).2
  | version other =>
    rw [← List.append_nil sct.written, written_append, List.cons.injEq] at same
    exact other same.1

theorem BadList.ne_listWritten {content : Bytes} {scts : List Sct} (bad : BadList content)
    (fits : ListFits scts) : content ≠ listWritten scts := by
  intro same
  cases bad with
  | @cutShort own count ownFits short =>
    have whole : listWritten scts ++ (listWritten own).drop count = listWritten own ++ [] := by
      rw [← same, List.take_append_drop, List.append_nil]
    exact drop_ne_nil short (vector_append_inj fits.whole ownFits.whole whole).2
  | @trailing own extra ownFits more =>
    have whole : listWritten own ++ extra = listWritten scts ++ [] := by rw [same, List.append_nil]
    exact more (vector_append_inj ownFits.whole fits.whole whole).2
  | @lastCutShort before own count beforeFits ownFits started short whole =>
    have content := vector_inj whole fits.whole same
    obtain ⟨later, rfl, rest⟩ := entries_append_inj beforeFits fits.each content
    cases later with
    | nil =>
      rcases List.take_eq_nil_iff.1 rest with none | none
      · omega
      · exact vector_ne_nil _ none
    | cons sct later =>
      rw [entries_cons] at rest
      have continued : vector sct.written ++ (entries later ++ (vector own.written).drop count) =
          vector own.written ++ [] := by
        rw [← List.append_assoc, ← rest, List.take_append_drop, List.append_nil]
      have sctFits := fits.each sct (by simp)
      have nothing := (vector_append_inj sctFits.whole ownFits.whole continued).2
      exact drop_ne_nil short (List.append_eq_nil_iff.1 nothing).2
  | @entry before entry after beforeFits bad whole =>
    have content := vector_inj whole fits.whole same
    rw [List.append_assoc] at content
    obtain ⟨later, rfl, rest⟩ := entries_append_inj beforeFits fits.each content
    cases later with
    | nil => exact vector_ne_nil _ (List.append_eq_nil_iff.1 rest).1
    | cons sct later =>
      rw [entries_cons] at rest
      have sctFits := fits.each sct (by simp)
      have entryFits : entry.length < 65536 := by
        rw [List.length_append, List.length_append, length_vector] at whole
        omega
      exact bad.ne_written sctFits.toFits (vector_append_inj entryFits sctFits.whole rest).1

def octets (content : Bytes) : Bytes := Der.Element.encode ⟨Der.octetStringTag, content⟩

theorem octets_inj {first second : Bytes} (same : octets first = octets second) : first = second :=
  (Der.Element.mk.inj (Der.Element.encode_inj same)).2

theorem octets_read_iff {value content : Bytes} :
    (Der.onlyElement? value).bind (·.contentOf? Der.octetStringTag) = some content ↔
      content.length ≤ Der.maxLength ∧ value = octets content := by
  simp only [Option.bind_eq_some_iff, Der.onlyElement?_eq_some_iff, Der.Element.contentOf?,
    Option.ite_none_right_eq_some, Option.some.injEq]
  constructor
  · rintro ⟨element, ⟨readable, rfl⟩, tag, rfl⟩
    exact ⟨readable.length, by rw [octets, ← tag]⟩
  · rintro ⟨short, rfl⟩
    have whole : Der.isTag Der.octetStringTag = true := by decide
    exact ⟨⟨Der.octetStringTag, content⟩, ⟨⟨whole, short⟩, rfl⟩, rfl, rfl⟩

theorem ListFits.length_le {scts : List Sct} (fits : ListFits scts) :
    (listWritten scts).length ≤ Der.maxLength := by
  have whole := fits.whole
  rw [listWritten, length_vector, Der.maxLength]
  omega

theorem embedded_eq_ok_iff {leaf : Certificate} {value : Bytes} {scts : List Sct}
    (given : leaf.extension? listOid = some value) :
    embedded leaf = .ok scts ↔ ListFits scts ∧ value = octets (listWritten scts) := by
  have read : embedded leaf = .ok scts ↔ ∃ content,
      (Der.onlyElement? value).bind (·.contentOf? Der.octetStringTag) = some content ∧
        ofList content = .ok scts := by
    simp only [embedded, given]
    split
    · next missing => simp [missing]
    · next content found => simp [found]
  simp only [read, octets_read_iff, ofList_eq_ok_iff]
  constructor
  · rintro ⟨_, ⟨_, rfl⟩, fits, rfl⟩
    exact ⟨fits, rfl⟩
  · rintro ⟨fits, rfl⟩
    exact ⟨_, ⟨fits.length_le, rfl⟩, fits, rfl⟩

structure ReadsExactly (leaf : Certificate) (value : Bytes) : Prop where
  accepted : ∀ scts, embedded leaf = .ok scts ↔ ListFits scts ∧ value = octets (listWritten scts)
  lossless : ∀ other otherValue scts, other.extension? listOid = some otherValue →
    embedded leaf = .ok scts → embedded other = .ok scts → value = otherValue
  refused : ∀ content, value = octets content → BadList content →
    ∃ defect, embedded leaf = .error defect

def sample : Sct := ⟨List.replicate 32 0x5A, 1700000000000, [0x01], 4, 3, [0x30, 0x00]⟩

theorem sample_fitsEntry : sample.FitsEntry :=
  ⟨⟨by decide, by decide, by decide⟩, by decide⟩

def sampleValue : Bytes := octets (listWritten [sample, { sample with timestamp := 0 }])

def sampleLeaf : Certificate :=
  { Certificate.unnamed with
    tbs := { Certificate.unnamed.tbs with extensions := some [⟨listOid, false, sampleValue⟩] } }

/-- Exactly the written forms of lists are read, each as the list that it is the form of; what is cut
short, goes on, or holds another version is refused. -/
theorem embedded_reads_exactly {leaf : Certificate} {value : Bytes}
    (given : leaf.extension? listOid = some value) : ReadsExactly leaf value where
  accepted := fun _ => embedded_eq_ok_iff given
  lossless := by
    intro other otherValue scts otherGiven read otherRead
    rw [((embedded_eq_ok_iff given).1 read).2, ((embedded_eq_ok_iff otherGiven).1 otherRead).2]
  refused := by
    intro content held bad
    cases outcome : embedded leaf with
    | error defect => exact ⟨defect, rfl⟩
    | ok scts =>
      obtain ⟨fits, same⟩ := (embedded_eq_ok_iff given).1 outcome
      exact absurd (octets_inj (held.symm.trans same)) (bad.ne_listWritten fits)

theorem sampleLeaf_reads_exactly :
    sampleLeaf.extension? listOid = some sampleValue ∧ ReadsExactly sampleLeaf sampleValue := by
  have given : sampleLeaf.extension? listOid = some sampleValue := by
    simp [sampleLeaf, Certificate.extension?]
  exact ⟨given, embedded_reads_exactly given⟩

/-! What a log signs. -/

/-- Two logged messages of a fixed layout: the octets that the lengths leave open are told apart by
the bound on the extensions, also where the length of the certificate does not fit. -/
theorem signedBytes_tail_inj {firstTbs secondTbs firstExtensions secondExtensions : Bytes}
    (firstBound : firstExtensions.length < 65536) (secondBound : secondExtensions.length < 65536)
    (lengths : Bytes.ofNat 3 firstTbs.length = Bytes.ofNat 3 secondTbs.length)
    (same : firstTbs ++ vector firstExtensions = secondTbs ++ vector secondExtensions) :
    firstTbs = secondTbs ∧ firstExtensions = secondExtensions := by
  have wrapped : firstTbs.length % 16777216 = secondTbs.length % 16777216 := by
    have values := congrArg Bytes.toNat lengths
    rwa [Bytes.toNat_ofNat, Bytes.toNat_ofNat] at values
  have total := congrArg List.length same
  simp only [List.length_append, length_vector] at total
  have equal : firstTbs.length = secondTbs.length := by omega
  obtain ⟨tbs, extensions⟩ := List.append_inj same equal
  exact ⟨tbs, vector_inj firstBound secondBound extensions⟩

theorem signedBytes_eq (sct : Sct) (keyHash tbs : Bytes) :
    sct.signedBytes keyHash tbs = [0, 0] ++ (Bytes.ofNat 8 sct.timestamp.toNat ++ ([0, 1] ++
      (keyHash ++ (Bytes.ofNat 3 tbs.length ++ (tbs ++ vector sct.extensions))))) := by
  simp [signedBytes, vector]

/-- The octets that a log signs are the same just if all that they are made of is the same, however
long the certificates are. -/
theorem signedBytes_binds {firstBytes secondBytes : Bytes} {first second : Sct}
    (firstRead : ofBytes firstBytes = .ok first) (secondRead : ofBytes secondBytes = .ok second)
    {firstHash secondHash : Bytes} (firstLength : firstHash.length = 32)
    (secondLength : secondHash.length = 32) (firstTbs secondTbs : Bytes) :
    first.signedBytes firstHash firstTbs = second.signedBytes secondHash secondTbs ↔
      first.timestamp = second.timestamp ∧ firstHash = secondHash ∧ firstTbs = secondTbs ∧
        first.extensions = second.extensions := by
  constructor
  · intro same
    rw [signedBytes_eq, signedBytes_eq] at same
    obtain ⟨time, same⟩ := List.append_inj (List.append_cancel_left same) (by simp)
    obtain ⟨hash, same⟩ := List.append_inj (List.append_cancel_left same)
      (firstLength.trans secondLength.symm)
    obtain ⟨lengths, same⟩ := List.append_inj same (by simp)
    obtain ⟨tbs, extensions⟩ := signedBytes_tail_inj (ofBytes_eq_ok_iff.1 firstRead).1.extensions
      (ofBytes_eq_ok_iff.1 secondRead).1.extensions lengths same
    exact ⟨timestamp_inj time, hash, tbs, extensions⟩
  · rintro ⟨time, rfl, rfl, extensions⟩
    rw [signedBytes_eq, signedBytes_eq, time, extensions]

theorem signedBytes_sample_ne : ofBytes sample.written = .ok sample ∧
    sample.signedBytes (List.replicate 32 0) [] ≠
      sample.signedBytes (List.replicate 32 0) (List.replicate 16777216 0) := by
  have read : ofBytes sample.written = .ok sample :=
    ofBytes_eq_ok_iff.2 ⟨sample_fitsEntry.toFits, rfl⟩
  refine ⟨read, fun same => ?_⟩
  have equal := (signedBytes_binds read read List.length_replicate List.length_replicate _ _).1 same
  have lengths := congrArg List.length equal.2.2.1
  rw [List.length_replicate, List.length_nil] at lengths
  omega

end EnclaveProvenance.Sct
