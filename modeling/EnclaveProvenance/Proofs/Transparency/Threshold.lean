import EnclaveProvenance.Proofs.Transparency.Precertificate
import EnclaveProvenance.Proofs.Transparency.Timestamps
import Mathlib.Data.Finset.Card

/-!
How many logs vouch for a certificate: those of the timestamps that verify, each once, whatever the
order and number of the timestamps and whatever else stands among them.
-/

namespace EnclaveProvenance

open Checks

theorem ValidityPeriod.contains_iff {period : ValidityPeriod} {instant : Int} :
    period.contains instant = true ↔
      period.start ≤ instant ∧ ∀ stop, period.stop = some stop → instant < stop := by
  unfold contains
  cases period.stop with
  | none => simp
  | some stop => simp

theorem TrustedRoot.certificateLog?_eq_some_iff {root : TrustedRoot} {logId : Bytes}
    {log : TransparencyLog} :
    root.certificateLog? logId = some log ↔ FirstOf (·.logId = logId) root.certificateLogs log := by
  simp only [certificateLog?, find?_eq_some_iff_firstOf, beq_iff_eq]

namespace Sct

/-- A timestamp verifies: the first log of its identifier is in force in the second of the
timestamp, and its key verifies the ECDSA signature, with the hash that the timestamp names. -/
structure VouchedBy (sct : Sct) (keyHash tbs : Bytes) (root : TrustedRoot) (log : TransparencyLog)
    (hash : HashAlgorithm) : Prop where
  known : FirstOf (·.logId = sct.logId) root.certificateLogs log
  started : log.validity.start ≤ (sct.timestamp.toNat / 1000 : Nat)
  not_stopped : ∀ stop, log.validity.stop = some stop → (sct.timestamp.toNat / 1000 : Nat) < stop
  ecdsa : sct.signatureAlgorithm = 3
  scheme : sct.hashAlgorithm = 4 ∧ hash = .sha256 ∨ sct.hashAlgorithm = 5 ∧ hash = .sha384
  signed : log.key.verify hash (sct.signedBytes keyHash tbs) sct.signature .der = true

theorem hash?_eq_some_iff {sct : Sct} {hash : HashAlgorithm} :
    sct.hash? = some hash ↔ sct.signatureAlgorithm = 3 ∧
      (sct.hashAlgorithm = 4 ∧ hash = .sha256 ∨ sct.hashAlgorithm = 5 ∧ hash = .sha384) := by
  unfold hash?
  by_cases ecdsa : sct.signatureAlgorithm = 3
  · rw [if_pos ecdsa]
    by_cases short : sct.hashAlgorithm = 4
    · simp [ecdsa, short, eq_comm]
    · by_cases long : sct.hashAlgorithm = 5
      · simp [ecdsa, long, eq_comm]
      · simp [ecdsa, short, long]
  · simp [ecdsa]

theorem verify_eq_ok_iff {sct : Sct} {keyHash tbs : Bytes} {root : TrustedRoot} :
    sct.verify keyHash tbs root = .ok () ↔
      ∃ log hash, sct.VouchedBy keyHash tbs root log hash := by
  constructor
  · intro accepted
    unfold verify at accepted
    split at accepted
    · next log found =>
      rw [refuse_eq_ok_iff, Bool.not_eq_false] at accepted
      obtain ⟨inForce, accepted⟩ := accepted
      split at accepted
      · next hash scheme =>
        rw [refuseLast_eq_ok_iff, Bool.not_eq_false] at accepted
        obtain ⟨started, notStopped⟩ := ValidityPeriod.contains_iff.1 inForce
        obtain ⟨ecdsa, named⟩ := hash?_eq_some_iff.1 scheme
        exact ⟨log, hash, TrustedRoot.certificateLog?_eq_some_iff.1 found, started, notStopped,
          ecdsa, named, accepted.1⟩
      · cases accepted
    · cases accepted
  · rintro ⟨log, hash, vouched⟩
    have inForce : log.validity.contains sct.seconds = true :=
      ValidityPeriod.contains_iff.2 ⟨vouched.started, vouched.not_stopped⟩
    unfold verify
    simp only [TrustedRoot.certificateLog?_eq_some_iff.2 vouched.known,
      hash?_eq_some_iff.2 ⟨vouched.ecdsa, vouched.scheme⟩]
    rw [refuse_eq_ok_iff, refuseLast_eq_ok_iff]
    exact ⟨by simp [inForce], by simp [vouched.signed], rfl⟩

def verifiedLogs (scts : List Sct) (keyHash tbs : Bytes) (root : TrustedRoot) : Finset Bytes :=
  ((scts.filter fun sct => (sct.verify keyHash tbs root).toBool).map Sct.logId).toFinset

variable {keyHash tbs : Bytes} {root : TrustedRoot}

theorem mem_verifiedLogs {scts : List Sct} {logId : Bytes} :
    logId ∈ verifiedLogs scts keyHash tbs root ↔
      ∃ sct ∈ scts, sct.verify keyHash tbs root = .ok () ∧ sct.logId = logId := by
  have passed (sct : Sct) : (sct.verify keyHash tbs root).toBool = true ↔
      sct.verify keyHash tbs root = .ok () := by
    cases sct.verify keyHash tbs root <;> simp [Except.toBool]
  simp only [verifiedLogs, List.mem_toFinset, List.mem_map, List.mem_filter, passed, and_assoc]

/-! The tally of one timestamp after the other. -/

theorem Tally.nodup_add {counted : Tally} (distinct : counted.logs.Nodup) (logId : Bytes)
    (result : Except SctDefect Unit) : (counted.add logId result).logs.Nodup := by
  cases result with
  | error defect => exact distinct
  | ok done =>
    by_cases seen : logId ∈ counted.logs
    · simpa [add, seen] using distinct
    · simpa [add, seen] using distinct

theorem Tally.mem_add {counted : Tally} {logId other : Bytes} {result : Except SctDefect Unit} :
    other ∈ (counted.add logId result).logs ↔
      other ∈ counted.logs ∨ result = .ok () ∧ logId = other := by
  cases result with
  | error defect => simp [add]
  | ok done =>
    by_cases seen : logId ∈ counted.logs
    · simp only [add, List.contains_iff_mem, seen, if_true, true_and]
      constructor
      · exact Or.inl
      · rintro (earlier | rfl)
        · exact earlier
        · exact seen
    · simp [add, seen, or_comm, eq_comm]

theorem nodup_foldl_add {scts : List Sct} {start : Tally} (distinct : start.logs.Nodup) :
    (scts.foldl (fun counted sct => counted.add sct.logId (sct.verify keyHash tbs root))
      start).logs.Nodup := by
  induction scts generalizing start with
  | nil => exact distinct
  | cons sct rest ih => exact ih (Tally.nodup_add distinct _ _)

theorem mem_foldl_add {scts : List Sct} {start : Tally} {logId : Bytes} :
    logId ∈ (scts.foldl (fun counted sct => counted.add sct.logId (sct.verify keyHash tbs root))
        start).logs ↔
      logId ∈ start.logs ∨
        ∃ sct ∈ scts, sct.verify keyHash tbs root = .ok () ∧ sct.logId = logId := by
  induction scts generalizing start with
  | nil => simp
  | cons sct rest ih =>
    rw [List.foldl_cons, ih, Tally.mem_add]
    simp only [List.mem_cons, exists_eq_or_imp, or_assoc]

theorem length_tally (scts : List Sct) :
    (tally scts keyHash tbs root).logs.length = (verifiedLogs scts keyHash tbs root).card := by
  have distinct : (tally scts keyHash tbs root).logs.Nodup := nodup_foldl_add List.nodup_nil
  have same : (tally scts keyHash tbs root).logs.toFinset = verifiedLogs scts keyHash tbs root := by
    ext logId
    rw [List.mem_toFinset, mem_verifiedLogs, tally, mem_foldl_add]
    simp
  rw [← List.toFinset_card_of_nodup distinct, same]

variable {leaf issuer : Certificate} {required : Nat}

theorem verifyAll_eq_ok_iff_card : verifyAll leaf issuer root required = .ok () ↔
    required = 0 ∨ ∃ scts, embedded leaf = .ok scts ∧ required ≤
      (verifiedLogs scts (issuerKeyHash issuer) (precertificate leaf.tbs).encode root).card := by
  cases read : embedded leaf with
  | ok scts =>
    rw [verifyAll_eq_ok_iff read, length_tally]
    simp
  | error defect =>
    by_cases free : required = 0
    · simp [verifyAll, free, pure, Except.pure]
    · simp [verifyAll, free, read, Except.mapError, bind, Except.bind]

/-- Changes of a list after which the same logs vouch: another order, a timestamp once more, and one
that does not verify. -/
inductive Rearranged (unverified : Sct → Prop) : List Sct → List Sct → Prop
  | permuted {scts others : List Sct} (order : scts.Perm others) : Rearranged unverified scts others
  | repeated {scts : List Sct} {sct : Sct} (listed : sct ∈ scts) :
      Rearranged unverified scts (sct :: scts)
  | added {scts : List Sct} {sct : Sct} (fails : unverified sct) :
      Rearranged unverified scts (sct :: scts)
  | trans {scts others lasts : List Sct} (first : Rearranged unverified scts others)
      (second : Rearranged unverified others lasts) : Rearranged unverified scts lasts

theorem Rearranged.verifiedLogs_eq {scts others : List Sct}
    (changed : Rearranged (fun sct => sct.verify keyHash tbs root ≠ .ok ()) scts others) :
    verifiedLogs others keyHash tbs root = verifiedLogs scts keyHash tbs root := by
  induction changed with
  | permuted order =>
    ext logId
    simp only [mem_verifiedLogs, order.mem_iff]
  | repeated listed =>
    ext logId
    simp only [mem_verifiedLogs, List.mem_cons, exists_eq_or_imp]
    constructor
    · rintro (own | other)
      · exact ⟨_, listed, own⟩
      · exact other
    · exact Or.inr
  | added fails =>
    ext logId
    simp [mem_verifiedLogs, fails]
  | trans _ _ firstSame secondSame => rw [secondSame, firstSame]

def stamped (leaf : Certificate) (scts : List Sct) : Certificate :=
  { leaf with
    tbs := { leaf.tbs with
      extensions := leaf.tbs.extensions.map fun extensions =>
        (extensions.filter fun extension => extension.oid ≠ listOid) ++
          [⟨listOid, false, octets (listWritten scts)⟩] } }

theorem precertificate_stamped (leaf : Certificate) (scts : List Sct) :
    precertificate (stamped leaf scts).tbs = precertificate leaf.tbs := by
  unfold stamped precertificate
  cases leaf.tbs.extensions with
  | none => rfl
  | some extensions => simp

theorem embedded_stamped {extensions : List Extension} {scts : List Sct}
    (extended : leaf.tbs.extensions = some extensions) (fits : ListFits scts) :
    embedded (stamped leaf scts) = .ok scts := by
  have others : (extensions.filter fun extension => extension.oid ≠ listOid).find?
      (fun extension => extension.oid == listOid) = none := by
    rw [List.find?_eq_none]
    intro extension member
    simpa using (List.mem_filter.1 member).2
  have given : (stamped leaf scts).extension? listOid = some (octets (listWritten scts)) := by
    rw [Certificate.extension?, stamped, extended, Option.map_some, Option.getD_some,
      List.find?_append, others]
    simp
  exact (embedded_eq_ok_iff given).2 ⟨fits, rfl⟩

theorem verifyAll_rearranged {other : Certificate} {scts others : List Sct}
    (read : embedded leaf = .ok scts) (otherRead : embedded other = .ok others)
    (same : (precertificate other.tbs).encode = (precertificate leaf.tbs).encode)
    (changed : Rearranged (fun sct => sct.verify (issuerKeyHash issuer)
      (precertificate leaf.tbs).encode root ≠ .ok ()) scts others) :
    verifyAll other issuer root required = .ok () ↔ verifyAll leaf issuer root required = .ok () := by
  rw [verifyAll_eq_ok_iff read, verifyAll_eq_ok_iff otherRead, length_tally, length_tally, same,
    changed.verifiedLogs_eq]

/-- What decides whether enough logs vouch for a certificate, and what does not. -/
structure CountsLogs (leaf issuer : Certificate) (root : TrustedRoot) : Prop where
  accepted : ∀ required, verifyAll leaf issuer root required = .ok () ↔
    required = 0 ∨ ∃ scts, embedded leaf = .ok scts ∧ required ≤
      (verifiedLogs scts (issuerKeyHash issuer) (precertificate leaf.tbs).encode root).card
  verified : ∀ (sct : Sct) keyHash tbs, sct.verify keyHash tbs root = .ok () ↔
    ∃ log hash, sct.VouchedBy keyHash tbs root log hash
  rearranged : ∀ required other scts others, embedded leaf = .ok scts →
    embedded other = .ok others →
    (precertificate other.tbs).encode = (precertificate leaf.tbs).encode →
    Rearranged (fun sct => sct.verify (issuerKeyHash issuer) (precertificate leaf.tbs).encode root ≠
      .ok ()) scts others →
    (verifyAll other issuer root required = .ok () ↔ verifyAll leaf issuer root required = .ok ())
  embeddable : ∀ extensions scts, leaf.tbs.extensions = some extensions → ListFits scts →
    embedded (stamped leaf scts) = .ok scts ∧
      (precertificate (stamped leaf scts).tbs).encode = (precertificate leaf.tbs).encode
  monotone : ∀ fewer more, fewer ≤ more → verifyAll leaf issuer root more = .ok () →
    verifyAll leaf issuer root fewer = .ok ()

theorem verifyAll_counts_logs (leaf issuer : Certificate) (root : TrustedRoot) :
    CountsLogs leaf issuer root where
  accepted := by
    intro required
    exact verifyAll_eq_ok_iff_card
  verified := by
    intro sct keyHash tbs
    exact verify_eq_ok_iff
  rearranged := by
    intro required other scts others read otherRead same changed
    exact verifyAll_rearranged read otherRead same changed
  embeddable := by
    intro extensions scts extended fits
    exact ⟨embedded_stamped extended fits, by rw [precertificate_stamped]⟩
  monotone := by
    intro fewer more ordered accepted
    rw [verifyAll_eq_ok_iff_card] at accepted ⊢
    rcases accepted with free | ⟨scts, read, enough⟩
    · left
      omega
    · exact .inr ⟨scts, read, Nat.le_trans ordered enough⟩

end Sct

end EnclaveProvenance
