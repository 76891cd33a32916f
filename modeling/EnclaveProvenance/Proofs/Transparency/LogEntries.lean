import EnclaveProvenance.Proofs.Checks
import EnclaveProvenance.Transparency.LogEntry

/-!
What it takes for a log entry to verify, and which entry of a bundle is relied on.
-/

namespace EnclaveProvenance

open Checks

theorem decodeField_eq_ok_iff {field text : String} {bytes : Bytes} :
    decodeField field text = .ok bytes ↔ Base64.decode text = some bytes := by
  unfold decodeField
  cases Base64.decode text <;> simp

namespace LogEntry

theorem decode_eq_ok_iff {field text : String} {bytes : Bytes} :
    decode field text = .ok bytes ↔ Base64.decode text = some bytes := by
  rw [decode, mapError_eq_ok_iff, decodeField_eq_ok_iff]

theorem verify_eq_ok_iff {entry : LogEntry} {root : TrustedRoot} {payload : Bytes}
    {signatures : List Bytes} {verified : VerifiedEntry} :
    entry.verify root payload signatures = .ok verified ↔
      integer "logIndex" entry.logIndex = .ok verified.logIndex ∧
      integer "integratedTime" entry.integratedTime = .ok verified.integratedTime ∧
      ∃ logId body log promise promised, Base64.decode entry.logId = some logId ∧
        Base64.decode entry.body = some body ∧ root.entryLog? logId = some log ∧
        log.validity.contains verified.integratedTime = true ∧ entry.promise = some promise ∧
        Base64.decode promise = some promised ∧
        log.key.verify .sha256 (Bytes.ofText (signedText (Base64.encode body)
          verified.integratedTime logId verified.logIndex)) promised .der = true ∧
        checkBody entry.kind body payload signatures = .ok () := by
  constructor
  · intro accepted
    simp only [verify, bind_eq_ok_iff, decode_eq_ok_iff] at accepted
    obtain ⟨index, indexRead, time, timeRead, logId, logIdRead, body, bodyRead, accepted⟩ := accepted
    split at accepted
    · next log known =>
      rw [refuse_eq_ok_iff, Bool.not_eq_false] at accepted
      obtain ⟨inForce, accepted⟩ := accepted
      split at accepted
      · next promise given =>
        simp only [bind_eq_ok_iff, decode_eq_ok_iff] at accepted
        obtain ⟨promised, promiseRead, accepted⟩ := accepted
        rw [refuse_eq_ok_iff, Bool.not_eq_false, bind_eq_ok_iff] at accepted
        obtain ⟨sealed, _, described, result⟩ := accepted
        cases result
        exact ⟨indexRead, timeRead, logId, body, log, promise, promised, logIdRead, bodyRead, known,
          inForce, given, promiseRead, sealed, described⟩
      · cases accepted
    · cases accepted
  · rintro ⟨indexRead, timeRead, logId, body, log, promise, promised, logIdRead, bodyRead, known,
      inForce, given, promiseRead, sealed, described⟩
    simp only [verify, bind_eq_ok_iff, decode_eq_ok_iff]
    refine ⟨_, indexRead, _, timeRead, logId, logIdRead, body, bodyRead, ?_⟩
    simp only [known, given]
    rw [refuse_eq_ok_iff, bind_eq_ok_iff]
    refine ⟨by simp [inForce], promised, decode_eq_ok_iff.2 promiseRead, ?_⟩
    rw [refuse_eq_ok_iff, bind_eq_ok_iff]
    exact ⟨by simp [sealed], (), described, rfl⟩

def Verifies (root : TrustedRoot) (payload : Bytes) (signatures : List Bytes) (entry : LogEntry) :
    Prop :=
  ∃ verified, entry.verify root payload signatures = .ok verified

/-- An entry is relied on: it is the first that verifies, and it does so as `verified`. -/
structure Relied (entries : List LogEntry) (root : TrustedRoot) (payload : Bytes)
    (signatures : List Bytes) (entry : LogEntry) (verified : VerifiedEntry) : Prop where
  first : FirstOf (Verifies root payload signatures) entries entry
  verifies : entry.verify root payload signatures = .ok verified

theorem findSome?_verify_eq_some_iff {entries : List LogEntry} {root : TrustedRoot}
    {payload : Bytes} {signatures : List Bytes} {verified : VerifiedEntry} :
    (entries.findSome? fun entry => (entry.verify root payload signatures).toOption) =
        some verified ↔
      ∃ entry, Relied entries root payload signatures entry verified := by
  induction entries with
  | nil =>
    constructor
    · intro impossible
      cases impossible
    · rintro ⟨entry, relied⟩
      exact absurd relied.first not_firstOf_nil
  | cons entry rest ih =>
    cases outcome : entry.verify root payload signatures with
    | ok own =>
      rw [List.findSome?_cons, outcome]
      constructor
      · intro found
        cases found
        exact ⟨entry, .head ⟨verified, outcome⟩, outcome⟩
      · rintro ⟨other, first, verifies⟩
        rw [firstOf_cons_of_holds ⟨own, outcome⟩] at first
        rw [first, outcome] at verifies
        cases verifies
        rfl
    | error fault =>
      have passed : ¬entry.Verifies root payload signatures := by simp [Verifies, outcome]
      rw [List.findSome?_cons, outcome]
      refine ih.trans (exists_congr fun other => ?_)
      constructor
      · rintro ⟨first, verifies⟩
        exact ⟨(firstOf_cons_iff passed).2 first, verifies⟩
      · rintro ⟨first, verifies⟩
        exact ⟨(firstOf_cons_iff passed).1 first, verifies⟩

theorem verifyAny_eq_ok_iff {entries : List LogEntry} {root : TrustedRoot} {payload : Bytes}
    {signatures : List Bytes} {verified : VerifiedEntry} :
    verifyAny entries root payload signatures = .ok verified ↔
      ∃ entry, Relied entries root payload signatures entry verified := by
  rw [← findSome?_verify_eq_some_iff]
  cases entries with
  | nil => simp [verifyAny]
  | cons entry rest =>
    rw [verifyAny, List.findSome?_cons]
    cases entry.verify root payload signatures with
    | ok own => simp [Except.toOption]
    | error fault =>
      simp only [Except.toOption]
      split
      · next found => simp [found]
      · next missed => simp [missed]

end LogEntry

end EnclaveProvenance
