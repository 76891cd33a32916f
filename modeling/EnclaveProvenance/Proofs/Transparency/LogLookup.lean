import EnclaveProvenance.Proofs.Transparency.LoggedSignature
import EnclaveProvenance.Transparency.Sct

/-!
Which log of a root decides about an entry or a timestamp: the first one that has its identifier. The
period of that log alone counts, even if a later log of the identifier is in force at the time.
-/

namespace EnclaveProvenance

open Checks

variable {ε α : Type} {logs before after : List TransparencyLog} {log added : TransparencyLog}
  {logId : Bytes} {time : Int}

theorem find?_logId_eq_some_iff :
    logs.find? (·.logId == logId) = some log ↔ FirstOf (·.logId = logId) logs log := by
  simp only [find?_eq_some_iff_firstOf, beq_iff_eq]

theorem find?_logId_insert :
    (before ++ added :: after).find? (·.logId == logId) =
      if added.logId = logId ∧ ∀ log ∈ before, log.logId ≠ logId then some added
      else (before ++ after).find? (·.logId == logId) := by
  rw [List.find?_append, List.find?_append, List.find?_cons]
  by_cases earlier : ∀ log ∈ before, log.logId ≠ logId
  · have none : before.find? (·.logId == logId) = none := by
      rw [List.find?_eq_none]
      simpa using earlier
    rw [none, Option.none_or, Option.none_or]
    by_cases same : added.logId = logId
    · rw [if_pos ⟨same, earlier⟩, beq_iff_eq.2 same]
    · rw [if_neg fun first => same first.1, beq_eq_false_iff_ne.2 same]
  · rw [if_neg fun first => earlier first.2]
    push Not at earlier
    obtain ⟨first, found⟩ := exists_firstOf_iff.2 earlier
    rw [find?_logId_eq_some_iff.2 found, Option.some_or, Option.some_or]

def InForce (logs : List TransparencyLog) (logId : Bytes) (time : Int) (log : TransparencyLog) :
    Prop :=
  log ∈ logs ∧ log.logId = logId ∧ log.validity.contains time = true

/-- A check against the logs of a root is decided by the first log that has an identifier. It fails
as one outside the log's period just if that first log is not in force, so what a log in force would
decide is decided by one just if the first log is in force. A further log changes nothing, unless it
has the identifier and stands before all others that have it: then it decides, and what was accepted
stays so just if that log alone accepts it. -/
structure DecidedByFirst (check : List TransparencyLog → Except ε α) (logId : Bytes) (time : Int)
    (outside : ε) : Prop where
  alone : ∀ logs log, FirstOf (·.logId = logId) logs log → check logs = check [log]
  unknown : ∀ logs, (∀ log ∈ logs, log.logId ≠ logId) → check logs = check []
  outside_iff : ∀ logs, check logs = .error outside ↔
    ∃ log, FirstOf (·.logId = logId) logs log ∧ log.validity.contains time = false
  usable_iff : ∀ logs, (∃ log, InForce logs logId time log) →
    ((check logs ≠ .error outside ∧ ∃ log, InForce logs logId time log ∧ check logs = check [log]) ↔
      ∃ log, FirstOf (·.logId = logId) logs log ∧ log.validity.contains time = true)
  added : ∀ before added after, check (before ++ added :: after) =
    if added.logId = logId ∧ ∀ log ∈ before, log.logId ≠ logId then check [added]
    else check (before ++ after)
  kept_iff : ∀ before added after value, check (before ++ after) = .ok value →
    (check (before ++ added :: after) = .ok value ↔
      (added.logId = logId ∧ (∀ log ∈ before, log.logId ≠ logId) → check [added] = .ok value))

theorem decidedByFirst_of_find? {check : List TransparencyLog → Except ε α} {outside : ε}
    (looks : ∀ logs, check logs = check (logs.find? (·.logId == logId)).toList)
    (unknown : check [] ≠ .error outside)
    (refuses : ∀ log, log.logId = logId →
      (check [log] = .error outside ↔ log.validity.contains time = false)) :
    DecidedByFirst check logId time outside := by
  have alone (logs : List TransparencyLog) (log : TransparencyLog)
      (first : FirstOf (·.logId = logId) logs log) : check logs = check [log] := by
    rw [looks logs, find?_logId_eq_some_iff.2 first, Option.toList_some]
  have absent (logs : List TransparencyLog) (none : ∀ log ∈ logs, log.logId ≠ logId) :
      check logs = check [] := by
    have missed : logs.find? (·.logId == logId) = Option.none := by
      rw [List.find?_eq_none]
      simpa using none
    rw [looks logs, missed, Option.toList_none]
  have outsideIff (logs : List TransparencyLog) : check logs = .error outside ↔
      ∃ log, FirstOf (·.logId = logId) logs log ∧ log.validity.contains time = false := by
    constructor
    · intro failed
      by_cases listed : ∃ log ∈ logs, log.logId = logId
      · obtain ⟨log, first⟩ := exists_firstOf_iff.2 listed
        rw [alone logs log first] at failed
        exact ⟨log, first, (refuses log first.found_holds).1 failed⟩
      · push Not at listed
        rw [absent logs listed] at failed
        exact absurd failed unknown
    · rintro ⟨log, first, ended⟩
      rw [alone logs log first]
      exact (refuses log first.found_holds).2 ended
  have insert (before : List TransparencyLog) (added : TransparencyLog)
      (after : List TransparencyLog) : check (before ++ added :: after) =
        if added.logId = logId ∧ ∀ log ∈ before, log.logId ≠ logId then check [added]
        else check (before ++ after) := by
    rw [looks, find?_logId_insert]
    split
    · rw [Option.toList_some]
    · rw [← looks]
  refine ⟨alone, absent, outsideIff, ?_, insert, ?_⟩
  · rintro logs ⟨inForce, member, same, _⟩
    constructor
    · rintro ⟨passed, _⟩
      have listed : ∃ log ∈ logs, log.logId = logId := ⟨inForce, member, same⟩
      obtain ⟨log, first⟩ := exists_firstOf_iff.2 listed
      refine ⟨log, first, Bool.of_not_eq_false fun ended => ?_⟩
      exact passed ((outsideIff logs).2 ⟨log, first, ended⟩)
    · rintro ⟨log, first, now⟩
      refine ⟨?_, log, ⟨first.mem, first.found_holds, now⟩, alone logs log first⟩
      rw [alone logs log first, Ne, refuses log first.found_holds, now]
      exact Bool.noConfusion
  · intro before added after value accepted
    rw [insert]
    split
    · next first => exact ⟨fun stays _ => stays, fun stays => stays first⟩
    · next behind => exact ⟨fun _ first => absurd first behind, fun _ => accepted⟩

namespace TrustedRoot

def withEntryLogs (root : TrustedRoot) (logs : List TransparencyLog) : TrustedRoot :=
  { root with entryLogs := logs }

def withCertificateLogs (root : TrustedRoot) (logs : List TransparencyLog) : TrustedRoot :=
  { root with certificateLogs := logs }

end TrustedRoot

theorem find?_toList_find? :
    (logs.find? (·.logId == logId)).toList.find? (·.logId == logId) =
      logs.find? (·.logId == logId) := by
  cases found : logs.find? (·.logId == logId) with
  | none => rfl
  | some log =>
    have own := List.find?_some found
    simp [own]

namespace LogEntry

variable {entry : LogEntry} {root other : TrustedRoot} {payload : Bytes} {signatures : List Bytes}
  {index : Int}

structure Dated (entry : LogEntry) (index time : Int) (logId : Bytes) : Prop where
  index_read : integer "logIndex" entry.logIndex = .ok index
  time_read : integer "integratedTime" entry.integratedTime = .ok time
  logId_read : Base64.decode entry.logId = some logId
  body_read : ∃ body, Base64.decode entry.body = some body

theorem verify_congr (same : ∀ index time logId, entry.Dated index time logId →
    root.entryLog? logId = other.entryLog? logId) :
    entry.verify root payload signatures = entry.verify other payload signatures := by
  unfold verify
  cases indexRead : integer "logIndex" entry.logIndex with
  | error fault => rfl
  | ok index =>
    cases timeRead : integer "integratedTime" entry.integratedTime with
    | error fault => rfl
    | ok time =>
      cases logIdRead : decode "logId" entry.logId with
      | error fault => rfl
      | ok logId =>
        cases bodyRead : decode "canonicalizedBody" entry.body with
        | error fault => rfl
        | ok body =>
          have dated : entry.Dated index time logId := ⟨indexRead, timeRead,
            decode_eq_ok_iff.1 logIdRead, body, decode_eq_ok_iff.1 bodyRead⟩
          simp only [bind, Except.bind, same index time logId dated]

theorem decode_ne_outside (field text : String) (index time : Int) :
    FailsWithin (· ≠ .untrustedSigner (.outsideLogValidity index time)) (decode field text) :=
  failsWithin_mapError nofun

theorem checkBody_ne_outside (declared : String) (body payload : Bytes) (signatures : List Bytes)
    (index time : Int) :
    FailsWithin (· ≠ .untrustedSigner (.outsideLogValidity index time))
      (checkBody declared body payload signatures) := by
  unfold checkBody
  split
  · exact failsWithin_error nofun
  · exact failsWithin_mapError nofun

theorem verify_eq_outside_iff (dated : entry.Dated index time logId)
    (known : root.entryLog? logId = some log) :
    entry.verify root payload signatures = .error (.untrustedSigner (.outsideLogValidity index time)) ↔
      log.validity.contains time = false := by
  obtain ⟨body, bodyRead⟩ := dated.body_read
  have logIdRead : decode "logId" entry.logId = .ok logId := decode_eq_ok_iff.2 dated.logId_read
  have bodyDecoded : decode "canonicalizedBody" entry.body = .ok body := decode_eq_ok_iff.2 bodyRead
  unfold verify
  rw [dated.index_read, ok_bind, dated.time_read, ok_bind, logIdRead, ok_bind, bodyDecoded, ok_bind,
    known]
  dsimp only
  by_cases ended : log.validity.contains time = false
  · rw [if_pos ended]
    exact ⟨fun _ => ended, fun _ => rfl⟩
  · rw [if_neg ended]
    refine ⟨fun failed => absurd failed (FailsWithin.ne_error ?_), fun past => absurd past ended⟩
    split
    · refine (decode_ne_outside _ _ index time).bind fun promised => ?_
      refine failsWithin_refuse nofun ?_
      exact (checkBody_ne_outside _ _ _ _ index time).bind fun _ => failsWithin_ok
    · exact failsWithin_error nofun

theorem decidedByFirst_verify (dated : entry.Dated index time logId) (root : TrustedRoot)
    (payload : Bytes) (signatures : List Bytes) :
    DecidedByFirst (fun logs => entry.verify (root.withEntryLogs logs) payload signatures) logId time
      (.untrustedSigner (.outsideLogValidity index time)) := by
  apply decidedByFirst_of_find?
  · intro logs
    apply verify_congr
    intro _ _ own read
    rw [Option.some.inj (read.logId_read.symm.trans dated.logId_read)]
    exact find?_toList_find?.symm
  · intro failed
    obtain ⟨body, bodyRead⟩ := dated.body_read
    have logIdRead : decode "logId" entry.logId = .ok logId := decode_eq_ok_iff.2 dated.logId_read
    have bodyDecoded : decode "canonicalizedBody" entry.body = .ok body :=
      decode_eq_ok_iff.2 bodyRead
    unfold verify at failed
    rw [dated.index_read, ok_bind, dated.time_read, ok_bind, logIdRead, ok_bind, bodyDecoded, ok_bind]
      at failed
    cases failed
  · intro log same
    have known : (root.withEntryLogs [log]).entryLog? logId = some log := by
      simp [TrustedRoot.entryLog?, TrustedRoot.withEntryLogs, same]
    exact verify_eq_outside_iff dated known

end LogEntry

namespace Sct

theorem verify_congr {sct : Sct} {keyHash tbs : Bytes} {root other : TrustedRoot}
    (same : root.certificateLog? sct.logId = other.certificateLog? sct.logId) :
    sct.verify keyHash tbs root = sct.verify keyHash tbs other := by
  unfold verify
  rw [same]

theorem verify_eq_outside_iff {sct : Sct} {keyHash tbs : Bytes} {root : TrustedRoot}
    (known : root.certificateLog? sct.logId = some log) :
    sct.verify keyHash tbs root = .error (.outsideValidity sct.seconds) ↔
      log.validity.contains sct.seconds = false := by
  unfold verify
  rw [known]
  dsimp only
  by_cases ended : log.validity.contains sct.seconds = false
  · rw [if_pos ended]
    exact ⟨fun _ => ended, fun _ => rfl⟩
  · rw [if_neg ended]
    refine ⟨fun failed => absurd failed (FailsWithin.ne_error ?_), fun past => absurd past ended⟩
    split
    · exact failsWithin_refuse nofun failsWithin_ok
    · exact failsWithin_error nofun

theorem decidedByFirst_verify (sct : Sct) (keyHash tbs : Bytes) (root : TrustedRoot) :
    DecidedByFirst (fun logs => sct.verify keyHash tbs (root.withCertificateLogs logs)) sct.logId
      sct.seconds (.outsideValidity sct.seconds) := by
  apply decidedByFirst_of_find?
  · intro logs
    exact verify_congr find?_toList_find?.symm
  · intro failed
    cases failed
  · intro log same
    have known : (root.withCertificateLogs [log]).certificateLog? sct.logId = some log := by
      simp [TrustedRoot.certificateLog?, TrustedRoot.withCertificateLogs, same]
    exact verify_eq_outside_iff known

end Sct

namespace TrustedRoot

/-- The first log of an identifier decides about every entry and every timestamp of it, whichever
later log of the identifier is in force; entries that cannot be read that far depend on no log. -/
theorem first_log_decides (root : TrustedRoot) :
    (∀ (entry : LogEntry) index time logId payload signatures, entry.Dated index time logId →
      DecidedByFirst (fun logs => entry.verify (root.withEntryLogs logs) payload signatures) logId
        time (.untrustedSigner (.outsideLogValidity index time))) ∧
    (∀ (entry : LogEntry) other payload signatures,
      (¬∃ index time logId, entry.Dated index time logId) →
        entry.verify root payload signatures = entry.verify other payload signatures) ∧
    ∀ (sct : Sct) keyHash tbs,
      DecidedByFirst (fun logs => sct.verify keyHash tbs (root.withCertificateLogs logs)) sct.logId
        sct.seconds (.outsideValidity sct.seconds) := by
  refine ⟨?_, ?_, ?_⟩
  · intro entry index time logId payload signatures dated
    exact LogEntry.decidedByFirst_verify dated root payload signatures
  · intro entry other payload signatures undated
    apply LogEntry.verify_congr
    intro index time logId dated
    exact absurd ⟨index, time, logId, dated⟩ undated
  · intro sct keyHash tbs
    exact Sct.decidedByFirst_verify sct keyHash tbs root

open TransparencyVerifier (Split.log Split.logId Split.entry Split.payload Split.foreign
  Split.trusted Split.verifier)

def formerLog : TransparencyLog :=
  { Split.log with validity := ⟨1577836800, some 1609459200⟩ }

/-- An entry is refused for the period of a log that is over, although the same log is listed again
with a period that has the entry's time; with the second listing alone the entry verifies. -/
theorem entry_of_renewed_log :
    InForce [formerLog, Split.log] Split.logId 1700000000 Split.log ∧
    Split.entry.verify (Split.verifier.root.withEntryLogs [Split.log]) Split.payload
      [Split.foreign, Split.trusted] = .ok ⟨7, 1700000000⟩ ∧
    Split.entry.verify (Split.verifier.root.withEntryLogs [formerLog, Split.log]) Split.payload
      [Split.foreign, Split.trusted] =
        .error (.untrustedSigner (.outsideLogValidity 7 1700000000)) := by
  have dated : Split.entry.Dated 7 1700000000 Split.logId :=
    ⟨rfl, rfl, Base64.decode_encode _, _, Base64.decode_encode _⟩
  have known : (Split.verifier.root.withEntryLogs [formerLog, Split.log]).entryLog? Split.logId =
      some formerLog := by decide
  refine ⟨⟨by simp, rfl, by decide⟩, TransparencyVerifier.Split.entry_verifies, ?_⟩
  exact (LogEntry.verify_eq_outside_iff dated known).2 (by decide)

end TrustedRoot

end EnclaveProvenance
