import EnclaveProvenance.Proofs.Certificate.Keys
import EnclaveProvenance.Proofs.Encodings
import EnclaveProvenance.Proofs.Texts
import EnclaveProvenance.Proofs.Transparency.RootFiles

/-!
Which trust anchors a file gives: its authorities with their chains and windows, and of its logs those
with a key that can verify signatures. A log without such a key has no effect at all.
-/

namespace EnclaveProvenance

theorem Checks.mapM_eq_ok_iff_forall₂ {ε α β : Type} {read : α → Except ε β} {members : List α}
    {values : List β} : members.mapM read = .ok values ↔
      List.Forall₂ (fun member value => read member = .ok value) members values := by
  rw [mapM_eq_ok_iff, ← List.forall₂_eq_eq_eq, List.forall₂_map_left_iff, List.forall₂_map_right_iff]

namespace TrustedRoot

open Checks

def Decodable (text : String) : Prop := ∃ bytes, text = Base64.encode bytes

theorem decodeText_eq_ok_iff {field text : String} {bytes : Bytes} :
    decodeText field text = .ok bytes ↔ text = Base64.encode bytes := by
  rw [← Base64.decode_eq_some_iff]
  unfold decodeText
  split
  · next found decoded => simp [decoded]
  · next undecoded => simp [undecoded]

def GivesCertificate (text : String) (certificate : Certificate) : Prop :=
  ∃ der, text = Base64.encode der ∧ Certificate.ofDer der = .ok certificate

theorem certificate_eq_ok_iff {uri text : String} {found : Certificate} :
    certificate uri text = .ok found ↔ GivesCertificate text found := by
  simp only [certificate, bind_eq_ok_iff, decodeText_eq_ok_iff, mapError_eq_ok_iff,
    GivesCertificate]

structure AuthorityOf (given : AuthorityRecord) (anchor : CertificateAuthority) : Prop where
  uri : anchor.uri = given.uri
  chain : List.Forall₂ GivesCertificate given.certificates anchor.chain
  chain_nonempty : anchor.chain ≠ []
  validity : anchor.validity = given.validity

theorem authority_eq_ok_iff {given : AuthorityRecord} {anchor : CertificateAuthority} :
    authority given = .ok anchor ↔ AuthorityOf given anchor := by
  simp only [authority, bind_eq_ok_iff, mapM_eq_ok_iff_forall₂, certificate_eq_ok_iff,
    refuse_eq_ok_iff, pure_eq_ok_iff, List.isEmpty_iff]
  constructor
  · rintro ⟨chain, read, nonempty, rfl⟩
    exact ⟨rfl, read, nonempty, rfl⟩
  · rintro ⟨uri, read, nonempty, validity⟩
    refine ⟨anchor.chain, read, nonempty, ?_⟩
    rw [← uri, ← validity]

def GivesKey (given : LogRecord) (key : PublicKey) : Prop :=
  ∃ bytes, given.key = some (Base64.encode bytes) ∧ KeyInfo.Carries bytes key

def Usable (given : LogRecord) : Prop := ∃ key, GivesKey given key

/-- A log that is passed over: it has no key, or one that can be decoded but is of no use. -/
structure Inert (given : LogRecord) : Prop where
  key_decodable : ∀ text, given.key = some text → Decodable text
  not_usable : ¬Usable given

structure LogOf (given : LogRecord) (log : TransparencyLog) : Prop where
  baseUrl : log.baseUrl = given.baseUrl
  logId : given.logId = Base64.encode log.logId
  key : GivesKey given log.key
  validity : log.validity = given.validity

section usableLog

variable {given : LogRecord}

theorem usableLog_of_absent (absent : given.key = none) : usableLog given = .ok none := by
  rw [usableLog, absent]
  rfl

theorem usableLog_of_undecodable {text : String} (own : given.key = some text)
    (undecodable : ¬Decodable text) : usableLog given = .error (.notBase64 "log key") := by
  have refused : Base64.decode text = none := by
    rw [Option.eq_none_iff_forall_not_mem]
    exact fun bytes decoded => undecodable ⟨bytes, Base64.decode_eq_some_iff.1 decoded⟩
  rw [usableLog, own]
  simp only [decodeText, refused]
  rfl

theorem usableLog_of_decoded {bytes : Bytes} (own : given.key = some (Base64.encode bytes)) :
    usableLog given = match (KeyInfo.ofDer? bytes).map KeyInfo.publicKey with
      | some (.ok key) => (decodeText "log id" given.logId).map fun logId =>
        some ⟨given.baseUrl, logId, key, given.validity⟩
      | _ => .ok none := by
  have decoded : decodeText "log key" (Base64.encode bytes) = .ok bytes :=
    decodeText_eq_ok_iff.2 rfl
  rw [usableLog, own]
  simp only [decoded, ok_bind]
  cases KeyInfo.ofDer? bytes with
  | none => rfl
  | some info =>
    simp only [Option.map_some]
    cases info.publicKey with
    | error defect => rfl
    | ok key => cases decodeText "log id" given.logId <;> rfl

theorem usableLog_of_unsupported {bytes : Bytes} (own : given.key = some (Base64.encode bytes))
    (unsupported : ¬∃ key, KeyInfo.Carries bytes key) : usableLog given = .ok none := by
  rw [usableLog_of_decoded own]
  split
  · next key valid =>
    obtain ⟨info, read, publicKey⟩ := Option.map_eq_some_iff.1 valid
    exact absurd ⟨key, KeyInfo.carries_iff.2 ⟨info, read, publicKey⟩⟩ unsupported
  · rfl

theorem usableLog_of_carries {bytes : Bytes} {key : PublicKey}
    (own : given.key = some (Base64.encode bytes)) (carries : KeyInfo.Carries bytes key) :
    usableLog given = (decodeText "log id" given.logId).map fun logId =>
      some ⟨given.baseUrl, logId, key, given.validity⟩ := by
  obtain ⟨info, read, valid⟩ := KeyInfo.carries_iff.1 carries
  rw [usableLog_of_decoded own, read, Option.map_some, valid]

theorem usableLog_cases (given : LogRecord) : given.key = none ∨
    (∃ text, given.key = some text ∧ ¬Decodable text) ∨
    (∃ bytes, given.key = some (Base64.encode bytes) ∧ ¬∃ key, KeyInfo.Carries bytes key) ∨
    ∃ bytes key, given.key = some (Base64.encode bytes) ∧ KeyInfo.Carries bytes key := by
  cases own : given.key with
  | none => exact .inl rfl
  | some text =>
    refine .inr ?_
    by_cases decodable : Decodable text
    · obtain ⟨bytes, rfl⟩ := decodable
      by_cases supported : ∃ key, KeyInfo.Carries bytes key
      · obtain ⟨key, carries⟩ := supported
        exact .inr (.inr ⟨bytes, key, rfl, carries⟩)
      · exact .inr (.inl ⟨bytes, rfl, supported⟩)
    · exact .inl ⟨text, rfl, decodable⟩

theorem not_usable_of_unsupported {bytes : Bytes} (own : given.key = some (Base64.encode bytes))
    (unsupported : ¬∃ key, KeyInfo.Carries bytes key) : ¬Usable given := by
  rintro ⟨key, other, theirs, carries⟩
  rw [own, Option.some.injEq, Base64.encode_inj] at theirs
  exact unsupported ⟨key, theirs ▸ carries⟩

theorem usableLog_eq_none_iff : usableLog given = .ok none ↔ Inert given := by
  rcases usableLog_cases given with absent | ⟨text, own, undecodable⟩ |
    ⟨bytes, own, unsupported⟩ | ⟨bytes, key, own, carries⟩
  · have inert : Inert given := by
      refine ⟨fun text own => ?_, ?_⟩
      · rw [absent] at own
        cases own
      · rintro ⟨key, bytes, own, _⟩
        rw [absent] at own
        cases own
    exact iff_of_true (usableLog_of_absent absent) inert
  · rw [usableLog_of_undecodable own undecodable]
    exact iff_of_false nofun fun inert => undecodable (inert.key_decodable text own)
  · have inert : Inert given := by
      refine ⟨fun text same => ⟨bytes, ?_⟩, not_usable_of_unsupported own unsupported⟩
      exact Option.some.inj (same.symm.trans own)
    exact iff_of_true (usableLog_of_unsupported own unsupported) inert
  · rw [usableLog_of_carries own carries, map_eq_ok_iff]
    refine iff_of_false ?_ fun inert => inert.not_usable ⟨key, bytes, own, carries⟩
    rintro ⟨logId, _, impossible⟩
    cases impossible

theorem usableLog_eq_some_iff {log : TransparencyLog} :
    usableLog given = .ok (some log) ↔ LogOf given log := by
  constructor
  · intro found
    rcases usableLog_cases given with absent | ⟨text, own, undecodable⟩ |
      ⟨bytes, own, unsupported⟩ | ⟨bytes, key, own, carries⟩
    · rw [usableLog_of_absent absent] at found
      cases found
    · rw [usableLog_of_undecodable own undecodable] at found
      cases found
    · rw [usableLog_of_unsupported own unsupported] at found
      cases found
    · rw [usableLog_of_carries own carries, map_eq_ok_iff] at found
      obtain ⟨logId, decoded, same⟩ := found
      cases same
      exact ⟨rfl, decodeText_eq_ok_iff.1 decoded, ⟨bytes, own, carries⟩, rfl⟩
  · rintro ⟨baseUrl, logId, ⟨bytes, own, carries⟩, validity⟩
    rw [usableLog_of_carries own carries, decodeText_eq_ok_iff.2 logId, ← baseUrl, ← validity]
    rfl

end usableLog

/-- The logs that are kept of those that a file gives: in their order, each that is of use once, and
no other. -/
inductive Kept : List LogRecord → List TransparencyLog → Prop
  | nil : Kept [] []
  | keep {given : LogRecord} {log : TransparencyLog} {rest : List LogRecord}
      {logs : List TransparencyLog} : LogOf given log → Kept rest logs →
        Kept (given :: rest) (log :: logs)
  | skip {given : LogRecord} {rest : List LogRecord} {logs : List TransparencyLog} :
      Inert given → Kept rest logs → Kept (given :: rest) logs

theorem usableLogs_cons {given : LogRecord} {rest : List LogRecord} :
    usableLogs (given :: rest) = do
      let found ← usableLog given
      let logs ← usableLogs rest
      return found.toList ++ logs := by
  rw [usableLogs, usableLogs, List.mapM_cons]
  cases usableLog given with
  | error defect => rfl
  | ok found =>
    cases rest.mapM usableLog with
    | error defect => rfl
    | ok others => cases found <;> rfl

theorem usableLogs_eq_ok_iff {given : List LogRecord} {logs : List TransparencyLog} :
    usableLogs given = .ok logs ↔ Kept given logs := by
  induction given generalizing logs with
  | nil =>
    have none : usableLogs [] = .ok [] := rfl
    rw [none]
    constructor
    · rintro ⟨⟩
      exact .nil
    · rintro ⟨⟩
      rfl
  | cons first rest ih =>
    simp only [usableLogs_cons, bind_eq_ok_iff, pure_eq_ok_iff, ih]
    constructor
    · rintro ⟨found, read, others, kept, rfl⟩
      cases found with
      | none => exact .skip (usableLog_eq_none_iff.1 read) kept
      | some log => exact .keep (usableLog_eq_some_iff.1 read) kept
    · rintro (_ | ⟨own, kept⟩ | ⟨inert, kept⟩)
      · exact ⟨_, usableLog_eq_some_iff.2 own, _, kept, rfl⟩
      · exact ⟨_, usableLog_eq_none_iff.2 inert, _, kept, rfl⟩

theorem Kept.exists_logOf {given : List LogRecord} {logs : List TransparencyLog}
    (kept : Kept given logs) {log : TransparencyLog} (member : log ∈ logs) :
    ∃ own ∈ given, LogOf own log := by
  induction kept with
  | nil => cases member
  | @keep first _ _ _ own _ ih =>
    rcases List.mem_cons.1 member with rfl | later
    · exact ⟨first, by simp, own⟩
    · obtain ⟨other, inside, theirs⟩ := ih later
      exact ⟨other, by simp [inside], theirs⟩
  | skip _ _ ih =>
    obtain ⟨other, inside, theirs⟩ := ih member
    exact ⟨other, by simp [inside], theirs⟩

/-- A trusted root is what the entries of a file give. -/
structure RootOf (given : RootRecord) (root : TrustedRoot) : Prop where
  mediaType : ∃ rest, given.mediaType = mediaTypeLead ++ rest
  authorities : List.Forall₂ AuthorityOf given.authorities root.authorities
  entryLogs : Kept given.entryLogs root.entryLogs
  certificateLogs : Kept given.certificateLogs root.certificateLogs
  authorities_nonempty : root.authorities ≠ []
  entryLogs_nonempty : root.entryLogs ≠ []

theorem ofRecord_eq_ok_iff {given : RootRecord} {root : TrustedRoot} :
    ofRecord given = .ok root ↔ RootOf given root := by
  simp only [ofRecord, refuse_eq_ok_iff, bind_eq_ok_iff, mapM_eq_ok_iff_forall₂,
    authority_eq_ok_iff, usableLogs_eq_ok_iff, pure_eq_ok_iff, Bool.not_eq_false,
    Text.startsWith_iff, List.isEmpty_iff]
  constructor
  · rintro ⟨mediaType, authorities, read, entryLogs, kept, certificateLogs, keptOthers, some, any, rfl⟩
    exact ⟨mediaType, read, kept, keptOthers, some, any⟩
  · rintro ⟨mediaType, read, kept, keptOthers, some, any⟩
    exact ⟨mediaType, _, read, _, kept, _, keptOthers, some, any, rfl⟩

/-- Why the entries of a file give no trusted root. -/
inductive Refused (given : RootRecord) : Prop
  | mediaType : (¬∃ rest, given.mediaType = mediaTypeLead ++ rest) → Refused given
  | certificate {authority : AuthorityRecord} {text : String} : authority ∈ given.authorities →
      text ∈ authority.certificates → (¬∃ found, GivesCertificate text found) → Refused given
  | emptyChain {authority : AuthorityRecord} : authority ∈ given.authorities →
      authority.certificates = [] → Refused given
  | key {log : LogRecord} {text : String} : log ∈ given.entryLogs ++ given.certificateLogs →
      log.key = some text → ¬Decodable text → Refused given
  | logId {log : LogRecord} : log ∈ given.entryLogs ++ given.certificateLogs → Usable log →
      ¬Decodable log.logId → Refused given
  | noAuthorities : given.authorities = [] → Refused given
  | noLogs : (∀ log ∈ given.entryLogs, ¬Usable log) → Refused given

def Holds (text : Bytes) (given : RootRecord) : Prop :=
  (Json.document? text).bind RootRecord.ofJson? = some given

theorem read_of_holds {text : Bytes} {given : RootRecord} (holds : Holds text given) :
    read text = (ofRecord given).mapError fun defect => .config (.trustedRoot defect) := by
  rw [read, readDefect, holds]

theorem read_eq_ok_iff {text : Bytes} {root : TrustedRoot} :
    read text = .ok root ↔ ∃ given, Holds text given ∧ RootOf given root := by
  unfold read readDefect Holds
  rw [mapError_eq_ok_iff]
  split
  · next unread => simp [unread]
  · next given readable => simp [readable, ofRecord_eq_ok_iff]

end TrustedRoot

end EnclaveProvenance
