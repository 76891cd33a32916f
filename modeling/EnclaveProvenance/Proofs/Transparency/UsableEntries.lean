import EnclaveProvenance.Proofs.Transparency.LogLookup
import EnclaveProvenance.Proofs.Transparency.Threshold

/-!
Which of a bundle's log entries count. One that verifies suffices, the first of them is relied on, and
all others are inert: a bundle stays accepted, with the same claims, whatever stands in them.
-/

namespace EnclaveProvenance

open Checks

theorem length_sha256 (message : Bytes) : (sha256 message).length = 32 := by
  simp [sha256, Sha2.Variant.digest, Sha2.Variant.output, Sha2.variant256]

namespace LogEntry

open Json (Value)

variable {root : TrustedRoot} {payload : Bytes} {signatures : List Bytes} {entries more : List LogEntry}
  {verified : VerifiedEntry}

/-! What has been established of an entry that verifies. -/

theorem textAt_eq_iff {value : Value} {key text : String} (given : text ≠ "") :
    textAt value key = text ↔ (value.member? key).bind Value.text? = some text := by
  unfold textAt
  cases (value.member? key).bind Value.text? with
  | none => simp [given.symm]
  | some found => simp

inductive KeepsHash : String → List String → Prop
  | dsse : KeepsHash "dsse" ["spec", "payloadHash"]
  | intoto : KeepsHash "intoto" ["spec", "content", "payloadHash"]

theorem hashPath?_eq_some_iff {kind : String} {path : List String} :
    hashPath? kind = some path ↔ KeepsHash kind path := by
  unfold hashPath?
  constructor
  · intro found
    split at found
    · next isDsse =>
      cases found
      exact isDsse ▸ .dsse
    · split at found
      · next isIntoto =>
        cases found
        exact isIntoto ▸ .intoto
      · cases found
  · rintro (_ | _)
    · rfl
    · rfl

theorem KeepsHash.ne_empty {kind : String} {path : List String} (keeps : KeepsHash kind path) :
    kind ≠ "" := by
  cases keeps with
  | dsse => decide
  | intoto => decide

/-- A body is about a payload: it has the declared kind, which is one of the two known ones, and in the
place for that kind the payload's SHA-256 in hexadecimal. -/
structure Describes (kind : String) (payload : Bytes) (body : Value) : Prop where
  kind_given : (body.member? "kind").bind Value.text? = some kind
  hash_given : ∃ path hash digest, KeepsHash kind path ∧ body.follow? path = some hash ∧
    (hash.member? "algorithm").bind Value.text? = some "sha256" ∧
    (hash.member? "value").bind Value.text? = some digest ∧
    Text.lowercase digest = Hex.encode (sha256 payload)

theorem describes_of_checkBodyValue {kind : String} {body : Value}
    (checked : checkBodyValue kind body payload signatures = .ok ()) : Describes kind payload body := by
  unfold checkBodyValue at checked
  rw [refuse_eq_ok_iff, ne_eq, Decidable.not_not] at checked
  obtain ⟨same, checked⟩ := checked
  rw [same] at checked
  split at checked
  · next path known =>
    have keeps := hashPath?_eq_some_iff.1 known
    split at checked
    · next hash followed =>
      rw [refuse_eq_ok_iff, not_or, ne_eq, ne_eq, Decidable.not_not, Decidable.not_not] at checked
      obtain ⟨⟨algorithm, value⟩, _⟩ := checked
      -- A missing hash reads as the empty text, which is the hexadecimal form of no digest.
      have digest : textAt hash "value" ≠ "" := by
        intro empty
        have blank : Hex.encode (sha256 payload) = Hex.encode [] := value.symm.trans (empty ▸ rfl)
        have length := congrArg List.length (Hex.encode_inj.1 blank)
        rw [length_sha256] at length
        cases length
      exact ⟨(textAt_eq_iff keeps.ne_empty).1 same, path, hash, _, keeps, followed,
        (textAt_eq_iff (by decide)).1 algorithm, (textAt_eq_iff digest).1 rfl, value⟩
    · cases checked
  · cases checked

/-- An entry verifies: its numbers, identifier and body can be read, a log of the root that has its
identifier was in force when it integrated the entry, and the body is about the payload. -/
structure Established (entry : LogEntry) (root : TrustedRoot) (payload : Bytes)
    (verified : VerifiedEntry) (log : TransparencyLog) (body : Value) : Prop where
  index_read : integer "logIndex" entry.logIndex = .ok verified.logIndex
  time_read : integer "integratedTime" entry.integratedTime = .ok verified.integratedTime
  trusted : log ∈ root.entryLogs
  identified : Base64.decode entry.logId = some log.logId
  started : log.validity.start ≤ verified.integratedTime
  not_stopped : ∀ stop, log.validity.stop = some stop → verified.integratedTime < stop
  body_read : (Base64.decode entry.body).bind Value.ofText? = some body
  describes : Describes entry.kind payload body

theorem established_of_verify {entry : LogEntry}
    (accepted : entry.verify root payload signatures = .ok verified) :
    ∃ log body, Established entry root payload verified log body := by
  obtain ⟨indexRead, timeRead, logId, octets, log, _, _, logIdRead, octetsRead, known, inForce, _, _, _,
    checked⟩ := verify_eq_ok_iff.1 accepted
  obtain ⟨body, bodyRead, inside⟩ := checkBody_eq_ok_iff.1 checked
  have first := find?_logId_eq_some_iff.1 known
  obtain ⟨started, notStopped⟩ := ValidityPeriod.contains_iff.1 inForce
  exact ⟨log, body, {
    index_read := indexRead
    time_read := timeRead
    trusted := first.mem
    identified := first.found_holds ▸ logIdRead
    started := started
    not_stopped := notStopped
    body_read := by rw [octetsRead, Option.bind_some, bodyRead]
    describes := describes_of_checkBodyValue inside }⟩

/-! How the entries of a bundle are searched. -/

def Reports (root : TrustedRoot) (payload : Bytes) (signatures : List Bytes) (fault : Fault) :
    List LogEntry → Prop
  | [] => fault = .untrustedSigner .noEntries
  | first :: _ => first.verify root payload signatures = .error fault

theorem Reports.unique {fault other : Fault} (first : Reports root payload signatures fault entries)
    (second : Reports root payload signatures other entries) : fault = other := by
  cases entries with
  | nil => exact first.trans second.symm
  | cons entry rest => exact Except.error.inj (first.symm.trans second)

theorem exists_verifyAny_iff : (∃ verified, verifyAny entries root payload signatures = .ok verified) ↔
    ∃ entry ∈ entries, entry.Verifies root payload signatures := by
  rw [← exists_firstOf_iff]
  constructor
  · rintro ⟨verified, accepted⟩
    obtain ⟨entry, relied⟩ := verifyAny_eq_ok_iff.1 accepted
    exact ⟨entry, relied.first⟩
  · rintro ⟨entry, first⟩
    obtain ⟨verified, verifies⟩ := first.found_holds
    exact ⟨verified, verifyAny_eq_ok_iff.2 ⟨entry, first, verifies⟩⟩

theorem reports_of_verifyAny {fault : Fault}
    (failed : verifyAny entries root payload signatures = .error fault) :
    Reports root payload signatures fault entries := by
  cases entries with
  | nil => exact (Except.error.inj failed).symm
  | cons entry rest =>
    rw [verifyAny] at failed
    split at failed
    · cases failed
    · next first own =>
      split at failed
      · cases failed
      · exact own.trans failed

theorem verifyAny_eq_error_iff {fault : Fault} :
    verifyAny entries root payload signatures = .error fault ↔
      (∀ entry ∈ entries, ¬entry.Verifies root payload signatures) ∧
        Reports root payload signatures fault entries := by
  constructor
  · intro failed
    refine ⟨fun entry member verifies => ?_, reports_of_verifyAny failed⟩
    obtain ⟨verified, accepted⟩ := exists_verifyAny_iff.2 ⟨entry, member, verifies⟩
    rw [accepted] at failed
    cases failed
  · rintro ⟨none, reports⟩
    cases outcome : verifyAny entries root payload signatures with
    | ok verified =>
      obtain ⟨entry, member, verifies⟩ := exists_verifyAny_iff.1 ⟨verified, outcome⟩
      exact absurd verifies (none entry member)
    | error other => rw [(reports_of_verifyAny outcome).unique reports]

/-- Changes of a list of entries after which the first usable one is the same: an entry that does not
verify put in anywhere, and any entries put behind all others. -/
inductive Extended (unverified : LogEntry → Prop) : List LogEntry → List LogEntry → Prop
  | inserted {before after : List LogEntry} {entry : LogEntry} (fails : unverified entry) :
      Extended unverified (before ++ after) (before ++ entry :: after)
  | appended (entries more : List LogEntry) : Extended unverified entries (entries ++ more)
  | trans {entries others lasts : List LogEntry} (first : Extended unverified entries others)
      (second : Extended unverified others lasts) : Extended unverified entries lasts

theorem Extended.firstOf {holds : LogEntry → Prop} {found : LogEntry}
    (extended : Extended (¬holds ·) entries more) (first : FirstOf holds entries found) :
    FirstOf holds more found := by
  induction extended with
  | inserted fails => exact first.insert fails
  | appended entries more => exact first.append more
  | trans _ _ ih later => exact later (ih first)

theorem verifyAny_of_extended
    (extended : Extended (¬Verifies root payload signatures ·) entries more)
    (accepted : verifyAny entries root payload signatures = .ok verified) :
    verifyAny more root payload signatures = .ok verified := by
  obtain ⟨entry, first, verifies⟩ := verifyAny_eq_ok_iff.1 accepted
  exact verifyAny_eq_ok_iff.2 ⟨entry, extended.firstOf first, verifies⟩

/-- The search of a list of entries against a root: it ends at the first one that verifies, and all that
stands before or behind it counts for nothing. -/
structure RelyOnFirst (root : TrustedRoot) (payload : Bytes) (signatures : List Bytes) : Prop where
  usable_iff : ∀ entries, (∃ verified, verifyAny entries root payload signatures = .ok verified) ↔
    ∃ entry ∈ entries, entry.Verifies root payload signatures
  first : ∀ entries verified, verifyAny entries root payload signatures = .ok verified ↔
    ∃ entry, FirstOf (Verifies root payload signatures) entries entry ∧
      entry.verify root payload signatures = .ok verified
  failure : ∀ entries fault, verifyAny entries root payload signatures = .error fault ↔
    (∀ entry ∈ entries, ¬entry.Verifies root payload signatures) ∧
      Reports root payload signatures fault entries
  established : ∀ (entry : LogEntry) verified, entry.verify root payload signatures = .ok verified →
    ∃ log body, Established entry root payload verified log body
  inert : ∀ entries more verified, Extended (¬Verifies root payload signatures ·) entries more →
    verifyAny entries root payload signatures = .ok verified →
      verifyAny more root payload signatures = .ok verified

theorem relyOnFirst (root : TrustedRoot) (payload : Bytes) (signatures : List Bytes) :
    RelyOnFirst root payload signatures where
  usable_iff := fun _ => exists_verifyAny_iff
  first := by
    intro entries verified
    rw [verifyAny_eq_ok_iff]
    constructor
    · rintro ⟨entry, relied⟩
      exact ⟨entry, relied.first, relied.verifies⟩
    · rintro ⟨entry, first, verifies⟩
      exact ⟨entry, first, verifies⟩
  failure := fun _ _ => verifyAny_eq_error_iff
  established := fun _ _ => established_of_verify
  inert := fun _ _ _ => verifyAny_of_extended

end LogEntry

theorem Bundle.read_eq_ok_iff {text : Bytes} {bundle : Bundle} :
    read text = .ok bundle ↔ (Json.document? text).bind ofJson? = some bundle ∧
      Text.startsWith bundle.mediaType mediaTypeLead = true ∧ bundle.signatures ≠ [] := by
  unfold read
  cases (Json.document? text).bind ofJson? with
  | none => simp
  | some given =>
    dsimp only
    constructor
    · intro accepted
      split at accepted
      · cases accepted
      · next known =>
        split at accepted
        · cases accepted
        · next signed =>
          cases accepted
          exact ⟨rfl, Bool.of_not_eq_false known, by simpa using signed⟩
    · rintro ⟨⟨⟩, known, signed⟩
      rw [if_neg (by simp [known]), if_neg (by simpa using signed)]

namespace TransparencyVerifier

open LogEntry (Extended RelyOnFirst Verifies)

variable {verifier : TransparencyVerifier} {digest repository : String} {bundleBytes otherBytes : Bytes}
  {set : MeasurementSet} {bundle : Bundle} {more : List LogEntry} {payload : Bytes}
  {signatures : List Bytes}

theorem verify_of_extended (accepted : verifier.verify digest bundleBytes repository = .ok set)
    (read : Bundle.read bundleBytes = .ok bundle) (payloadRead : bundle.payloadBytes = .ok payload)
    (signaturesRead : bundle.signatureBytes = .ok signatures)
    (extended : Extended (¬Verifies verifier.root payload signatures ·) bundle.entries more)
    (otherRead : Bundle.read otherBytes = .ok { bundle with entries := more }) :
    verifier.verify digest otherBytes repository = .ok set := by
  obtain ⟨acceptance⟩ := acceptance_of_verify accepted
  have same : acceptance.bundle = bundle := Except.ok.inj (acceptance.bundle_read.symm.trans read)
  subst same
  have samePayload : acceptance.payload = payload := Option.some.inj
    (acceptance.payload_decoded.symm.trans (Bundle.payloadBytes_eq_ok_iff.1 payloadRead))
  have sameSignatures : acceptance.signatures = signatures := Except.ok.inj
    ((Bundle.signatureBytes_eq_ok_iff.2 acceptance.signatures_decoded).symm.trans signaturesRead)
  subst samePayload sameSignatures
  exact Acceptance.verify_eq_ok { acceptance with
    bundle := { acceptance.bundle with entries := more }
    bundle_read := otherRead
    relied := ⟨extended.firstOf acceptance.relied.first, acceptance.relied.verifies⟩ }

theorem verify_written_of_extended (plain : Bundle.Plain { bundle with entries := more })
    (ownPlain : bundle.Plain) (accepted : verifier.verify digest bundle.written repository = .ok set)
    (payloadRead : bundle.payloadBytes = .ok payload)
    (signaturesRead : bundle.signatureBytes = .ok signatures)
    (extended : Extended (¬Verifies verifier.root payload signatures ·) bundle.entries more) :
    verifier.verify digest (Bundle.written { bundle with entries := more }) repository = .ok set := by
  obtain ⟨acceptance⟩ := acceptance_of_verify accepted
  obtain ⟨given, known, signed⟩ := Bundle.read_eq_ok_iff.1 acceptance.bundle_read
  have same := Option.some.inj (given.symm.trans (Bundle.reads_written ownPlain).document)
  rw [same] at known signed
  exact verify_of_extended accepted (Bundle.read_written ownPlain known signed) payloadRead
    signaturesRead extended (Bundle.read_written plain known signed)

/-- A bundle is accepted on the first of its log entries that verifies. No other entry counts: those that
do not verify, wherever they stand, and all that stand behind it may be there or not, and what the
verifier returns is the same, for any text of the bundle with them. -/
theorem first_usable_entry_suffices (verifier : TransparencyVerifier) :
    (∀ payload signatures, RelyOnFirst verifier.root payload signatures) ∧
    (∀ digest repository bundleBytes otherBytes set bundle more payload signatures,
      verifier.verify digest bundleBytes repository = .ok set →
      Bundle.read bundleBytes = .ok bundle → bundle.payloadBytes = .ok payload →
      bundle.signatureBytes = .ok signatures →
      Extended (¬Verifies verifier.root payload signatures ·) bundle.entries more →
      Bundle.read otherBytes = .ok { bundle with entries := more } →
        verifier.verify digest otherBytes repository = .ok set) ∧
    ∀ digest repository set (bundle : Bundle) more payload signatures, bundle.Plain →
      Bundle.Plain { bundle with entries := more } →
      verifier.verify digest bundle.written repository = .ok set →
      bundle.payloadBytes = .ok payload → bundle.signatureBytes = .ok signatures →
      Extended (¬Verifies verifier.root payload signatures ·) bundle.entries more →
        verifier.verify digest (Bundle.written { bundle with entries := more }) repository =
          .ok set := by
  refine ⟨?_, ?_, ?_⟩
  · intro payload signatures
    exact LogEntry.relyOnFirst verifier.root payload signatures
  · intro digest repository bundleBytes otherBytes set bundle more payload signatures accepted read
      payloadRead signaturesRead extended otherRead
    exact verify_of_extended accepted read payloadRead signaturesRead extended otherRead
  · intro digest repository set bundle more payload signatures ownPlain plain accepted payloadRead
      signaturesRead extended
    exact verify_written_of_extended plain ownPlain accepted payloadRead signaturesRead extended

end TransparencyVerifier

end EnclaveProvenance
