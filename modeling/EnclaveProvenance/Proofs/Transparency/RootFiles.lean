import EnclaveProvenance.Proofs.Transparency.Windows

/-!
Trusted roots written as JSON files: they are read as what they were written from.
-/

namespace EnclaveProvenance

open Calendar (Moment Writes)
open Json

structure WrittenMoment where
  text : String
  moment : Moment
  plain : PlainText text
  writes : Writes text.toList moment
  occurs : moment.Occurs

structure WrittenWindow where
  start : WrittenMoment
  stop : Option WrittenMoment

namespace WrittenWindow

def window (given : WrittenWindow) : Window :=
  ⟨given.start.moment, given.stop.map WrittenMoment.moment⟩

def text (given : WrittenWindow) : Bytes :=
  objectText (("start", quoted given.start.text) ::
    optionalMember "end" (fun stop => quoted stop.text) given.stop)

theorem areMembers_text (given : WrittenWindow) : AreMembers (("start", quoted given.start.text) ::
    optionalMember "end" (fun stop => quoted stop.text) given.stop) :=
  areMembers_cons (by decide) (isValue_quoted given.start.plain)
    (areMembers_optionalMember (by decide) fun stop _ => isValue_quoted stop.plain)

theorem declares (given : WrittenWindow) : given.window.Declares given.text := by
  have fields := record?_objectText given.areMembers_text
    (by cases given.stop <;> simp [optionalMember]) ["start", "end"] some
  rw [record?, Option.bind_fun_some] at fields
  have gives : GivesMoment (quoted given.start.text) given.start.moment :=
    ⟨_, string?_quoted given.start.plain, given.start.writes⟩
  refine .fields fields ?_ gives ?_
  · simp [Fields.find?]
  · cases stopped : given.stop with
    | none => simp [window, Window.GivesStop, Fields.find?, optionalMember, stopped]
    | some stop =>
      have notNull : isNull (quoted stop.text) = false := isNull_cons (by decide)
      simp only [window, stopped, Option.map_some, Window.GivesStop]
      refine ⟨quoted stop.text, ?_, notNull, _, string?_quoted stop.plain, stop.writes⟩
      simp [Fields.find?, optionalMember]

theorem occurs (given : WrittenWindow) : given.window.Occurs where
  start := given.start.occurs
  stop := by
    intro stop same
    obtain ⟨own, _, rfl⟩ := Option.map_eq_some_iff.1 same
    exact own.occurs

theorem reads_text (given : WrittenWindow) :
    Reads ValidityPeriod.ofJson? given.text given.window.taken :=
  ⟨isValue_objectText given.areMembers_text,
    (Window.ofJson?_of_declares given.declares).2 ⟨given.occurs, rfl⟩⟩

end WrittenWindow

namespace TrustedRoot

structure LogListing where
  baseUrl : String
  key : Option String
  window : WrittenWindow
  logId : String

namespace LogListing

structure Plain (given : LogListing) : Prop where
  baseUrl : PlainText given.baseUrl
  key : ∀ text, given.key = some text → PlainText text
  logId : PlainText given.logId

def record (given : LogListing) : LogRecord :=
  ⟨given.baseUrl, given.key, given.window.window.taken, given.logId⟩

def keyText (given : LogListing) : Bytes :=
  objectText (("validFor", given.window.text) :: optionalMember "rawBytes" quoted given.key)

def text (given : LogListing) : Bytes :=
  objectText [("baseUrl", quoted given.baseUrl), ("publicKey", given.keyText),
    ("logId", fieldText "keyId" given.logId)]

theorem reads_keyText {given : LogListing} (plain : given.Plain) :
    Reads logKey? given.keyText (given.key, given.window.window.taken) := by
  have window := given.window.reads_text
  refine reads_record (areMembers_cons (by decide) window.isValue
    (areMembers_optionalMember (by decide) fun text own => isValue_quoted (plain.key text own))) ?_ ?_
  · cases given.key <;> simp [optionalMember]
  · cases own : given.key with
    | none => simp [Fields.required, Fields.optional, Fields.find?, optionalMember, window.read]
    | some text =>
      have notNull : isNull (quoted text) = false := isNull_cons (by decide)
      simp [Fields.required, Fields.optional, Fields.find?, optionalMember, window.read, notNull,
        string?_quoted (plain.key text own)]

theorem reads_text {given : LogListing} (plain : given.Plain) :
    Reads LogRecord.ofJson? given.text given.record := by
  have key := reads_keyText plain
  have logId := reads_fieldText "keyId" (by decide) plain.logId
  refine reads_record (areMembers_cons (by decide) (isValue_quoted plain.baseUrl)
    (areMembers_cons (by decide) key.isValue
      (areMembers_cons (by decide) logId.isValue areMembers_nil))) (by simp) ?_
  simp [Fields.required, Fields.find?, string?_quoted plain.baseUrl, key.read, logId.read, record]

end LogListing

structure AuthorityListing where
  uri : String
  certificates : List String
  window : WrittenWindow

namespace AuthorityListing

structure Plain (given : AuthorityListing) : Prop where
  uri : PlainText given.uri
  certificates : ∀ text ∈ given.certificates, PlainText text

def record (given : AuthorityListing) : AuthorityRecord :=
  ⟨given.uri, given.certificates, given.window.window.taken⟩

def text (given : AuthorityListing) : Bytes :=
  objectText [("uri", quoted given.uri), ("certChain", Bundle.chainText given.certificates),
    ("validFor", given.window.text)]

theorem reads_text {given : AuthorityListing} (plain : given.Plain) :
    Reads AuthorityRecord.ofJson? given.text given.record := by
  have chain := Bundle.reads_chainText plain.certificates
  have window := given.window.reads_text
  refine reads_record (areMembers_cons (by decide) (isValue_quoted plain.uri)
    (areMembers_cons (by decide) chain.isValue
      (areMembers_cons (by decide) window.isValue areMembers_nil))) (by simp) ?_
  simp [Fields.required, Fields.find?, string?_quoted plain.uri, chain.read, window.read, record]

end AuthorityListing

structure RootFile where
  mediaType : String
  entryLogs : List LogListing
  authorities : List AuthorityListing
  certificateLogs : List LogListing

namespace RootFile

structure Plain (file : RootFile) : Prop where
  mediaType : PlainText file.mediaType
  entryLogs : ∀ given ∈ file.entryLogs, given.Plain
  authorities : ∀ given ∈ file.authorities, given.Plain
  certificateLogs : ∀ given ∈ file.certificateLogs, given.Plain

def record (file : RootFile) : RootRecord where
  mediaType := file.mediaType
  entryLogs := file.entryLogs.map LogListing.record
  authorities := file.authorities.map AuthorityListing.record
  certificateLogs := file.certificateLogs.map LogListing.record

def written (file : RootFile) : Bytes :=
  objectText [("mediaType", quoted file.mediaType),
    ("tlogs", listText (file.entryLogs.map LogListing.text)),
    ("certificateAuthorities", listText (file.authorities.map AuthorityListing.text)),
    ("ctlogs", listText (file.certificateLogs.map LogListing.text))]

theorem document_written {file : RootFile} (plain : file.Plain) :
    (document? file.written).bind RootRecord.ofJson? = some file.record := by
  have entryLogs : Reads (list? LogRecord.ofJson?) (listText (file.entryLogs.map LogListing.text))
      (file.entryLogs.map LogListing.record) :=
    reads_listText fun given member => LogListing.reads_text (plain.entryLogs given member)
  have authorities : Reads (list? AuthorityRecord.ofJson?)
      (listText (file.authorities.map AuthorityListing.text))
      (file.authorities.map AuthorityListing.record) :=
    reads_listText fun given member => AuthorityListing.reads_text (plain.authorities given member)
  have certificateLogs : Reads (list? LogRecord.ofJson?)
      (listText (file.certificateLogs.map LogListing.text))
      (file.certificateLogs.map LogListing.record) :=
    reads_listText fun given member => LogListing.reads_text (plain.certificateLogs given member)
  refine Reads.document (reads_record (areMembers_cons (by decide) (isValue_quoted plain.mediaType)
    (areMembers_cons (by decide) entryLogs.isValue
      (areMembers_cons (by decide) authorities.isValue
        (areMembers_cons (by decide) certificateLogs.isValue areMembers_nil)))) (by simp) ?_)
  simp [Fields.required, Fields.defaulted, Fields.find?, string?_quoted plain.mediaType,
    entryLogs.read, authorities.read, certificateLogs.read, record]

end RootFile

end TrustedRoot

end EnclaveProvenance
