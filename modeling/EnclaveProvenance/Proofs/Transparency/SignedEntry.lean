import EnclaveProvenance.Proofs.Decimal
import EnclaveProvenance.Proofs.Encodings
import EnclaveProvenance.Proofs.Transparency.LogEntries

/-!
What a log signs for an entry: the entry as it stands in the bundle, framed so that no other entry
has the same message.
-/

namespace EnclaveProvenance

open Checks
open Text (IsDecimal append_cons_inj isDecimal_iff mem_toString)

namespace Json

def Unescaped (text : String) : Prop :=
  ∀ character ∈ text.toList, escapeChar character = [character]

theorem flatMap_escapeChar {characters : List Char}
    (unescaped : ∀ character ∈ characters, escapeChar character = [character]) :
    characters.flatMap escapeChar = characters := by
  induction characters with
  | nil => rfl
  | cons character rest ih =>
    obtain ⟨own, others⟩ := List.forall_mem_cons.1 unescaped
    rw [List.flatMap_cons, own, ih others, List.singleton_append]

theorem quoteText_of_unescaped {text : String} (unescaped : Unescaped text) :
    quoteText text = "\"" ++ text ++ "\"" := by
  have mark : "\"".toList = ['"'] := rfl
  rw [quoteText, flatMap_escapeChar unescaped, ← String.toList_inj, String.toList_ofList,
    String.toList_append, String.toList_append, mark]
  rfl

theorem Unescaped.quote_not_mem {text : String} (unescaped : Unescaped text) :
    '"' ∉ text.toList := by
  intro member
  have escaped := unescaped '"' member
  contradiction

theorem unescaped_base64 (bytes : Bytes) : Unescaped (Base64.encode bytes) := by
  have symbols : ∀ value ∈ List.range 64,
      escapeChar (Base64.symbol value) = [Base64.symbol value] := by decide
  intro character member
  rw [Base64.encode, String.toList_ofList] at member
  rcases Base64.mem_encodeSymbols member with rfl | ⟨value, small, rfl⟩
  · rfl
  · exact symbols value (List.mem_range.2 small)

theorem unescaped_hex (bytes : Bytes) : Unescaped (Hex.encode bytes) := by
  have digits : ∀ value ∈ List.range 16, escapeChar (Hex.digit value) = [Hex.digit value] := by
    decide
  intro character member
  rw [Hex.encode, String.toList_ofList] at member
  obtain ⟨byte, _, inside⟩ := List.mem_flatMap.1 member
  obtain ⟨high, highSmall, low, lowSmall, octet⟩ := Hex.octet_eq byte
  rw [octet] at inside
  rcases List.mem_cons.1 inside with rfl | second
  · exact digits high highSmall
  · rw [List.mem_singleton.1 second]
    exact digits low lowSmall

end Json

namespace LogEntry

def message (body time logId index : String) : String :=
  "\x7b\"body\":\"" ++ body ++ "\",\"integratedTime\":" ++ time ++ ",\"logID\":\"" ++ logId ++
    "\",\"logIndex\":" ++ index ++ "\x7d"

theorem message_toList (body time logId index : String) :
    (message body time logId index).toList =
      "\x7b\"body\":\"".toList ++ (body.toList ++ '"' :: (",\"integratedTime\":".toList ++
        (time.toList ++ ',' :: ("\"logID\":\"".toList ++ (logId.toList ++ '"' ::
          (",\"logIndex\":".toList ++ (index.toList ++ ['}']))))))) := by
  have afterBody : "\",\"integratedTime\":".toList = '"' :: ",\"integratedTime\":".toList := rfl
  have afterTime : ",\"logID\":\"".toList = ',' :: "\"logID\":\"".toList := rfl
  have afterLogId : "\",\"logIndex\":".toList = '"' :: ",\"logIndex\":".toList := rfl
  have close : "\x7d".toList = ['}'] := rfl
  delta message
  simp only [String.toList_append, afterBody, afterTime, afterLogId, close, List.append_assoc,
    List.cons_append]

structure Delimited (body time logId : String) : Prop where
  body : '"' ∉ body.toList
  time : ',' ∉ time.toList
  logId : '"' ∉ logId.toList

theorem message_inj {body time logId index otherBody otherTime otherLogId otherIndex : String}
    (first : Delimited body time logId) (second : Delimited otherBody otherTime otherLogId)
    (same : message body time logId index = message otherBody otherTime otherLogId otherIndex) :
    body = otherBody ∧ time = otherTime ∧ logId = otherLogId ∧ index = otherIndex := by
  rw [← String.toList_inj, message_toList, message_toList] at same
  -- A member ends at the first mark that it cannot contain, the last one before the closing brace.
  obtain ⟨bodies, same⟩ := append_cons_inj first.body second.body (List.append_cancel_left same)
  obtain ⟨times, same⟩ := append_cons_inj first.time second.time (List.append_cancel_left same)
  obtain ⟨logIds, same⟩ := append_cons_inj first.logId second.logId (List.append_cancel_left same)
  have indices := List.append_cancel_right (List.append_cancel_left same)
  rw [← String.toList_inj, ← String.toList_inj, ← String.toList_inj, ← String.toList_inj]
  exact ⟨bodies, times, logIds, indices⟩

theorem signedText_eq_message (body : Bytes) (time : Int) (logId : Bytes) (index : Int) :
    signedText (Base64.encode body) time logId index =
      message (Base64.encode body) (toString time) (Hex.encode logId) (toString index) := by
  have mark : "\"".toList = ['"'] := rfl
  have close : "\x7d".toList = ['}'] := rfl
  have beforeBody : "\x7b\"body\":\"".toList = "\x7b\"body\":".toList ++ ['"'] := rfl
  have afterTime : ",\"logID\":".toList = ',' :: "\"logID\":".toList := rfl
  have beforeLogId : "\"logID\":\"".toList = "\"logID\":".toList ++ ['"'] := rfl
  rw [← String.toList_inj, message_toList]
  delta signedText
  rw [Json.quoteText_of_unescaped (Json.unescaped_base64 body),
    Json.quoteText_of_unescaped (Json.unescaped_hex logId)]
  simp only [String.toList_append, mark, close, beforeBody, afterTime, beforeLogId,
    List.append_assoc, List.cons_append, List.nil_append]

theorem delimited (body : Bytes) (time : Int) (logId : Bytes) :
    Delimited (Base64.encode body) (toString time) (Hex.encode logId) where
  body := (Json.unescaped_base64 body).quote_not_mem
  time := by
    intro member
    rcases mem_toString member with sign | digit
    · contradiction
    · contradiction
  logId := (Json.unescaped_hex logId).quote_not_mem

theorem signedText_inj {body otherBody logId otherLogId : Bytes}
    {time otherTime index otherIndex : Int} :
    Bytes.ofText (signedText (Base64.encode body) time logId index) =
        Bytes.ofText (signedText (Base64.encode otherBody) otherTime otherLogId otherIndex) ↔
      body = otherBody ∧ time = otherTime ∧ logId = otherLogId ∧ index = otherIndex := by
  rw [Bytes.ofText_inj]
  constructor
  · intro same
    rw [signedText_eq_message, signedText_eq_message] at same
    have members := message_inj (delimited body time logId)
      (delimited otherBody otherTime otherLogId) same
    rwa [Base64.encode_inj, Text.toString_inj, Hex.encode_inj, Text.toString_inj] at members
  · rintro ⟨rfl, rfl, rfl, rfl⟩
    rfl

/-- The promise for an entry: a log of the root, in force when it integrated the entry, signed the
message with the body of the bundle, the numbers in decimal and the log's identifier in
hexadecimal. -/
structure Promised (entry : LogEntry) (root : TrustedRoot) (verified : VerifiedEntry)
    (body logId promised : Bytes) (log : TransparencyLog) (time index : String) : Prop where
  index_read : integer "logIndex" entry.logIndex = .ok verified.logIndex
  time_read : integer "integratedTime" entry.integratedTime = .ok verified.integratedTime
  logId_read : Base64.decode entry.logId = some logId
  body_read : Base64.decode entry.body = some body
  body_again : Base64.encode body = entry.body
  known : root.entryLog? logId = some log
  in_force : log.validity.contains verified.integratedTime = true
  promise_read : ∃ text, entry.promise = some text ∧ Base64.decode text = some promised
  time_decimal : IsDecimal time verified.integratedTime
  index_decimal : IsDecimal index verified.logIndex
  signed : log.key.verify .sha256
    (Bytes.ofText (message entry.body time (Hex.encode logId) index)) promised .der = true

theorem verify_eq_ok_iff_promised {entry : LogEntry} {root : TrustedRoot} {payload : Bytes}
    {signatures : List Bytes} {verified : VerifiedEntry} :
    entry.verify root payload signatures = .ok verified ↔
      ∃ body logId promised log time index,
        Promised entry root verified body logId promised log time index ∧
          checkBody entry.kind body payload signatures = .ok () := by
  rw [verify_eq_ok_iff]
  constructor
  · rintro ⟨indexRead, timeRead, logId, body, log, text, promised, logIdRead, bodyRead, known,
      inForce, given, promiseRead, signed, described⟩
    have received := Base64.decode_eq_some_iff.1 bodyRead
    rw [signedText_eq_message, ← received] at signed
    exact ⟨body, logId, promised, log, _, _, {
      index_read := indexRead
      time_read := timeRead
      logId_read := logIdRead
      body_read := bodyRead
      body_again := received.symm
      known := known
      in_force := inForce
      promise_read := ⟨text, given, promiseRead⟩
      time_decimal := isDecimal_iff.2 rfl
      index_decimal := isDecimal_iff.2 rfl
      signed := signed }, described⟩
  · rintro ⟨body, logId, promised, log, time, index, promise, described⟩
    obtain ⟨text, given, promiseRead⟩ := promise.promise_read
    have signed := promise.signed
    rw [isDecimal_iff.1 promise.time_decimal, isDecimal_iff.1 promise.index_decimal,
      ← promise.body_again, ← signedText_eq_message] at signed
    exact ⟨promise.index_read, promise.time_read, logId, body, log, text, promised,
      promise.logId_read, promise.body_read, promise.known, promise.in_force, given, promiseRead,
      signed, described⟩

/-- What a log has signed for a verified entry is the entry as it was received, in JSON that never
needs an escape, and different entries have different messages. -/
theorem promise_binds_entry :
    (∀ (entry : LogEntry) root payload signatures verified,
      entry.verify root payload signatures = .ok verified ↔
        ∃ body logId promised log time index,
          Promised entry root verified body logId promised log time index ∧
            checkBody entry.kind body payload signatures = .ok ()) ∧
    (∀ body time logId index, signedText (Base64.encode body) time logId index =
      message (Base64.encode body) (toString time) (Hex.encode logId) (toString index)) ∧
    ∀ body otherBody time otherTime logId otherLogId index otherIndex,
      Bytes.ofText (signedText (Base64.encode body) time logId index) =
          Bytes.ofText (signedText (Base64.encode otherBody) otherTime otherLogId otherIndex) ↔
        body = otherBody ∧ time = otherTime ∧ logId = otherLogId ∧ index = otherIndex := by
  refine ⟨?_, signedText_eq_message, ?_⟩
  · intro entry root payload signatures verified
    exact verify_eq_ok_iff_promised
  · intro body otherBody time otherTime logId otherLogId index otherIndex
    exact signedText_inj

end LogEntry

end EnclaveProvenance
