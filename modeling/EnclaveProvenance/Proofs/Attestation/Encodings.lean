import EnclaveProvenance.Proofs.Attestation.Acceptance
import EnclaveProvenance.Proofs.Cose.Levels
import EnclaveProvenance.Proofs.Json.Readers

/-!
The encodings of an attestation document: bare, under the tag of signed messages, and in a JSON
envelope. A message is never taken for an envelope, and an envelope is taken off once.
-/

namespace EnclaveProvenance

namespace Text

theorem dropWhile_solid {solid rest : List Char}
    (each : ∀ character ∈ solid, isBlank character = false) (nonempty : solid ≠ []) :
    (solid ++ rest).dropWhile isBlank = solid ++ rest := by
  cases solid with
  | nil => exact absurd rfl nonempty
  | cons first others =>
    rw [List.cons_append, List.dropWhile_cons_of_neg (by simp [each first (by simp)])]

theorem dropWhile_blanks {blanks : List Char}
    (each : ∀ character ∈ blanks, isBlank character = true) : blanks.dropWhile isBlank = [] := by
  rw [← List.append_nil blanks, List.dropWhile_append_of_pos each]
  rfl

theorem trimBlanks_padded {before core after : List Char}
    (blankBefore : ∀ character ∈ before, isBlank character = true)
    (solid : ∀ character ∈ core, isBlank character = false)
    (blankAfter : ∀ character ∈ after, isBlank character = true) :
    trimBlanks (before ++ (core ++ after)) = core := by
  have blankReversed : ∀ character ∈ after.reverse, isBlank character = true :=
    fun character member => blankAfter character (List.mem_reverse.1 member)
  have solidReversed : ∀ character ∈ core.reverse, isBlank character = false :=
    fun character member => solid character (List.mem_reverse.1 member)
  rw [trimBlanks, List.dropWhile_append_of_pos blankBefore]
  by_cases empty : core = []
  · subst empty
    rw [List.nil_append, dropWhile_blanks blankAfter]
    rfl
  · rw [dropWhile_solid solid empty, List.reverse_append,
      List.dropWhile_append_of_pos blankReversed, ← List.append_nil core.reverse,
      dropWhile_solid solidReversed (by simpa using empty), List.append_nil, List.reverse_reverse]

end Text

theorem Base64.isBlank_symbol {bytes : Bytes} {character : Char}
    (member : character ∈ encodeSymbols bytes) : Text.isBlank character = false := by
  have symbols : ∀ value ∈ List.range 64, Text.isBlank (symbol value) = false := by decide
  rcases mem_encodeSymbols member with rfl | ⟨value, small, rfl⟩
  · decide
  · exact symbols value (List.mem_range.2 small)

namespace Cbor

theorem Item.Written.first_ge {item : Item} {own : Bytes} (written : item.Written own)
    (kind : (∃ items, item = .array items) ∨ ∃ number content, item = .tag number content) :
    ∃ first rest, own = first :: rest ∧ 128 ≤ first.toNat := by
  rcases kind with ⟨items, rfl⟩ | ⟨number, content, rfl⟩
  · cases written with
    | array head _ | openArray head _ =>
      obtain ⟨first, rest, rfl, value, _⟩ := head.start
      exact ⟨first, _, rfl, value ▸ Nat.le_add_right 128 _⟩
    | simple head known => cases isSimple_of_simpleItem known
  · cases written with
    | tag head _ =>
      obtain ⟨first, rest, rfl, value, _⟩ := head.start
      exact ⟨first, _, rfl, value ▸ Nat.le_trans (by decide) (Nat.le_add_right 192 _)⟩
    | simple head known => cases isSimple_of_simpleItem known

theorem firstItem?_tagged (text : Bytes) :
    firstItem? (0xD2 :: text) = (firstItem? text).map fun (item, rest) => (.tag 18 item, rest) := by
  have inner : readItem (2 * text.length + 3) text = firstItem? text :=
    readItem_eq_firstItem? (by omega)
  rw [← inner, firstItem?, List.length_cons, Nat.mul_succ, readItem.eq_def]
  rfl

theorem onlyItem?_tagged (text : Bytes) :
    onlyItem? (0xD2 :: text) = (onlyItem? text).map (.tag 18) := by
  unfold onlyItem?
  rw [firstItem?_tagged]
  cases firstItem? text with
  | none => rfl
  | some found =>
    obtain ⟨item, rest⟩ := found
    cases rest <;> rfl

theorem fits_tagged {levels : Nat} {item : Item} :
    (Item.tag 18 item).fits levels = true ↔ item.nesting + 1 ≤ levels ∧ item.supported = true := by
  have plain : Item.bignum? 18 item = none := by
    unfold Item.bignum?
    split
    · split <;> rfl
    · rfl
  simp [Item.fits, Item.nesting, Item.supported, plain]

end Cbor

namespace Cose

open Cbor (Item)

theorem Sign1.first_of_read? {text : Bytes} {message : Sign1} (read : read? text = some message) :
    ∃ first rest, text = first :: rest ∧ 128 ≤ first.toNat := by
  obtain ⟨item, whole, shaped⟩ := read?_eq_some_iff.1 read
  have isArray : ∃ items, item = .array items := by
    cases item with
    | array items => exact ⟨items, rfl⟩
    | _ => cases shaped
  rcases whole with bare | tagged
  · exact (Cbor.wholeItem?_eq_some_iff.1 bare).1.first_ge (.inl isArray)
  · exact (Cbor.wholeItem?_eq_some_iff.1 tagged).1.first_ge (.inr ⟨18, item, rfl⟩)

theorem Sign1.read?_of_tagged {text : Bytes} {message : Sign1}
    (read : read? (0xD2 :: text) = some message) : read? text = some message := by
  obtain ⟨item, whole, shaped⟩ := read?_eq_some_iff.1 read
  rw [Cbor.wholeItem?_eq_some_iff, Cbor.wholeItem?_eq_some_iff, ← Cbor.onlyItem?_eq_some_iff,
    ← Cbor.onlyItem?_eq_some_iff, Cbor.onlyItem?_tagged] at whole
  rcases whole with ⟨bare, _⟩ | ⟨tagged, fits⟩
  · obtain ⟨content, _, rfl⟩ := Option.map_eq_some_iff.1 bare
    cases shaped
  · obtain ⟨content, only, same⟩ := Option.map_eq_some_iff.1 tagged
    cases same
    have written := Cbor.onlyItem?_eq_some_iff.1 only
    obtain ⟨room, supported⟩ := Cbor.fits_tagged.1 fits
    have inside : item.fits Item.nestingLimit = true := by
      simp only [Item.fits, supported, Bool.and_true, decide_eq_true_eq]
      omega
    refine read?_eq_some_iff.2 ⟨item, .inl (Cbor.wholeItem?_eq_some_iff.2 ⟨written, inside⟩), ?_⟩
    rw [← shaped, List.length_cons]
    exact ofItem?_eq_of_shorter ⟨text, written, Nat.lt_succ_self _⟩ (Nat.le_refl _) (by omega)

theorem Sign1.read?_tagged {text : Bytes} {message : Sign1} {item : Item}
    (read : read? text = some message) (whole : Cbor.wholeItem? text = some item)
    (untagged : ∀ number content, item ≠ .tag number content)
    (room : item.nesting + 1 ≤ Item.nestingLimit) : read? (0xD2 :: text) = some message := by
  obtain ⟨other, found, shaped⟩ := read?_eq_some_iff.1 read
  rw [whole] at found
  rcases found with bare | tagged
  · cases bare
    obtain ⟨written, fits⟩ := Cbor.wholeItem?_eq_some_iff.1 whole
    simp only [Item.fits, Bool.and_eq_true, decide_eq_true_eq] at fits
    have outer : Cbor.wholeItem? (0xD2 :: text) = some (.tag 18 item) := by
      rw [Cbor.wholeItem?_eq_some_iff, ← Cbor.onlyItem?_eq_some_iff, Cbor.onlyItem?_tagged,
        Cbor.onlyItem?_eq_some_iff.2 written]
      exact ⟨rfl, Cbor.fits_tagged.2 ⟨room, fits.2⟩⟩
    refine read?_eq_some_iff.2 ⟨item, .inr outer, ?_⟩
    rw [← shaped, List.length_cons]
    exact ofItem?_eq_of_shorter ⟨text, written, Nat.lt_succ_self _⟩ (by omega) (Nat.le_refl _)
  · cases tagged
    exact absurd rfl (untagged 18 other)

end Cose

namespace Attestation

def LooksWrapped (text : Bytes) : Prop :=
  (text.dropWhile isAsciiBlank).head? = some Json.openBrace ∨
    (text.dropWhile isAsciiBlank).head? = some Json.quote

theorem unwrap_of_not_looksWrapped {text : Bytes} (bare : ¬LooksWrapped text) :
    unwrap text = .ok text := by
  unfold unwrap
  split
  · rfl
  · next first start =>
    rw [LooksWrapped, start, Option.some.injEq, Option.some.injEq] at bare
    rw [if_neg fun brace => bare (.inl brace), if_neg fun quote => bare (.inr quote)]

/-- A signed message starts beyond ASCII, an envelope within it. -/
theorem not_looksWrapped_of_read? {text : Bytes} {message : Cose.Sign1}
    (read : Cose.Sign1.read? text = some message) : ¬LooksWrapped text := by
  obtain ⟨first, rest, rfl, large⟩ := Cose.Sign1.first_of_read? read
  have solid : isAsciiBlank first = false := by
    rw [Bool.eq_false_iff]
    intro blank
    simp only [isAsciiBlank, Bool.or_eq_true, beq_iff_eq] at blank
    rcases blank with (((rfl | rfl) | rfl) | rfl) | rfl <;> exact absurd large (by decide)
  rw [LooksWrapped, List.dropWhile_cons_of_neg (by simp [solid])]
  rintro (⟨⟨⟩⟩ | ⟨⟨⟩⟩) <;> exact absurd large (by decide)

def IsBodyOf (octets : Bytes) (body : String) : Prop :=
  ∃ before after : List Char, (∀ character ∈ before, Text.isBlank character = true) ∧
    (∀ character ∈ after, Text.isBlank character = true) ∧
    body = String.ofList (before ++ (Base64.encodeSymbols octets ++ after))

/-- The JSON texts that hold octets: an object with the name of a format and a body, or a string that
is the body, with any space and any spelling of the strings. -/
inductive Wrapped (octets : Bytes) : Bytes → Prop
  | object {format body : String} {formatKey bodyKey formatText bodyText before slice after : Bytes}
      {members : List Json.Member} :
      format = legacyFormat ∨ format = Predicate.awsNitroEnclaveV1.text → IsBodyOf octets body →
      Json.StringText "format" formatKey → Json.StringText "body" bodyKey →
      Json.StringText format formatText → Json.StringText body bodyText →
      members = [⟨formatKey, formatText⟩, ⟨bodyKey, bodyText⟩] ∨
        members = [⟨bodyKey, bodyText⟩, ⟨formatKey, formatText⟩] → Json.ObjectText members slice →
      Json.Spacing before → Json.Spacing after → Wrapped octets (before ++ (slice ++ after))
  | string {body : String} {before slice after : Bytes} :
      IsBodyOf octets body → Json.StringText body slice → Json.Spacing before →
      Json.Spacing after → Wrapped octets (before ++ (slice ++ after))

theorem isBodyOf_encode (octets : Bytes) : IsBodyOf octets (Base64.encode octets) :=
  ⟨[], [], nofun, nofun, by rw [List.nil_append, List.append_nil, Base64.encode]⟩

theorem wrapped_quoted (octets : Bytes) : Wrapped octets (Json.quoted (Base64.encode octets)) := by
  have text := Wrapped.string (isBodyOf_encode octets) (Json.stringText_quoted (Json.plainText_base64 octets))
    Json.spacing_nil Json.spacing_nil
  rwa [List.nil_append, List.append_nil] at text

theorem wrapped_objectText {format : String} (plain : Json.PlainText format)
    (known : format = legacyFormat ∨ format = Predicate.awsNitroEnclaveV1.text) (octets : Bytes) :
    Wrapped octets (Json.objectText [("format", Json.quoted format),
      ("body", Json.quoted (Base64.encode octets))]) := by
  have plainBody := Json.plainText_base64 octets
  have members : Json.AreMembers [("format", Json.quoted format),
      ("body", Json.quoted (Base64.encode octets))] :=
    Json.areMembers_cons (by decide) (Json.isValue_quoted plain)
      (Json.areMembers_cons (by decide) (Json.isValue_quoted plainBody) Json.areMembers_nil)
  have text := Wrapped.object known (isBodyOf_encode octets) (Json.stringText_quoted (by decide))
    (Json.stringText_quoted (by decide)) (Json.stringText_quoted plain)
    (Json.stringText_quoted plainBody) (.inl rfl) (Json.objectText_written members)
    Json.spacing_nil Json.spacing_nil
  rwa [List.nil_append, List.append_nil] at text

theorem document_of_isBodyOf {octets : Bytes} {format body : String}
    (known : isNitroFormat format = true) (isBody : IsBodyOf octets body) :
    Envelope.document ⟨format, body⟩ = .ok octets := by
  obtain ⟨before, after, blankBefore, blankAfter, rfl⟩ := isBody
  have trimmed : Text.trim (String.ofList (before ++ (Base64.encodeSymbols octets ++ after))) =
      Base64.encode octets := by
    rw [Text.trim, String.toList_ofList, Text.trimBlanks_padded blankBefore
      (fun _ member => Base64.isBlank_symbol member) blankAfter]
    rfl
  simp only [Envelope.document, known, trimmed, Base64.decode_encode, if_true]

theorem isAsciiBlank_of_isSpace {byte : UInt8} (space : Json.isSpace byte = true) :
    isAsciiBlank byte = true := by
  simp only [Json.isSpace, Bool.or_eq_true, beq_iff_eq] at space
  rcases space with ((rfl | rfl) | rfl) | rfl <;> rfl

theorem head?_dropWhile_spacing {before : Bytes} {first : UInt8} (spacing : Json.Spacing before)
    (solid : isAsciiBlank first = false) (rest : Bytes) :
    ((before ++ (first :: rest)).dropWhile isAsciiBlank).head? = some first := by
  rw [List.dropWhile_append_of_pos fun byte member =>
      isAsciiBlank_of_isSpace (spacing byte member),
    List.dropWhile_cons_of_neg (by simp [solid])]
  rfl

theorem ofJson?_objectText {members : List Json.Member}
    {slice formatKey bodyKey formatText bodyText : Bytes} {format body : String}
    (object : Json.ObjectText members slice) (formatKeyed : Json.StringText "format" formatKey)
    (bodyKeyed : Json.StringText "body" bodyKey) (formatSpelled : Json.StringText format formatText)
    (bodySpelled : Json.StringText body bodyText)
    (order : members = [⟨formatKey, formatText⟩, ⟨bodyKey, bodyText⟩] ∨
      members = [⟨bodyKey, bodyText⟩, ⟨formatKey, formatText⟩]) :
    Envelope.ofJson? slice = some ⟨format, body⟩ := by
  have formatNamed := formatKeyed.read
  have bodyNamed := bodyKeyed.read
  have formatRead := formatSpelled.read
  have bodyRead := bodySpelled.read
  rcases order with rfl | rfl
  · have named : List.mapM (fun member => (Json.string? member.key).map (·, member.value))
        [(⟨formatKey, formatText⟩ : Json.Member), ⟨bodyKey, bodyText⟩] =
          some [("format", formatText), ("body", bodyText)] := by
      simp [formatNamed, bodyNamed]
    rw [Envelope.ofJson?, Json.record?_of_members object.members? named _ (by simp)]
    simp [Json.Fields.required, Json.Fields.find?, formatRead, bodyRead]
  · have named : List.mapM (fun member => (Json.string? member.key).map (·, member.value))
        [(⟨bodyKey, bodyText⟩ : Json.Member), ⟨formatKey, formatText⟩] =
          some [("body", bodyText), ("format", formatText)] := by
      simp [formatNamed, bodyNamed]
    rw [Envelope.ofJson?, Json.record?_of_members object.members? named _ (by simp)]
    simp [Json.Fields.required, Json.Fields.find?, formatRead, bodyRead]

theorem Wrapped.unwrap {octets text : Bytes} (wrapped : Wrapped octets text) :
    Attestation.unwrap text = .ok octets := by
  cases wrapped with
  | @object format body _ _ _ _ before slice after members known isBody formatKeyed bodyKeyed
      formatSpelled bodySpelled order object spacingBefore spacingAfter =>
    have nitro : isNitroFormat format = true := by rcases known with rfl | rfl <;> decide
    have read := ofJson?_objectText object formatKeyed bodyKeyed formatSpelled bodySpelled order
    have whole := Json.document?_spaced spacingBefore object.isValue spacingAfter
    obtain ⟨rest, rfl⟩ := object.start
    have first := head?_dropWhile_spacing spacingBefore
      (show isAsciiBlank Json.openBrace = false by decide) (rest ++ after)
    rw [List.cons_append, Attestation.unwrap, first]
    rw [List.cons_append] at whole
    simp only [whole, Option.bind_some, read, if_true, document_of_isBodyOf nitro isBody]
  | @string body before slice after isBody spelled spacingBefore spacingAfter =>
    have read := spelled.read
    have whole := Json.document?_spaced spacingBefore spelled.isValue spacingAfter
    obtain @⟨spelling, _⟩ := spelled
    have first := head?_dropWhile_spacing spacingBefore
      (show isAsciiBlank Json.quote = false by decide) (spelling ++ after)
    rw [List.cons_append, Attestation.unwrap, first]
    rw [List.cons_append] at whole
    simp only [whole, Option.bind_some, read, if_true,
      show Json.quote ≠ Json.openBrace by decide, if_false,
      document_of_isBodyOf (show isNitroFormat legacyFormat = true by decide) isBody]

end Attestation

namespace HardwareVerifier

open Attestation (unwrap LooksWrapped Wrapped)

theorem verifyDocument_of_unwrap {document text other otherText : Bytes}
    (unwrapped : unwrap document = .ok text) (otherUnwrapped : unwrap other = .ok otherText)
    (same : Cose.Sign1.read? text = Cose.Sign1.read? otherText) (verifier : HardwareVerifier)
    (clock : Nat) :
    verifier.verifyDocument clock document = verifier.verifyDocument clock other := by
  have sameMessage : readMessage document = readMessage other := by
    unfold readMessage
    rw [unwrapped, otherUnwrapped]
    simp only [bind, Except.bind, same]
  rw [verifyDocument, verifyDocument, sameMessage]

theorem verifyDocument_of_not_message {document text : Bytes}
    (unwrapped : unwrap document = .ok text) (unread : Cose.Sign1.read? text = none)
    (verifier : HardwareVerifier) (clock : Nat) :
    verifier.verifyDocument clock document = .error (.malformedDocument .notSign1) := by
  have refused : readMessage document = .error .notSign1 := by
    unfold readMessage
    rw [unwrapped]
    simp only [bind, Except.bind, unread]
    rfl
  rw [verifyDocument, refused]
  rfl

theorem read?_of_verifyDocument {verifier : HardwareVerifier} {clock : Nat} {document text : Bytes}
    {verified : VerifiedDocument} (unwrapped : unwrap document = .ok text)
    (accepted : verifier.verifyDocument clock document = .ok verified) :
    ∃ message, Cose.Sign1.read? text = some message := by
  cases read : Cose.Sign1.read? text with
  | some message => exact ⟨message, rfl⟩
  | none =>
    rw [verifyDocument_of_not_message unwrapped read] at accepted
    cases accepted

theorem unwrap_tagged (document : Bytes) : unwrap (0xD2 :: document) = .ok (0xD2 :: document) :=
  Attestation.unwrap_of_not_looksWrapped (by rintro (⟨⟨⟩⟩ | ⟨⟨⟩⟩))

/-- All encodings of a message are the same document: it is never taken for an envelope; any
envelope of it gives the same result, accepted or not; what it may carry in front is the tag, which
makes no difference but for its level. An envelope in an envelope is no message. -/
theorem document_encodings_agree (document : Bytes) :
    (∀ message, Cose.Sign1.read? document = some message →
      unwrap document = .ok document ∧
      (∀ text, Wrapped document text → ∀ (verifier : HardwareVerifier) clock,
        verifier.verifyDocument clock text = verifier.verifyDocument clock document) ∧
      ∀ item, Cbor.wholeItem? document = some item →
        (∀ number content, item ≠ .tag number content) →
        item.nesting + 1 ≤ Cbor.Item.nestingLimit → ∀ (verifier : HardwareVerifier) clock verified,
          verifier.verifyDocument clock document = .ok verified →
          verifier.verifyDocument clock (0xD2 :: document) = .ok verified) ∧
    (LooksWrapped document → ∀ text, Wrapped document text →
      ∀ (verifier : HardwareVerifier) clock, ∃ defect,
        verifier.verifyDocument clock text = .error (.malformedDocument defect)) ∧
    ∀ (verifier : HardwareVerifier) clock verified,
      verifier.verifyDocument clock (0xD2 :: document) = .ok verified →
      verifier.verifyDocument clock document = .ok verified := by
  refine ⟨?_, ?_, ?_⟩
  · intro message read
    have bare := Attestation.unwrap_of_not_looksWrapped (Attestation.not_looksWrapped_of_read? read)
    refine ⟨bare, ?_, ?_⟩
    · intro text wrapped
      exact verifyDocument_of_unwrap wrapped.unwrap bare rfl
    · intro item whole untagged room verifier clock verified accepted
      have tagged := Cose.Sign1.read?_tagged read whole untagged room
      rw [verifyDocument_of_unwrap (unwrap_tagged document) bare (tagged.trans read.symm)]
      exact accepted
  · intro looks text wrapped verifier clock
    have unread : Cose.Sign1.read? document = none := by
      cases read : Cose.Sign1.read? document with
      | none => rfl
      | some message => exact absurd looks (Attestation.not_looksWrapped_of_read? read)
    exact ⟨.notSign1, verifyDocument_of_not_message wrapped.unwrap unread verifier clock⟩
  · intro verifier clock verified accepted
    obtain ⟨message, tagged⟩ := read?_of_verifyDocument (unwrap_tagged document) accepted
    have read := Cose.Sign1.read?_of_tagged tagged
    have bare := Attestation.unwrap_of_not_looksWrapped (Attestation.not_looksWrapped_of_read? read)
    rw [← verifyDocument_of_unwrap (unwrap_tagged document) bare (tagged.trans read.symm)]
    exact accepted

def es384Message : Bytes :=
  [0x84, 0x44, 0xA1, 0x01, 0x38, 0x22, 0xA0, 0x44, 0xA1, 0x61, 0x78, 0x01, 0x58, 0x60] ++
    List.replicate 48 0x5A ++ List.replicate 48 0xA5

theorem es384_message_encodings :
    (∃ message, Cose.Sign1.read? es384Message = some message ∧
      message.protectedHeader.algorithm? = some .es384 ∧
      message.payload = some [0xA1, 0x61, 0x78, 0x01] ∧ message.signature.length = 96) ∧
    ∀ (verifier : HardwareVerifier) clock,
      verifier.verifyDocument clock (Json.quoted (Base64.encode es384Message)) =
        verifier.verifyDocument clock es384Message ∧
      verifier.verifyDocument clock (Json.objectText [
          ("format", Json.quoted Predicate.awsNitroEnclaveV1.text),
          ("body", Json.quoted (Base64.encode es384Message))]) =
        verifier.verifyDocument clock es384Message := by
  have read : ∃ message, Cose.Sign1.read? es384Message = some message ∧
      message.protectedHeader.algorithm? = some .es384 ∧
      message.payload = some [0xA1, 0x61, 0x78, 0x01] ∧ message.signature.length = 96 :=
    ⟨_, rfl, rfl, rfl, rfl⟩
  obtain ⟨message, found, fields⟩ := read
  obtain ⟨_, same, _⟩ := (document_encodings_agree _).1 message found
  refine ⟨⟨message, found, fields⟩, fun verifier clock => ⟨same _ (Attestation.wrapped_quoted _) verifier clock, ?_⟩⟩
  exact same _ (Attestation.wrapped_objectText (by decide) (.inr rfl) es384Message) verifier clock

end HardwareVerifier

end EnclaveProvenance
