import EnclaveProvenance.Proofs.Json.Fields
import EnclaveProvenance.Proofs.Retrieval

/-!
The bundle in a response about attestations. It is passed on as it stands in the response, whatever
JSON value it is and whatever stands around it, as long as all names beside it are texts.
-/

namespace EnclaveProvenance.Retrieval

open Checks (mapM_eq_some_iff)
open Json (BracketedText EndsIn FieldText Spacing StartsIn ValueText)

def AttestationText (bundle text : Bytes) : Prop :=
  FieldText "bundle" bundle text ∧ ∃ characters, Bytes.ofText characters = bundle

theorem AttestationText.valueText {bundle text : Bytes} (attestation : AttestationText bundle text) :
    ValueText text :=
  attestation.1.valueText.2

theorem rawValue?_eq_some_iff {value raw : Bytes} :
    rawValue? value = some raw ↔ (∃ characters, Bytes.ofText characters = raw) ∧ value = raw := by
  simp only [rawValue?, Option.isSome_iff_exists, Bytes.text?_eq_some_iff,
    Option.ite_none_right_eq_some, Option.some.injEq]
  constructor
  · rintro ⟨encoded, rfl⟩
    exact ⟨encoded, rfl⟩
  · rintro ⟨encoded, rfl⟩
    exact ⟨encoded, rfl⟩

theorem attestation?_eq_some_iff {text bundle : Bytes} (valueText : ValueText text) :
    attestation? text = some bundle ↔ AttestationText bundle text := by
  simp only [attestation?, Json.record?_field_iff valueText, rawValue?_eq_some_iff, AttestationText]
  constructor
  · rintro ⟨value, field, encoded, rfl⟩
    exact ⟨field, encoded⟩
  · rintro ⟨field, encoded⟩
    exact ⟨bundle, field, encoded, rfl⟩

def AttestationsText (bundles : List Bytes) (text : Bytes) : Prop :=
  ∃ list slices, FieldText "attestations" list text ∧ BracketedText slices list ∧
    List.Forall₂ (fun slice bundle => AttestationText bundle slice) slices bundles

theorem attestations?_eq_some_iff {text : Bytes} {bundles : List Bytes} (valueText : ValueText text) :
    attestations? text = some bundles ↔ AttestationsText bundles text := by
  simp only [attestations?, Json.record?_field_iff valueText, Json.list?, Option.bind_eq_some_iff,
    mapM_eq_some_iff, AttestationsText]
  constructor
  · rintro ⟨list, field, slices, cut, each⟩
    obtain ⟨bracketed, values⟩ := field.valueText.1.elements?_eq_some_iff.1 cut
    refine ⟨list, slices, field, bracketed, ?_⟩
    have both := (List.forall₂_and_left _ _).2 ⟨values, each⟩
    exact both.imp fun slice bundle own => (attestation?_eq_some_iff own.1).1 own.2
  · rintro ⟨list, slices, field, bracketed, each⟩
    have both := each.imp fun slice bundle own => And.intro own.valueText own
    obtain ⟨values, -⟩ := (List.forall₂_and_left _ _).1 both
    refine ⟨list, field, slices, field.valueText.1.elements?_eq_some_iff.2 ⟨bracketed, values⟩, ?_⟩
    exact each.imp fun slice bundle own => (attestation?_eq_some_iff own.valueText).2 own

def ResponseText (bundles : List Bytes) (body : Bytes) : Prop :=
  ∃ before text after, Spacing before ∧ Spacing after ∧ body = before ++ (text ++ after) ∧
    AttestationsText bundles text

theorem AttestationsText.valueText {bundles : List Bytes} {text : Bytes}
    (attestations : AttestationsText bundles text) : ValueText text := by
  obtain ⟨list, slices, field, -⟩ := attestations
  exact field.valueText.2

theorem response_iff {body : Bytes} {bundles : List Bytes} :
    (Json.document? body).bind attestations? = some bundles ↔ ResponseText bundles body := by
  simp only [Option.bind_eq_some_iff, Json.document?_eq_some_iff, ResponseText]
  constructor
  · rintro ⟨text, ⟨before, after, beforeSpacing, afterSpacing, valueText, split⟩, read⟩
    exact ⟨before, text, after, beforeSpacing, afterSpacing, split,
      (attestations?_eq_some_iff valueText).1 read⟩
  · rintro ⟨before, text, after, beforeSpacing, afterSpacing, split, attestations⟩
    exact ⟨text, ⟨before, after, beforeSpacing, afterSpacing, attestations.valueText, split⟩,
      (attestations?_eq_some_iff attestations.valueText).2 attestations⟩

theorem ResponseText.first {bundle body : Bytes} {others : List Bytes}
    (response : ResponseText (bundle :: others) body) :
    ValueText bundle ∧ bundle <:+: body ∧ StartsIn (fun octet => Json.isSpace octet = false) bundle ∧
      EndsIn (fun octet => Json.isSpace octet = false) bundle := by
  obtain ⟨before, text, after, -, -, rfl, list, slices, field, bracketed, each⟩ := response
  cases each with
  | @cons slice _ slices _ attestation _ =>
    have valueText := attestation.1.valueText.1
    obtain ⟨_, rfl, inList⟩ := bracketed.within slice List.mem_cons_self
    have inText := (attestation.1.within.trans inList).trans field.within
    refine ⟨valueText, inText.trans ⟨before, after, List.append_assoc ..⟩, valueText.trimmed⟩

/-- The first bundle of a response is passed on as it stands there. A response without attestations has
none, and whatever is no response is refused; both count as a failed retrieval. -/
theorem passes_on_first_bundle (body : Bytes) :
    (∀ bundle, firstBundle body = .ok bundle ↔ ∃ others, ResponseText (bundle :: others) body) ∧
    (∀ bundle, firstBundle body = .ok bundle → ValueText bundle ∧ bundle <:+: body ∧
      StartsIn (fun octet => Json.isSpace octet = false) bundle ∧
      EndsIn (fun octet => Json.isSpace octet = false) bundle) ∧
    (firstBundle body = .error .noAttestations ↔ ResponseText [] body) ∧
    (firstBundle body = .error .response ↔ ∀ bundles, ¬ResponseText bundles body) ∧
    ∀ defect, firstBundle body = .error defect → (Fault.answer defect).kind = .transport := by
  have passed (bundle : Bytes) :
      firstBundle body = .ok bundle ↔ ∃ others, ResponseText (bundle :: others) body := by
    simp only [firstBundle_eq_ok_iff, response_iff]
  refine ⟨passed, ?_, ?_, ?_, fun _ _ => rfl⟩
  · intro bundle found
    obtain ⟨others, response⟩ := (passed bundle).1 found
    exact response.first
  · rw [← response_iff, firstBundle]
    split
    · next unread => simp [unread]
    · next empty => simp [empty]
    · next bundle others read => simp [read]
  · simp only [← response_iff, firstBundle]
    split
    · next unread => simp [unread]
    · next empty => simp [empty]
    · next bundle others read => simp [read]

/-- Space inside a bundle stays as it is. -/
example : firstBundle (Bytes.ofText
    "\x7b\"attestations\": [\x7b\"bundle\": \x7b\"a\":  [1, 2]\x7d, \"id\": 1\x7d, \x7b\"bundle\": 3\x7d]\x7d") =
      .ok (Bytes.ofText "\x7b\"a\":  [1, 2]\x7d") := by decide +kernel

def unpairedName : Bytes := Bytes.ofText "\x7b\"bundle\":\x7b\x7d,\"\\ud800\":1\x7d"

def unpairedResponse : Bytes :=
  Bytes.ofText "\x7b\"attestations\":[" ++ unpairedName ++ Bytes.ofText "]\x7d"

def illEncodedResponse : Bytes :=
  Bytes.ofText "\x7b\"attestations\":[\x7b\"bundle\":\x7b\x7d\x7d],\"x\":\"" ++ 0xFF :: Bytes.ofText "\"\x7d"

/-- Not every other member may stand beside a bundle, and not only objects in UTF-8 are read. -/
theorem reads_lists_and_refuses_unpaired_names :
    ((Json.document? unpairedResponse).isSome = true ∧
      Json.members? unpairedName = some [⟨Bytes.ofText "\"bundle\"", Bytes.ofText "\x7b\x7d"⟩,
        ⟨Bytes.ofText "\"\\ud800\"", Bytes.ofText "1"⟩] ∧
      firstBundle unpairedResponse = .error .response) ∧
    firstBundle (Bytes.ofText "[[[1]]]") = .ok (Bytes.ofText "1") ∧
    Bytes.text? illEncodedResponse = none ∧
      firstBundle illEncodedResponse = .ok (Bytes.ofText "\x7b\x7d") := by
  decide +kernel

end EnclaveProvenance.Retrieval
