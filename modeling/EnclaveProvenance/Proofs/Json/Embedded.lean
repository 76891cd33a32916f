import EnclaveProvenance.Proofs.Checks
import EnclaveProvenance.Proofs.Json.Readers
import EnclaveProvenance.Proofs.Json.Values

/-!
Objects that stand for a JSON text in their only member: when an object is one, what it is then read
as, and that texts may be embedded in one another to any depth.
-/

namespace EnclaveProvenance.Json

open Checks (mapM_congr mapM_eq_some_iff)

theorem length_encodePoint (point : Nat) : (encodePoint point).length ≤ 4 := by
  rw [encodePoint, String.length_utf8EncodeChar]
  exact Char.utf8Size_le_four _

theorem Spells.length_lt {spelling content : Bytes} (spells : Spells spelling content) :
    content.length < spelling.length := by
  induction spells with
  | close => decide
  | plain _ _ ih => simpa using ih
  | short _ _ ih =>
    simp only [List.length_cons]
    omega
  | @unit _ _ _ _ point _ _ _ _ _ _ ih =>
    have short := length_encodePoint point
    simp only [List.length_cons, List.length_append]
    omega
  | @pair _ _ _ _ _ _ _ _ high low _ _ _ _ _ _ _ _ ih =>
    have short := length_encodePoint (0x10000 + (high - 0xD800) * 0x400 + (low - 0xDC00))
    simp only [List.length_cons, List.length_append]
    omega

theorem StringText.length_lt {text : String} {slice : Bytes} (string : StringText text slice) :
    (Bytes.ofText text).length < slice.length := by
  obtain ⟨spells⟩ := string
  have shorter := spells.length_lt
  rw [List.length_cons]
  omega

theorem value_of_document? {text value : Bytes} (found : document? text = some value) :
    ValueText value ∧ value.length ≤ text.length := by
  obtain ⟨before, after, _, _, own, rfl⟩ := document?_eq_some_iff.1 found
  refine ⟨own, ?_⟩
  simp only [List.length_append]
  omega

namespace Value

theorem embeds_iff {members : List Member} :
    embeds members = true ↔
      ∃ first rest, members = first :: rest ∧ StringText embeddingKey first.key := by
  unfold embeds
  rw [beq_iff_eq, Option.bind_eq_some_iff]
  constructor
  · rintro ⟨first, leading, key⟩
    obtain ⟨rest, rfl⟩ := List.head?_eq_some_iff.1 leading
    exact ⟨first, rest, rfl, string?_eq_some_iff.1 key⟩
  · rintro ⟨first, rest, rfl, key⟩
    exact ⟨first, rfl, string?_eq_some_iff.2 key⟩

/-- An object whose first key is the one of an embedded text is read as that text is, and not at all if
it has another member or no string. -/
theorem ofMembers?_of_embeds {embedded inner : Bytes → Option Value} {members : List Member}
    {value : Value} (marked : embeds members = true) :
    ofMembers? embedded inner members = some value ↔ ∃ member text, members = [member] ∧
      StringText text member.value ∧ embedded (Bytes.ofText text) = some value := by
  have only {text : String} : onlyText? members = some text ↔
      ∃ member, members = [member] ∧ StringText text member.value := by
    match members with
    | [] => simp [onlyText?]
    | [member] => simp [onlyText?, string?_eq_some_iff]
    | first :: second :: rest => simp [onlyText?]
  rw [ofMembers?, if_pos marked, Option.bind_eq_some_iff]
  constructor
  · rintro ⟨text, single, read⟩
    obtain ⟨member, rfl, string⟩ := only.1 single
    exact ⟨member, text, rfl, string, read⟩
  · rintro ⟨member, text, rfl, string, read⟩
    exact ⟨text, only.2 ⟨member, rfl, string⟩, read⟩

theorem ofMembers?_of_not_embeds {embedded inner : Bytes → Option Value} {members : List Member}
    {value : Value} (plain : embeds members = false) :
    ofMembers? embedded inner members = some value ↔ ∃ contents, value = .object contents ∧
      List.Forall₂ (fun member entry => StringText entry.1 member.key ∧
        inner member.value = some entry.2) members contents := by
  rw [ofMembers?, if_neg (by simp [plain]), Option.map_eq_some_iff]
  simp only [mapM_eq_some_iff, keyed?_eq_some_iff, string?_eq_some_iff]
  constructor
  · rintro ⟨contents, read, rfl⟩
    exact ⟨contents, rfl, read⟩
  · rintro ⟨contents, rfl, read⟩
    exact ⟨contents, read, rfl⟩

theorem ofMembers?_congr {one other inner again : Bytes → Option Value} {members : List Member}
    (texts : ∀ member ∈ members, ∀ text, text.length < member.value.length → one text = other text)
    (values : ∀ member ∈ members, inner member.value = again member.value) :
    ofMembers? one inner members = ofMembers? other again members := by
  cases marked : embeds members with
  | true =>
    apply Option.ext
    intro value
    rw [ofMembers?_of_embeds marked, ofMembers?_of_embeds marked]
    refine exists_congr fun member => exists_congr fun text => and_congr_right fun single =>
      and_congr_right fun string => ?_
    rw [texts member (by simp [single]) _ string.length_lt]
  | false =>
    have same : members.mapM (keyed? inner) = members.mapM (keyed? again) :=
      mapM_congr fun member belongs => by rw [keyed?, keyed?, values member belongs]
    rw [ofMembers?, ofMembers?, if_neg (by simp [marked]), if_neg (by simp [marked]), same]

/-- Only texts that are shorter than a value can be embedded in it. -/
theorem readWith_congr {one other : Bytes → Option Value} {value : Bytes} (own : ValueText value)
    (same : ∀ text, text.length < value.length → one text = other text) (depth : Nat) :
    readWith one depth value = readWith other depth value := by
  induction depth generalizing value with
  | zero => rw [readWith.eq_def, readWith.eq_def]
  | succ depth ih =>
    rcases own.kinds with ⟨slices, bracketed, values⟩ | ⟨members, braced, values⟩ |
      ⟨first, rest, rfl, notBracket, notBrace⟩
    · have inner : ∀ slice ∈ slices, readWith one depth slice = readWith other depth slice := by
        intro slice belongs
        obtain ⟨_, rfl, inside⟩ := bracketed.within slice belongs
        have short := inside.length_le
        exact ih (values slice belongs) fun text shorter => same text (by omega)
      have cut := own.elements?_eq_some_iff.2 ⟨bracketed, values⟩
      obtain ⟨rest, rfl⟩ := bracketed.start
      rw [readWith_bracket, readWith_bracket, list?, list?, cut, Option.bind_some, Option.bind_some,
        mapM_congr inner]
    · have short : ∀ member ∈ members, member.value.length ≤ value.length := by
        intro member belongs
        obtain ⟨_, entry, inside⟩ := braced.within member belongs
        exact (entry.within.trans inside).length_le
      have cut := own.members?_eq_some_iff.2 ⟨braced, values⟩
      obtain ⟨rest, rfl⟩ := braced.start
      rw [readWith_brace, readWith_brace, cut, Option.bind_some, Option.bind_some]
      apply ofMembers?_congr
      · intro member belongs text shorter
        exact same text (shorter.trans_le (short member belongs))
      · intro member belongs
        exact ih (values member belongs) fun text shorter =>
          same text (shorter.trans_le (short member belongs))
    · rw [readWith.eq_def, readWith.eq_def]
      simp only [List.head?_cons, notBracket, notBrace, if_false]

theorem ofTextWithin_congr {one other : Nat} {text : Bytes} (enough : text.length < one)
    (alsoEnough : text.length < other) : ofTextWithin one text = ofTextWithin other text := by
  induction one generalizing other text with
  | zero => omega
  | succ one ih =>
    cases other with
    | zero => omega
    | succ other =>
      rw [ofTextWithin, ofTextWithin]
      cases found : document? text with
      | none => rw [Option.bind_none, Option.bind_none]
      | some value =>
        obtain ⟨own, short⟩ := value_of_document? found
        rw [Option.bind_some, Option.bind_some]
        apply readWith_congr own
        intro inner shorter
        exact ih (by omega) (by omega)

theorem ofText?_eq (text : Bytes) : ofText? text = (document? text).bind (read depthLimit) := by
  rw [ofText?, ofTextWithin]
  cases found : document? text with
  | none => rw [Option.bind_none, Option.bind_none]
  | some value =>
    obtain ⟨own, short⟩ := value_of_document? found
    rw [Option.bind_some, Option.bind_some, read]
    apply readWith_congr own
    intro inner shorter
    exact ofTextWithin_congr (by omega) (by omega)

/-- An object with the key of an embedded text in front stands for that text, which is a JSON text of
its own, and must have nothing else in it; any other object is read member by member. -/
theorem read_object_iff {depth : Nat} {members : List Member} {slice : Bytes} {value : Value}
    (braced : BracedText members slice) (values : ∀ member ∈ members, ValueText member.value) :
    read (depth + 1) slice = some value ↔
      ((∃ first rest, members = first :: rest ∧ StringText embeddingKey first.key) ∧
        ∃ member text, members = [member] ∧ StringText text member.value ∧
          (document? (Bytes.ofText text)).bind (read depthLimit) = some value) ∨
      ((¬∃ first rest, members = first :: rest ∧ StringText embeddingKey first.key) ∧
        ∃ contents, value = .object contents ∧ List.Forall₂ (fun member entry =>
          StringText entry.1 member.key ∧ read depth member.value = some entry.2) members contents) := by
  have cut := (ValueText.object braced values).members?_eq_some_iff.2 ⟨braced, values⟩
  obtain ⟨rest, rfl⟩ := braced.start
  have inner : readWith ofText? depth = read depth := rfl
  rw [read, readWith_brace, cut, Option.bind_some, ← embeds_iff, inner]
  cases marked : embeds members with
  | true =>
    rw [ofMembers?_of_embeds marked]
    simp only [ofText?_eq, true_and, not_true_eq_false, false_and, or_false]
  | false =>
    rw [ofMembers?_of_not_embeds marked]
    simp only [Bool.false_eq_true, not_false_eq_true, true_and, false_and, false_or]

example : (ofText? (Bytes.ofText "\x7b\"$serde_json::private::RawValue\":\"[]\"\x7d")).bind elements? =
    some [] := rfl

end Value

end EnclaveProvenance.Json
