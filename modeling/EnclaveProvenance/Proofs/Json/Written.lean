import EnclaveProvenance.Proofs.Encodings
import EnclaveProvenance.Proofs.Json.Grammar

/-!
JSON texts written without spaces, from strings that need no escapes: each is one value for the
scanner, and the slices of its parts are the parts it was written from.
-/

namespace EnclaveProvenance.Json

def PlainText (text : String) : Prop := (Bytes.ofText text).all isPlain = true

instance (text : String) : Decidable (PlainText text) :=
  inferInstanceAs (Decidable ((Bytes.ofText text).all isPlain = true))

def quoted (text : String) : Bytes := quote :: (Bytes.ofText text ++ [quote])

theorem plainText_ofList {characters : List Char}
    (plain : ∀ character ∈ characters, (String.utf8EncodeChar character).all isPlain = true) :
    PlainText (String.ofList characters) := by
  rw [PlainText, Bytes.ofText_ofList, List.all_flatMap, List.all_eq_true]
  exact plain

theorem plainText_hex (bytes : Bytes) : PlainText (Hex.encode bytes) := by
  have digits : ∀ value ∈ List.range 16,
      (String.utf8EncodeChar (Hex.digit value)).all isPlain = true := by decide
  refine plainText_ofList fun character member => ?_
  obtain ⟨octet, _, inside⟩ := List.mem_flatMap.1 member
  obtain ⟨high, highSmall, low, lowSmall, written⟩ := Hex.octet_eq octet
  rw [written] at inside
  rcases List.mem_cons.1 inside with rfl | others
  · exact digits high highSmall
  · rw [List.mem_singleton.1 others]
    exact digits low lowSmall

theorem plainText_base64 (bytes : Bytes) : PlainText (Base64.encode bytes) := by
  have symbols : ∀ value ∈ List.range 64,
      (String.utf8EncodeChar (Base64.symbol value)).all isPlain = true := by decide
  refine plainText_ofList fun character member => ?_
  rcases Base64.mem_encodeSymbols member with rfl | ⟨value, small, rfl⟩
  · decide
  · exact symbols value (List.mem_range.2 small)

theorem stringText_quoted {text : String} (plain : PlainText text) :
    StringText text (quoted text) :=
  .spelled (spells_plain plain)

theorem string?_quoted {text : String} (plain : PlainText text) : string? (quoted text) = some text :=
  (stringText_quoted plain).read

theorem isValue_quoted {text : String} (plain : PlainText text) : IsValue (quoted text) :=
  (stringText_quoted plain).isValue

def elementsText : List Bytes → Bytes
  | [] => [closeBracket]
  | [last] => last ++ [closeBracket]
  | first :: second :: rest => first ++ comma :: elementsText (second :: rest)

def listText (elements : List Bytes) : Bytes := openBracket :: elementsText elements

def membersText : List (String × Bytes) → Bytes
  | [] => [closeBrace]
  | [(key, value)] => quoted key ++ colon :: (value ++ [closeBrace])
  | (key, value) :: second :: rest =>
    quoted key ++ colon :: (value ++ comma :: membersText (second :: rest))

def objectText (members : List (String × Bytes)) : Bytes := openBrace :: membersText members

theorem elementsText_cons (first : Bytes) (rest : List Bytes) :
    ∃ tail, elementsText (first :: rest) = first ++ tail := by
  cases rest with
  | nil => exact ⟨_, rfl⟩
  | cons second others => exact ⟨_, rfl⟩

theorem skipSpace_elementsText {first : Bytes} (isValue : IsValue first) (rest : List Bytes)
    (after : Bytes) :
    skipSpace (elementsText (first :: rest) ++ after) = elementsText (first :: rest) ++ after := by
  obtain ⟨tail, split⟩ := elementsText_cons first rest
  rw [split, List.append_assoc]
  exact isValue.skipSpace_append _

theorem skipElements_elementsText {elements : List Bytes} (nonempty : elements ≠ [])
    (values : ∀ element ∈ elements, IsValue element) (fuel : Nat) (rest : Bytes)
    (enough : (elementsText elements).length ≤ fuel) :
    skipElements fuel (elementsText elements ++ rest) = some rest := by
  induction elements using elementsText.induct generalizing fuel with
  | case1 => exact absurd rfl nonempty
  | case2 last =>
    cases fuel with
    | zero => simp [elementsText] at enough
    | succ fuel =>
      have own := values last (by simp)
      rw [elementsText, List.length_append, List.length_singleton] at enough
      rw [elementsText, List.append_assoc, List.singleton_append]
      exact skipElements_close (own.skip fuel _ (by omega)) (skipSpace_cons (by decide))
  | case3 first second others ih =>
    cases fuel with
    | zero => simp [elementsText] at enough
    | succ fuel =>
      have own := values first (by simp)
      rw [elementsText, List.length_append, List.length_cons] at enough
      rw [elementsText, List.append_assoc, List.cons_append,
        skipElements_comma (own.skip fuel _ (by omega)) (skipSpace_cons (by decide)),
        skipSpace_elementsText (values second (by simp))]
      exact ih (by simp) (fun other member => values other (by simp [member])) fuel (by omega)

theorem elementSlices_elementsText {elements : List Bytes} (nonempty : elements ≠ [])
    (values : ∀ element ∈ elements, IsValue element) (fuel : Nat)
    (enough : (elementsText elements).length ≤ fuel) :
    elementSlices fuel (elementsText elements) = some elements := by
  induction elements using elementsText.induct generalizing fuel with
  | case1 => exact absurd rfl nonempty
  | case2 last =>
    cases fuel with
    | zero => simp [elementsText] at enough
    | succ fuel =>
      have own := values last (by simp)
      rw [elementsText, List.length_append, List.length_singleton] at enough
      exact elementSlices_close (own.skip fuel _ (by omega)) (skipSpace_cons (by decide))
  | case3 first second others ih =>
    cases fuel with
    | zero => simp [elementsText] at enough
    | succ fuel =>
      have own := values first (by simp)
      have next := skipSpace_elementsText (values second (by simp)) others []
      rw [List.append_nil] at next
      rw [elementsText, List.length_append, List.length_cons] at enough
      rw [elementsText,
        elementSlices_comma (own.skip fuel _ (by omega)) (skipSpace_cons (by decide)), next,
        ih (by simp) (fun other member => values other (by simp [member])) fuel (by omega)]
      rfl

theorem isValue_listText {elements : List Bytes} (values : ∀ element ∈ elements, IsValue element) :
    IsValue (listText elements) where
  start := ⟨openBracket, _, rfl, by decide, by decide⟩
  skip := by
    intro fuel rest enough
    cases fuel with
    | zero => simp [listText] at enough
    | succ fuel =>
      rw [listText, List.length_cons] at enough
      rw [listText, List.cons_append, skipValue, if_neg (by decide), if_pos rfl]
      cases elements with
      | nil => rfl
      | cons first others =>
        have own := values first (by simp)
        have inside := skipElements_elementsText (by simp) values fuel rest (by omega)
        obtain ⟨byte, tail, split, _, notClose⟩ := own.start
        obtain ⟨more, cut⟩ := elementsText_cons first others
        rw [skipSpace_elementsText own]
        rw [cut, split] at inside ⊢
        simp only [List.cons_append, notClose, if_false] at inside ⊢
        exact inside

theorem elements?_listText {elements : List Bytes} (values : ∀ element ∈ elements, IsValue element) :
    elements? (listText elements) = some elements := by
  rw [listText, elements?, if_pos rfl]
  cases elements with
  | nil => rfl
  | cons first others =>
    have own := values first (by simp)
    have next := skipSpace_elementsText own others []
    have inside := elementSlices_elementsText (by simp) values
      (openBracket :: elementsText (first :: others)).length (by simp)
    obtain ⟨byte, tail, split, _, notClose⟩ := own.start
    obtain ⟨more, cut⟩ := elementsText_cons first others
    rw [List.append_nil] at next
    rw [next]
    rw [cut, split] at inside ⊢
    simp only [List.cons_append, notClose, if_false] at inside ⊢
    exact inside

def AreMembers (members : List (String × Bytes)) : Prop :=
  ∀ member ∈ members, PlainText member.1 ∧ IsValue member.2

theorem areMembers_nil : AreMembers [] := by
  intro member absent
  cases absent

theorem areMembers_cons {key : String} {value : Bytes} {rest : List (String × Bytes)}
    (plain : PlainText key) (isValue : IsValue value) (others : AreMembers rest) :
    AreMembers ((key, value) :: rest) := by
  intro member belongs
  rcases List.mem_cons.1 belongs with rfl | later
  · exact ⟨plain, isValue⟩
  · exact others member later

theorem memberText_quoted {key : String} {value : Bytes} (plain : PlainText key)
    (isValue : IsValue value) :
    MemberText ⟨quoted key, value⟩ (quoted key ++ colon :: value) := by
  have written := MemberText.spaced (spells_plain plain) spacing_nil spacing_nil isValue spacing_nil
  simpa [quoted] using written

theorem membersText_written {members : List (String × Bytes)} (nonempty : members ≠ [])
    (written : AreMembers members) :
    MembersText (members.map fun member => ⟨quoted member.1, member.2⟩) (membersText members) := by
  induction members using membersText.induct with
  | case1 => exact absurd rfl nonempty
  | case2 key value =>
    have own := written (key, value) (by simp)
    have last := MembersText.last (memberText_quoted own.1 own.2)
    simpa [membersText] using last
  | case3 key value second others ih =>
    have own := written (key, value) (by simp)
    have later := ih (by simp) fun other member => written other (by simp [member])
    have more := MembersText.more (memberText_quoted own.1 own.2) spacing_nil later
    simpa [membersText] using more

theorem objectText_written {members : List (String × Bytes)} (written : AreMembers members) :
    ObjectText (members.map fun member => ⟨quoted member.1, member.2⟩) (objectText members) := by
  cases members with
  | nil => exact .empty spacing_nil
  | cons first rest => exact .members spacing_nil (membersText_written (by simp) written)

theorem isValue_objectText {members : List (String × Bytes)} (written : AreMembers members) :
    IsValue (objectText members) :=
  (objectText_written written).isValue

theorem members?_objectText {members : List (String × Bytes)} (written : AreMembers members) :
    members? (objectText members) =
      some (members.map fun member => ⟨quoted member.1, member.2⟩) :=
  (objectText_written written).members?

theorem document?_value {value : Bytes} (isValue : IsValue value) : document? value = some value := by
  have whole := document?_spaced spacing_nil isValue spacing_nil
  rwa [List.nil_append, List.append_nil] at whole

end EnclaveProvenance.Json
