import EnclaveProvenance.Json.Record
import EnclaveProvenance.Json.Value
import EnclaveProvenance.Proofs.Json.Written

/-!
What the readers of JSON make of written texts: strings, lists, records and values of any shape are
read as what they were written from.
-/

namespace EnclaveProvenance.Json

structure Reads {α : Type} (decode : Bytes → Option α) (text : Bytes) (value : α) : Prop where
  isValue : IsValue text
  read : decode text = some value

theorem reads_listText {α β : Type} {decode : Bytes → Option β} {items : List α}
    {text : α → Bytes} {value : α → β}
    (each : ∀ item ∈ items, Reads decode (text item) (value item)) :
    Reads (list? decode) (listText (items.map text)) (items.map value) := by
  have values : ∀ element ∈ items.map text, IsValue element := by
    intro element member
    obtain ⟨item, belongs, rfl⟩ := List.mem_map.1 member
    exact (each item belongs).isValue
  refine ⟨isValue_listText values, ?_⟩
  rw [list?, elements?_listText values, Option.bind_some]
  clear values
  induction items with
  | nil => rfl
  | cons item rest ih =>
    rw [List.map_cons, List.mapM_cons, (each item (by simp)).read,
      ih (fun other member => each other (by simp [member]))]
    rfl

theorem Reads.document {α : Type} {decode : Bytes → Option α} {text : Bytes} {value : α}
    (reads : Reads decode text value) : (document? text).bind decode = some value := by
  rw [document?_value reads.isValue]
  exact reads.read

theorem record?_of_members {α : Type} {value : Bytes} {slices : List Member}
    {members : List (String × Bytes)} (sliced : members? value = some slices)
    (named : slices.mapM (fun member => (string? member.key).map (·, member.value)) = some members)
    (names : List String)
    (distinct : ((members.filter fun member => names.contains member.1).map Prod.fst).Nodup)
    (decode : Fields → Option α) :
    record? names decode value =
      decode ⟨members.filter fun member => names.contains member.1, false⟩ := by
  rw [record?, Fields.read, sliced]
  simp only [Fields.ofMembers?, named, Option.bind_eq_bind, Option.bind_some]
  rw [if_pos ⟨distinct, by simp⟩]
  rfl

theorem record?_objectText {α : Type} {members : List (String × Bytes)}
    (written : AreMembers members) (distinct : (members.map Prod.fst).Nodup)
    (names : List String) (decode : Fields → Option α) :
    record? names decode (objectText members) =
      decode ⟨members.filter fun member => names.contains member.1, false⟩ := by
  have keys : (members.map fun member => (⟨quoted member.1, member.2⟩ : Member)).mapM
      (fun member => (string? member.key).map (·, member.value)) = some members := by
    clear distinct
    induction members with
    | nil => rfl
    | cons member rest ih =>
      rw [List.map_cons, List.mapM_cons, string?_quoted (written member (by simp)).1,
        ih (fun other belongs => written other (by simp [belongs]))]
      rfl
  have declared : ((members.filter fun member => names.contains member.1).map Prod.fst).Nodup :=
    distinct.sublist (List.filter_sublist.map _)
  exact record?_of_members (members?_objectText written) keys names declared decode

theorem reads_record {α : Type} {members : List (String × Bytes)} (written : AreMembers members)
    (distinct : (members.map Prod.fst).Nodup) {names : List String} {decode : Fields → Option α}
    {value : α}
    (read : decode ⟨members.filter fun member => names.contains member.1, false⟩ = some value) :
    Reads (record? names decode) (objectText members) value :=
  ⟨isValue_objectText written, (record?_objectText written distinct names decode).trans read⟩

theorem isNull_cons {first : UInt8} {rest : Bytes} (other : first ≠ 0x6E) :
    isNull (first :: rest) = false := by
  have null : Bytes.ofText "null" = [0x6E, 0x75, 0x6C, 0x6C] := by decide
  simp [isNull, null, other]

theorem bool?_cons {first : UInt8} {rest : Bytes} (notTrue : first ≠ 0x74) (notFalse : first ≠ 0x66) :
    bool? (first :: rest) = none := by
  have yes : Bytes.ofText "true" = [0x74, 0x72, 0x75, 0x65] := by decide
  have no : Bytes.ofText "false" = [0x66, 0x61, 0x6C, 0x73, 0x65] := by decide
  simp [bool?, yes, no, notTrue, notFalse]

namespace Value

variable {embedded : Bytes → Option Value} {depth : Nat} {rest : Bytes}

theorem readWith_quote :
    readWith embedded depth (quote :: rest) = (string? (quote :: rest)).map .string := by
  rw [readWith.eq_def, isNull_cons (by decide), bool?_cons (by decide) (by decide)]
  rfl

theorem readWith_bracket : readWith embedded (depth + 1) (openBracket :: rest) =
    (list? (readWith embedded depth) (openBracket :: rest)).map .list := by
  rw [readWith.eq_def, isNull_cons (by decide), bool?_cons (by decide) (by decide)]
  rfl

theorem readWith_brace : readWith embedded (depth + 1) (openBrace :: rest) =
    (members? (openBrace :: rest)).bind (ofMembers? embedded (readWith embedded depth)) := by
  rw [readWith.eq_def, isNull_cons (by decide), bool?_cons (by decide) (by decide)]
  rfl

theorem reads_quoted {text : String} (plain : PlainText text) (depth : Nat) :
    Reads (read depth) (quoted text) (.string text) := by
  refine ⟨isValue_quoted plain, ?_⟩
  have strings := string?_quoted plain
  rw [quoted] at strings ⊢
  rw [read, readWith_quote, strings, Option.map_some]

theorem reads_listText {α : Type} {depth : Nat} {items : List α} {text : α → Bytes}
    {value : α → Value} (each : ∀ item ∈ items, Reads (read depth) (text item) (value item)) :
    Reads (read (depth + 1)) (listText (items.map text)) (.list (items.map value)) := by
  obtain ⟨isValue, elements⟩ := Json.reads_listText each
  refine ⟨isValue, ?_⟩
  rw [listText] at elements ⊢
  have inner : readWith ofText? depth = read depth := rfl
  rw [read, readWith_bracket, inner, elements, Option.map_some]

theorem keyed?_eq_some_iff {inner : Bytes → Option Value} {member : Member}
    {entry : String × Value} : keyed? inner member = some entry ↔
      string? member.key = some entry.1 ∧ inner member.value = some entry.2 := by
  obtain ⟨name, own⟩ := entry
  unfold keyed?
  cases string? member.key <;> cases inner member.value <;> simp

inductive MembersRead (depth : Nat) : List (String × Bytes) → List (String × Value) → Prop
  | nil : MembersRead depth [] []
  | cons {key : String} {text : Bytes} {value : Value} {members : List (String × Bytes)}
      {contents : List (String × Value)} :
      PlainText key → Reads (read depth) text value → MembersRead depth members contents →
        MembersRead depth ((key, text) :: members) ((key, value) :: contents)

theorem MembersRead.areMembers {depth : Nat} {members : List (String × Bytes)}
    {contents : List (String × Value)} (each : MembersRead depth members contents) :
    AreMembers members := by
  induction each with
  | nil => exact areMembers_nil
  | cons plain reads _ ih => exact areMembers_cons plain reads.isValue ih

theorem MembersRead.mapM_eq_some {depth : Nat} {members : List (String × Bytes)}
    {contents : List (String × Value)} (each : MembersRead depth members contents) :
    (members.map fun member => (⟨quoted member.1, member.2⟩ : Member)).mapM (keyed? (read depth)) =
      some contents := by
  induction each with
  | nil => rfl
  | cons plain reads _ ih =>
    rw [List.map_cons, List.mapM_cons, ih, keyed?, string?_quoted plain, reads.read]
    rfl

/-- The first key must not be the one that marks an embedded text. -/
theorem reads_objectText {depth : Nat} {members : List (String × Bytes)}
    {contents : List (String × Value)} (each : MembersRead depth members contents)
    (plain : ∀ member ∈ members.head?, member.1 ≠ embeddingKey) :
    Reads (read (depth + 1)) (objectText members) (.object contents) := by
  refine ⟨isValue_objectText each.areMembers, ?_⟩
  have slices := members?_objectText each.areMembers
  have unmarked : embeds (members.map fun member => ⟨quoted member.1, member.2⟩) = false := by
    cases each with
    | nil => rfl
    | cons key _ _ =>
      have other := plain _ rfl
      simp [embeds, string?_quoted key, other]
  rw [objectText] at slices ⊢
  rw [read, readWith_brace, slices, Option.bind_some, ofMembers?, if_neg (by simp [unmarked])]
  exact congrArg (Option.map object) each.mapM_eq_some

end Value

end EnclaveProvenance.Json
