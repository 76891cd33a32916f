import EnclaveProvenance.Proofs.Json.Tokens

/-!
The grammar of JSON values (RFC 8259) over octets, and the scanner's place in it: the scanner skips a
value with all that is nested in it whatever delimits it, skips nothing else, and cuts lists and
objects into the very slices that they are written from.
-/

namespace EnclaveProvenance.Json

inductive ItemsText {α : Type} (item : α → Bytes → Prop) (close : UInt8) : List α → Bytes → Prop
  | last {member : α} {own after : Bytes} :
      item member own → Spacing after → ItemsText item close [member] (own ++ (after ++ [close]))
  | more {member : α} {members : List α} {own after lead later : Bytes} :
      item member own → Spacing after → Spacing lead → ItemsText item close members later →
      ItemsText item close (member :: members) (own ++ (after ++ comma :: (lead ++ later)))

inductive EnclosedText {α : Type} (item : α → Bytes → Prop) (opening close : UInt8) :
    List α → Bytes → Prop
  | empty {lead : Bytes} :
      Spacing lead → EnclosedText item opening close [] (opening :: (lead ++ [close]))
  | items {members : List α} {lead own : Bytes} :
      Spacing lead → ItemsText item close members own →
      EnclosedText item opening close members (opening :: (lead ++ own))

inductive EntryText : Member → Bytes → Prop
  | spaced {tail between before value : Bytes} :
      StringTail tail → Spacing between → Spacing before →
      EntryText ⟨quote :: tail, value⟩ (quote :: tail ++ (between ++ colon :: (before ++ value)))

abbrev BracketedText : List Bytes → Bytes → Prop := EnclosedText Eq openBracket closeBracket

abbrev BracedText : List Member → Bytes → Prop := EnclosedText EntryText openBrace closeBrace

/-- The texts of single values. Neither the names in an object nor the encoding of a string matter. -/
inductive ValueText : Bytes → Prop
  | word {name : String} : name ∈ ["null", "true", "false"] → ValueText (Bytes.ofText name)
  | number {text : Bytes} : NumberText text → ValueText text
  | string {tail : Bytes} : StringTail tail → ValueText (quote :: tail)
  | list {slices : List Bytes} {text : Bytes} :
      BracketedText slices text → (∀ slice ∈ slices, ValueText slice) → ValueText text
  | object {members : List Member} {text : Bytes} :
      BracedText members text → (∀ member ∈ members, ValueText member.value) → ValueText text

def Delimited (rest : Bytes) : Prop :=
  ∀ octet ∈ rest.head?, isSpace octet = true ∨ octet = comma ∨ octet = closeBracket ∨ octet = closeBrace

theorem Delimited.endsNumber {rest : Bytes} (delimited : Delimited rest) : EndsNumber rest := by
  intro octet first
  have kinds := delimited octet first
  simp only [isSpace, Bool.or_eq_true, beq_iff_eq] at kinds
  rcases kinds with (((rfl | rfl) | rfl) | rfl) | rfl | rfl | rfl <;> decide

theorem delimited_mark {space : Bytes} {mark : UInt8} (spacing : Spacing space)
    (known : mark = comma ∨ mark = closeBracket ∨ mark = closeBrace) (rest : Bytes) :
    Delimited (space ++ mark :: rest) := by
  cases space with
  | nil =>
    rintro _ ⟨⟩
    exact .inr known
  | cons octet others =>
    rintro _ ⟨⟩
    exact .inl (spacing octet List.mem_cons_self)

abbrev Opens (octet : UInt8) : Prop :=
  isSpace octet = false ∧ octet ≠ closeBracket ∧ octet ≠ closeBrace

abbrev OpensScalar (octet : UInt8) : Prop :=
  Opens octet ∧ octet ≠ quote ∧ octet ≠ openBracket ∧ octet ≠ openBrace

theorem opensScalar_of_digit : ∀ value ∈ List.range 256,
    UInt8.ofNat value = 0x2D ∨ isDigit (UInt8.ofNat value) = true →
      OpensScalar (UInt8.ofNat value) := by decide +kernel

theorem skipSpace_opens {text : Bytes} (starts : StartsIn Opens text) : skipSpace text = text := by
  obtain ⟨first, rest, rfl, solid, -⟩ := starts
  exact skipSpace_cons solid

theorem skipSpace_mark {space rest : Bytes} {mark : UInt8} (spacing : Spacing space)
    (solid : isSpace mark = false) : skipSpace (space ++ mark :: rest) = mark :: rest :=
  (skipSpace_spacing spacing _).trans (skipSpace_cons solid)

theorem ItemsText.start {α : Type} {item : α → Bytes → Prop} {close : UInt8} {members : List α}
    {text : Bytes} (items : ItemsText item close members text)
    (starts : ∀ member ∈ members, ∀ own, item member own → StartsIn Opens own) :
    StartsIn Opens text := by
  cases items with
  | last own _ => exact (starts _ (by simp) _ own).append _
  | more own _ _ _ => exact (starts _ (by simp) _ own).append _

/-- A text that is skipped as one value in front of what delimits it. -/
structure SkipsWhole (value : Bytes) : Prop where
  start : StartsIn Opens value
  skip : ∀ fuel rest, Delimited rest → value.length ≤ fuel → skipValue fuel (value ++ rest) = some rest

theorem ItemsText.elements_start {slices : List Bytes} {close : UInt8} {text : Bytes}
    (items : ItemsText Eq close slices text) (wholes : ∀ slice ∈ slices, SkipsWhole slice) :
    StartsIn Opens text :=
  items.start fun slice member _ same => same ▸ (wholes slice member).start

theorem skipElements_items {slices : List Bytes} {own : Bytes}
    (items : ItemsText Eq closeBracket slices own) (wholes : ∀ slice ∈ slices, SkipsWhole slice)
    {fuel : Nat} (enough : own.length ≤ fuel) (rest : Bytes) :
    skipElements fuel (own ++ rest) = some rest := by
  induction items generalizing fuel with
  | @last value own after same spacing =>
    subst same
    cases fuel with
    | zero => simp at enough
    | succ fuel =>
      simp only [List.length_append, List.length_singleton] at enough
      have skipped := (wholes value (by simp)).skip fuel _
        (delimited_mark spacing (.inr (.inl rfl)) rest) (by omega)
      simp only [List.append_assoc, List.singleton_append]
      exact skipElements_close skipped (skipSpace_mark spacing (by decide))
  | @more value values own after lead later same spacing leadSpacing items ih =>
    subst same
    have others : ∀ slice ∈ values, SkipsWhole slice := fun slice member => wholes slice (by simp [member])
    cases fuel with
    | zero => simp at enough
    | succ fuel =>
      simp only [List.length_append, List.length_cons] at enough
      have skipped := (wholes value (by simp)).skip fuel _
        (delimited_mark spacing (.inl rfl) (lead ++ (later ++ rest))) (by omega)
      simp only [List.append_assoc, List.cons_append]
      rw [skipElements_comma skipped (skipSpace_mark spacing (by decide)), skipSpace_spacing leadSpacing,
        skipSpace_opens ((items.elements_start others).append rest)]
      exact ih others (by omega)

theorem elementSlices_items {slices : List Bytes} {own : Bytes}
    (items : ItemsText Eq closeBracket slices own) (wholes : ∀ slice ∈ slices, SkipsWhole slice)
    {fuel : Nat} (enough : own.length ≤ fuel) : elementSlices fuel own = some slices := by
  induction items generalizing fuel with
  | @last value own after same spacing =>
    subst same
    cases fuel with
    | zero => simp at enough
    | succ fuel =>
      simp only [List.length_append, List.length_singleton] at enough
      have skipped := (wholes value (by simp)).skip fuel _
        (delimited_mark spacing (.inr (.inl rfl)) []) (by omega)
      exact elementSlices_close skipped (skipSpace_mark spacing (by decide))
  | @more value values own after lead later same spacing leadSpacing items ih =>
    subst same
    have others : ∀ slice ∈ values, SkipsWhole slice := fun slice member => wholes slice (by simp [member])
    cases fuel with
    | zero => simp at enough
    | succ fuel =>
      simp only [List.length_append, List.length_cons] at enough
      have skipped := (wholes value (by simp)).skip fuel _
        (delimited_mark spacing (.inl rfl) (lead ++ later)) (by omega)
      rw [elementSlices_comma skipped (skipSpace_mark spacing (by decide)), skipSpace_spacing leadSpacing,
        skipSpace_opens (items.elements_start others), ih others (by omega)]
      rfl

theorem EntryText.start {member : Member} {own : Bytes} (entry : EntryText member own) :
    StartsIn Opens own := by
  obtain ⟨_⟩ := entry
  exact ⟨quote, _, rfl, by decide, by decide, by decide⟩

theorem ItemsText.entries_start {members : List Member} {close : UInt8} {text : Bytes}
    (items : ItemsText EntryText close members text) : StartsIn Opens text :=
  items.start fun _ _ _ entry => entry.start

theorem EntryText.skipKey {member : Member} {own : Bytes} (entry : EntryText member own)
    (whole : SkipsWhole member.value) (rest : Bytes) :
    Json.skipKey (own ++ rest) = some (member.value ++ rest) := by
  obtain @⟨tail, between, before, value, string, betweenSpacing, beforeSpacing⟩ := entry
  have solid : ∀ octet ∈ (value ++ rest).head?, isSpace octet = false := by
    obtain ⟨first, others, split, opens⟩ := whole.start.append rest
    rw [split]
    rintro _ ⟨⟩
    exact opens.1
  have skipped := skipKey_append string betweenSpacing beforeSpacing solid
  simpa only [List.append_assoc, List.cons_append] using skipped

theorem EntryText.keySlice {member : Member} {own : Bytes} (entry : EntryText member own)
    (rest : Bytes) : Json.keySlice (own ++ rest) = member.key := by
  obtain ⟨string, -, -⟩ := entry
  rw [List.append_assoc]
  exact keySlice_append string _

theorem EntryText.length {member : Member} {own : Bytes} (entry : EntryText member own) :
    member.value.length < own.length := by
  obtain ⟨_, _, _⟩ := entry
  simp only [List.length_append, List.length_cons]
  omega

theorem skipMembers_items {members : List Member} {text : Bytes}
    (items : ItemsText EntryText closeBrace members text)
    (wholes : ∀ member ∈ members, SkipsWhole member.value) {fuel : Nat} (enough : text.length ≤ fuel)
    (rest : Bytes) : skipMembers fuel (text ++ rest) = some rest := by
  induction items generalizing fuel with
  | @last member own after entry spacing =>
    have whole := wholes member (by simp)
    have short := entry.length
    cases fuel with
    | zero => simp at enough
    | succ fuel =>
      simp only [List.length_append, List.length_singleton] at enough
      have skipped := whole.skip fuel _ (delimited_mark spacing (.inr (.inr rfl)) rest) (by omega)
      simp only [List.append_assoc, List.singleton_append]
      exact skipMembers_close (entry.skipKey whole _) skipped (skipSpace_mark spacing (by decide))
  | @more member members own after lead later entry spacing leadSpacing items ih =>
    have whole := wholes member (by simp)
    have short := entry.length
    cases fuel with
    | zero => simp at enough
    | succ fuel =>
      simp only [List.length_append, List.length_cons] at enough
      have skipped := whole.skip fuel _
        (delimited_mark spacing (.inl rfl) (lead ++ (later ++ rest))) (by omega)
      simp only [List.append_assoc, List.cons_append]
      rw [skipMembers_comma (entry.skipKey whole _) skipped (skipSpace_mark spacing (by decide)),
        skipSpace_spacing leadSpacing, skipSpace_opens (items.entries_start.append rest)]
      exact ih (fun other belongs => wholes other (by simp [belongs])) (by omega)

theorem memberSlices_items {members : List Member} {text : Bytes}
    (items : ItemsText EntryText closeBrace members text)
    (wholes : ∀ member ∈ members, SkipsWhole member.value) {fuel : Nat}
    (enough : text.length ≤ fuel) : memberSlices fuel text = some members := by
  induction items generalizing fuel with
  | @last member own after entry spacing =>
    have whole := wholes member (by simp)
    have short := entry.length
    cases fuel with
    | zero => simp at enough
    | succ fuel =>
      simp only [List.length_append, List.length_singleton] at enough
      have skipped := whole.skip fuel _ (delimited_mark spacing (.inr (.inr rfl)) []) (by omega)
      rw [memberSlices_close (entry.skipKey whole _) skipped (skipSpace_mark spacing (by decide)),
        entry.keySlice]
  | @more member members own after lead later entry spacing leadSpacing items ih =>
    have whole := wholes member (by simp)
    have short := entry.length
    cases fuel with
    | zero => simp at enough
    | succ fuel =>
      simp only [List.length_append, List.length_cons] at enough
      have skipped := whole.skip fuel _ (delimited_mark spacing (.inl rfl) (lead ++ later)) (by omega)
      rw [memberSlices_comma (entry.skipKey whole _) skipped (skipSpace_mark spacing (by decide)),
        skipSpace_spacing leadSpacing, skipSpace_opens items.entries_start, entry.keySlice,
        ih (fun other belongs => wholes other (by simp [belongs])) (by omega)]
      rfl

theorem ofText_words : Bytes.ofText "null" = [0x6E, 0x75, 0x6C, 0x6C] ∧
    Bytes.ofText "true" = [0x74, 0x72, 0x75, 0x65] ∧
    Bytes.ofText "false" = [0x66, 0x61, 0x6C, 0x73, 0x65] := by decide

theorem skipScalar_number {first : UInt8} {rest : Bytes} (digit : first = 0x2D ∨ isDigit first = true) :
    skipScalar (first :: rest) = skipNumber (first :: rest) := by
  have other {mark : UInt8} (letter : mark ≠ 0x2D ∧ isDigit mark = false) (tail : Bytes) :
      (mark :: tail).isPrefixOf? (first :: rest) = none := by
    refine Option.eq_none_iff_forall_ne_some.2 fun after found => ?_
    obtain ⟨rfl, -⟩ := List.cons.inj (Text.isPrefixOf?_eq_some_iff.1 found)
    rcases digit with same | digit
    · exact letter.1 same
    · rw [letter.2] at digit
      cases digit
  obtain ⟨null, yes, no⟩ := ofText_words
  rw [skipScalar, null, yes, no, other (by decide), other (by decide), other (by decide)]

theorem skipScalar_word {name : String} (word : name ∈ ["null", "true", "false"]) (rest : Bytes) :
    skipScalar (Bytes.ofText name ++ rest) = some rest := by
  obtain ⟨null, yes, no⟩ := ofText_words
  simp only [List.mem_cons, List.not_mem_nil, or_false] at word
  rw [skipScalar, null, yes, no]
  rcases word with rfl | rfl | rfl
  · rw [null]
    rfl
  · rw [yes]
    rfl
  · rw [no]
    rfl

theorem value_of_skipScalar {text rest : Bytes} (skipped : skipScalar text = some rest) :
    ∃ value, ValueText value ∧ text = value ++ rest := by
  unfold skipScalar at skipped
  split at skipped
  · next null =>
    obtain rfl := Option.some.inj skipped
    exact ⟨_, .word (by simp), Text.isPrefixOf?_eq_some_iff.1 null⟩
  · split at skipped
    · next yes =>
      obtain rfl := Option.some.inj skipped
      exact ⟨_, .word (by simp), Text.isPrefixOf?_eq_some_iff.1 yes⟩
    · split at skipped
      · next no =>
        obtain rfl := Option.some.inj skipped
        exact ⟨_, .word (by simp), Text.isPrefixOf?_eq_some_iff.1 no⟩
      · obtain ⟨number, own, split⟩ := number_of_skipNumber skipped
        exact ⟨number, .number own, split⟩

theorem skipsWhole_of_scalar {value : Bytes} (start : StartsIn OpensScalar value)
    (skipped : ∀ rest, Delimited rest → skipScalar (value ++ rest) = some rest) :
    SkipsWhole value := by
  obtain ⟨first, others, rfl, opens, notQuote, notBracket, notBrace⟩ := start
  refine ⟨⟨first, others, rfl, opens⟩, fun fuel rest delimited enough => ?_⟩
  cases fuel with
  | zero => simp at enough
  | succ fuel =>
    rw [List.cons_append, skipValue, if_neg notQuote, if_neg notBracket, if_neg notBrace]
    exact skipped rest delimited

theorem word_start {name : String} (word : name ∈ ["null", "true", "false"]) :
    StartsIn OpensScalar (Bytes.ofText name) := by
  obtain ⟨null, yes, no⟩ := ofText_words
  simp only [List.mem_cons, List.not_mem_nil, or_false] at word
  rcases word with rfl | rfl | rfl
  · rw [null]
    exact ⟨0x6E, _, rfl, by decide⟩
  · rw [yes]
    exact ⟨0x74, _, rfl, by decide⟩
  · rw [no]
    exact ⟨0x66, _, rfl, by decide⟩

theorem NumberText.scalar_start {text : Bytes} (number : NumberText text) :
    StartsIn OpensScalar text := by
  obtain ⟨first, others, split, digit⟩ := number.start
  have opens := opensScalar_of_digit first.toNat (List.mem_range.2 first.toNat_lt)
  rw [UInt8.ofNat_toNat] at opens
  exact ⟨first, others, split, opens digit⟩

theorem NumberText.skipsWhole {text : Bytes} (number : NumberText text) : SkipsWhole text := by
  refine skipsWhole_of_scalar number.scalar_start fun rest delimited => ?_
  obtain ⟨first, others, rfl, digit⟩ := number.start
  rw [List.cons_append, skipScalar_number digit]
  exact skipNumber_append number delimited.endsNumber

theorem EnclosedText.start {α : Type} {item : α → Bytes → Prop} {opening close : UInt8}
    {members : List α} {text : Bytes} (enclosed : EnclosedText item opening close members text) :
    ∃ rest, text = opening :: rest := by
  cases enclosed <;> exact ⟨_, rfl⟩

theorem skipsWhole_bracketed {slices : List Bytes} {text : Bytes}
    (bracketed : BracketedText slices text) (wholes : ∀ slice ∈ slices, SkipsWhole slice) :
    SkipsWhole text := by
  obtain ⟨others, start⟩ := bracketed.start
  refine ⟨⟨openBracket, others, start, by decide⟩, fun fuel rest _ enough => ?_⟩
  cases fuel with
  | zero =>
    rw [start] at enough
    simp at enough
  | succ fuel =>
    cases bracketed with
    | empty spacing =>
      rw [List.cons_append, skipValue, if_neg (by decide), if_pos rfl, List.append_assoc,
        skipSpace_spacing spacing]
      rfl
    | @items _ lead own spacing items =>
      rw [List.length_cons, List.length_append] at enough
      have inside := skipElements_items items wholes (show own.length ≤ fuel by omega) rest
      have starts := (items.elements_start wholes).append rest
      rw [List.cons_append, skipValue, if_neg (by decide), if_pos rfl, List.append_assoc,
        skipSpace_spacing spacing, skipSpace_opens starts]
      obtain ⟨first, following, split, opens⟩ := starts
      rw [split] at inside ⊢
      exact (if_neg opens.2.1).trans inside

theorem skipsWhole_braced {members : List Member} {text : Bytes} (braced : BracedText members text)
    (wholes : ∀ member ∈ members, SkipsWhole member.value) : SkipsWhole text := by
  obtain ⟨others, start⟩ := braced.start
  refine ⟨⟨openBrace, others, start, by decide⟩, fun fuel rest _ enough => ?_⟩
  cases fuel with
  | zero =>
    rw [start] at enough
    simp at enough
  | succ fuel =>
    cases braced with
    | empty spacing =>
      rw [List.cons_append, skipValue, if_neg (by decide), if_neg (by decide), if_pos rfl,
        List.append_assoc, skipSpace_spacing spacing]
      rfl
    | @items _ lead own spacing items =>
      rw [List.length_cons, List.length_append] at enough
      have inside := skipMembers_items items wholes (show own.length ≤ fuel by omega) rest
      have starts := items.entries_start.append rest
      rw [List.cons_append, skipValue, if_neg (by decide), if_neg (by decide), if_pos rfl,
        List.append_assoc, skipSpace_spacing spacing, skipSpace_opens starts]
      obtain ⟨first, following, split, opens⟩ := starts
      rw [split] at inside ⊢
      exact (if_neg opens.2.2).trans inside

theorem ValueText.skipsWhole {value : Bytes} (text : ValueText value) : SkipsWhole value := by
  induction text with
  | word word => exact skipsWhole_of_scalar (word_start word) fun rest _ => skipScalar_word word rest
  | number number => exact number.skipsWhole
  | @string tail string =>
    refine ⟨⟨quote, tail, rfl, by decide⟩, fun fuel rest _ enough => ?_⟩
    cases fuel with
    | zero => simp at enough
    | succ fuel => rw [List.cons_append, skipValue, if_pos rfl, skipString_tail string]
  | list bracketed _ wholes => exact skipsWhole_bracketed bracketed wholes
  | object braced _ wholes => exact skipsWhole_braced braced wholes

theorem elements?_bracketed {slices : List Bytes} {text : Bytes}
    (bracketed : BracketedText slices text) (wholes : ∀ slice ∈ slices, SkipsWhole slice) :
    elements? text = some slices := by
  cases bracketed with
  | empty spacing =>
    rw [elements?, if_pos rfl, skipSpace_spacing spacing]
    rfl
  | @items _ lead own spacing items =>
    have inside := elementSlices_items items wholes
      (show own.length ≤ (openBracket :: (lead ++ own)).length by simp; omega)
    have starts := items.elements_start wholes
    rw [elements?, if_pos rfl, skipSpace_spacing spacing, skipSpace_opens starts]
    obtain ⟨first, following, split, opens⟩ := starts
    rw [split] at inside ⊢
    exact (if_neg opens.2.1).trans inside

theorem members?_braced {members : List Member} {text : Bytes} (braced : BracedText members text)
    (wholes : ∀ member ∈ members, SkipsWhole member.value) : members? text = some members := by
  cases braced with
  | empty spacing =>
    rw [members?, if_pos rfl, skipSpace_spacing spacing]
    rfl
  | @items _ lead own spacing items =>
    have inside := memberSlices_items items wholes
      (show own.length ≤ (openBrace :: (lead ++ own)).length by simp; omega)
    have starts := items.entries_start
    rw [members?, if_pos rfl, skipSpace_spacing spacing, skipSpace_opens starts]
    obtain ⟨first, following, split, opens⟩ := starts
    rw [split] at inside ⊢
    exact (if_neg opens.2.2).trans inside

theorem elements?_other {text : Bytes} (start : StartsIn (· ≠ openBracket) text) :
    elements? text = none := by
  obtain ⟨first, rest, rfl, other⟩ := start
  rw [elements?, if_neg other]

theorem members?_other {text : Bytes} (start : StartsIn (· ≠ openBrace) text) :
    members? text = none := by
  obtain ⟨first, rest, rfl, other⟩ := start
  rw [members?, if_neg other]

theorem ValueText.kinds {text : Bytes} (value : ValueText text) :
    (∃ slices, BracketedText slices text ∧ ∀ slice ∈ slices, ValueText slice) ∨
      (∃ members, BracedText members text ∧ ∀ member ∈ members, ValueText member.value) ∨
      StartsIn (fun octet => octet ≠ openBracket ∧ octet ≠ openBrace) text := by
  cases value with
  | word word =>
    obtain ⟨first, rest, split, opens⟩ := word_start word
    exact .inr (.inr ⟨first, rest, split, opens.2.2⟩)
  | number number =>
    obtain ⟨first, rest, split, opens⟩ := number.scalar_start
    exact .inr (.inr ⟨first, rest, split, opens.2.2⟩)
  | string => exact .inr (.inr ⟨quote, _, rfl, by decide⟩)
  | list bracketed values => exact .inl ⟨_, bracketed, values⟩
  | object braced values => exact .inr (.inl ⟨_, braced, values⟩)

theorem ValueText.elements?_eq_some_iff {text : Bytes} {slices : List Bytes} (value : ValueText text) :
    elements? text = some slices ↔ BracketedText slices text ∧ ∀ slice ∈ slices, ValueText slice := by
  have whole {slices : List Bytes} (bracketed : BracketedText slices text)
      (values : ∀ slice ∈ slices, ValueText slice) : elements? text = some slices :=
    elements?_bracketed bracketed fun slice member => (values slice member).skipsWhole
  constructor
  · intro cut
    obtain ⟨others, bracketed, values⟩ | ⟨members, braced, -⟩ | ⟨first, rest, split, other, -⟩ := value.kinds
    · obtain rfl := Option.some.inj (cut.symm.trans (whole bracketed values))
      exact ⟨bracketed, values⟩
    · obtain ⟨rest, split⟩ := braced.start
      rw [elements?_other ⟨openBrace, rest, split, by decide⟩] at cut
      cases cut
    · rw [elements?_other ⟨first, rest, split, other⟩] at cut
      cases cut
  · rintro ⟨bracketed, values⟩
    exact whole bracketed values

theorem ValueText.members?_eq_some_iff {text : Bytes} {members : List Member}
    (value : ValueText text) : members? text = some members ↔
      BracedText members text ∧ ∀ member ∈ members, ValueText member.value := by
  have whole {members : List Member} (braced : BracedText members text)
      (values : ∀ member ∈ members, ValueText member.value) : members? text = some members :=
    members?_braced braced fun member belongs => (values member belongs).skipsWhole
  constructor
  · intro cut
    obtain ⟨slices, bracketed, -⟩ | ⟨others, braced, values⟩ | ⟨first, rest, split, -, other⟩ := value.kinds
    · obtain ⟨rest, split⟩ := bracketed.start
      rw [members?_other ⟨openBracket, rest, split, by decide⟩] at cut
      cases cut
    · obtain rfl := Option.some.inj (cut.symm.trans (whole braced values))
      exact ⟨braced, values⟩
    · rw [members?_other ⟨first, rest, split, other⟩] at cut
      cases cut
  · rintro ⟨braced, values⟩
    exact whole braced values

/-- What the scanner skips at a fuel is a value, or the elements or members of one. -/
structure SkipsOnly (fuel : Nat) : Prop where
  value : ∀ text rest, skipValue fuel text = some rest → ∃ value, ValueText value ∧ text = value ++ rest
  elements : ∀ text rest, skipElements fuel text = some rest → ∃ slices own,
    ItemsText Eq closeBracket slices own ∧ (∀ slice ∈ slices, ValueText slice) ∧ text = own ++ rest
  members : ∀ text rest, skipMembers fuel text = some rest → ∃ members own,
    ItemsText EntryText closeBrace members own ∧ (∀ member ∈ members, ValueText member.value) ∧
      text = own ++ rest

theorem SkipsOnly.zero : SkipsOnly 0 := ⟨nofun, nofun, nofun⟩

theorem SkipsOnly.elements_succ {fuel : Nat} (only : SkipsOnly fuel) {text rest : Bytes}
    (skipped : skipElements (fuel + 1) text = some rest) : ∃ slices own,
      ItemsText Eq closeBracket slices own ∧ (∀ slice ∈ slices, ValueText slice) ∧
        text = own ++ rest := by
  unfold skipElements at skipped
  split at skipped
  · cases skipped
  · next after first =>
    obtain ⟨value, own, rfl⟩ := only.value text after first
    split at skipped
    · cases skipped
    · next mark following marked =>
      obtain ⟨space, spacing, rfl⟩ := spaced_mark marked
      split at skipped
      · next close =>
        obtain rfl := Option.some.inj skipped
        refine ⟨[value], _, .last rfl spacing, by simpa using own, ?_⟩
        rw [close]
        simp only [List.append_assoc, List.singleton_append]
      · next other =>
        rw [Option.ite_none_right_eq_some] at skipped
        obtain ⟨rfl, skipped⟩ := skipped
        obtain ⟨slices, later, items, values, split⟩ := only.elements _ rest skipped
        obtain ⟨lead, leadSpacing, leadSplit⟩ := spaced_rest following
        refine ⟨value :: slices, _, .more rfl spacing leadSpacing items,
          List.forall_mem_cons.2 ⟨own, values⟩, ?_⟩
        rw [leadSplit, split]
        simp only [List.append_assoc, List.cons_append]

theorem SkipsOnly.members_succ {fuel : Nat} (only : SkipsOnly fuel) {text rest : Bytes}
    (skipped : skipMembers (fuel + 1) text = some rest) : ∃ members own,
      ItemsText EntryText closeBrace members own ∧ (∀ member ∈ members, ValueText member.value) ∧
        text = own ++ rest := by
  unfold skipMembers at skipped
  split at skipped
  · cases skipped
  · next start keyed =>
    obtain ⟨tail, between, before, string, betweenSpacing, beforeSpacing, rfl⟩ := key_of_skipKey keyed
    split at skipped
    · cases skipped
    · next after first =>
      obtain ⟨value, own, rfl⟩ := only.value start after first
      have entry : EntryText ⟨quote :: tail, value⟩ _ := .spaced string betweenSpacing beforeSpacing
      split at skipped
      · cases skipped
      · next mark following marked =>
        obtain ⟨space, spacing, rfl⟩ := spaced_mark marked
        split at skipped
        · next close =>
          obtain rfl := Option.some.inj skipped
          refine ⟨_, _, .last entry spacing, by simpa using own, ?_⟩
          rw [close]
          simp only [List.append_assoc, List.cons_append, List.nil_append]
        · next other =>
          rw [Option.ite_none_right_eq_some] at skipped
          obtain ⟨rfl, skipped⟩ := skipped
          obtain ⟨members, later, items, values, split⟩ := only.members _ rest skipped
          obtain ⟨lead, leadSpacing, leadSplit⟩ := spaced_rest following
          refine ⟨_, _, .more entry spacing leadSpacing items,
            List.forall_mem_cons.2 ⟨own, values⟩, ?_⟩
          rw [leadSplit, split]
          simp only [List.append_assoc, List.cons_append]

theorem SkipsOnly.value_succ {fuel : Nat} (only : SkipsOnly fuel) {text rest : Bytes}
    (skipped : skipValue (fuel + 1) text = some rest) :
    ∃ value, ValueText value ∧ text = value ++ rest := by
  unfold skipValue at skipped
  split at skipped
  · cases skipped
  · next first others =>
    split at skipped
    · next quoted =>
      obtain ⟨tail, string, rfl⟩ := tail_of_skipString skipped
      exact ⟨_, .string string, by rw [quoted]; rfl⟩
    · split at skipped
      · next bracket =>
        obtain rfl := bracket
        split at skipped
        · cases skipped
        · next head following marked =>
          obtain ⟨space, spacing, rfl⟩ := spaced_mark marked
          split at skipped
          · next close =>
            obtain rfl := Option.some.inj skipped
            refine ⟨_, .list (.empty spacing) nofun, ?_⟩
            rw [close]
            simp only [List.append_assoc, List.cons_append, List.nil_append]
          · obtain ⟨slices, own, items, values, split⟩ := only.elements _ rest skipped
            refine ⟨_, .list (.items spacing items) values, ?_⟩
            rw [split]
            simp only [List.append_assoc, List.cons_append]
      · split at skipped
        · next brace =>
          obtain rfl := brace
          split at skipped
          · cases skipped
          · next head following marked =>
            obtain ⟨space, spacing, rfl⟩ := spaced_mark marked
            split at skipped
            · next close =>
              obtain rfl := Option.some.inj skipped
              refine ⟨_, .object (.empty spacing) nofun, ?_⟩
              rw [close]
              simp only [List.append_assoc, List.cons_append, List.nil_append]
            · obtain ⟨members, own, items, values, split⟩ := only.members _ rest skipped
              refine ⟨_, .object (.items spacing items) values, ?_⟩
              rw [split]
              simp only [List.append_assoc, List.cons_append]
        · exact value_of_skipScalar skipped

theorem skipsOnly (fuel : Nat) : SkipsOnly fuel := by
  -- The three scanners call one another with less fuel, so one induction is about all of them.
  induction fuel with
  | zero => exact .zero
  | succ fuel only =>
    exact ⟨fun _ _ => only.value_succ, fun _ _ => only.elements_succ, fun _ _ => only.members_succ⟩

/-- The one value in a text, with any space around it. -/
theorem document?_eq_some_iff {text value : Bytes} :
    document? text = some value ↔ ∃ before after, Spacing before ∧ Spacing after ∧
      ValueText value ∧ text = before ++ (value ++ after) := by
  constructor
  · intro found
    simp only [document?] at found
    split at found
    · cases found
    · next rest skipped =>
      rw [Option.ite_none_right_eq_some, Option.some.injEq] at found
      obtain ⟨ended, rfl⟩ := found
      obtain ⟨before, beforeSpacing, split⟩ := spaced_rest text
      obtain ⟨own, valueText, start⟩ := (skipsOnly _).value _ rest skipped
      obtain ⟨after, afterSpacing, rest_eq⟩ := spaced_rest rest
      rw [List.isEmpty_iff.1 ended, List.append_nil] at rest_eq
      obtain rfl := rest_eq
      rw [start, Bytes.before_append]
      exact ⟨before, rest, beforeSpacing, afterSpacing, valueText, split.trans (by rw [start])⟩
  · rintro ⟨before, after, beforeSpacing, afterSpacing, valueText, rfl⟩
    have whole := valueText.skipsWhole
    have delimited : Delimited after := by
      intro octet first
      exact .inl (afterSpacing octet (List.mem_of_mem_head? first))
    have skipped := whole.skip (value ++ after).length after delimited (by simp)
    have ended : skipSpace after = [] := by
      rw [skipSpace_eq_iff (by simp)]
      exact ⟨after, afterSpacing, (List.append_nil after).symm⟩
    simp only [document?, skipSpace_spacing beforeSpacing, skipSpace_opens (whole.start.append after),
      skipped, ended, List.isEmpty_nil, if_true, Bytes.before_append]

theorem ItemsText.last_octet {α : Type} {item : α → Bytes → Prop} {close : UInt8} {members : List α}
    {text : Bytes} (items : ItemsText item close members text) : EndsIn (· = close) text := by
  induction items with
  | @last _ own after _ _ => exact ⟨own ++ after, close, (List.append_assoc ..).symm, rfl⟩
  | @more _ _ own after lead later _ _ _ _ ih =>
    exact (((ih.append lead).append [comma]).append after).append own

theorem EnclosedText.last_octet {α : Type} {item : α → Bytes → Prop} {opening close : UInt8}
    {members : List α} {text : Bytes} (enclosed : EnclosedText item opening close members text) :
    EndsIn (· = close) text := by
  cases enclosed with
  | @empty lead _ => exact ⟨opening :: lead, close, rfl, rfl⟩
  | @items _ lead own _ items => exact (items.last_octet.append lead).append [opening]

theorem StringTail.last_octet {tail : Bytes} (string : StringTail tail) : EndsIn (· = quote) tail := by
  induction string with
  | close => exact ⟨[], quote, rfl, rfl⟩
  | plain _ _ ih => exact ih.append [_]
  | short _ _ ih => exact ih.append [_, _]
  | unit _ _ ih => exact ih.append [_, _, _, _, _, _]

theorem ValueText.trimmed {value : Bytes} (text : ValueText value) :
    StartsIn (fun octet => isSpace octet = false) value ∧
      EndsIn (fun octet => isSpace octet = false) value := by
  refine ⟨?_, ?_⟩
  · obtain ⟨first, rest, split, opens⟩ := text.skipsWhole.start
    exact ⟨first, rest, split, opens.1⟩
  · cases text with
    | word word =>
      obtain ⟨null, yes, no⟩ := ofText_words
      simp only [List.mem_cons, List.not_mem_nil, or_false] at word
      rcases word with rfl | rfl | rfl
      · exact ⟨[0x6E, 0x75, 0x6C], 0x6C, null, by decide⟩
      · exact ⟨[0x74, 0x72, 0x75], 0x65, yes, by decide⟩
      · exact ⟨[0x66, 0x61, 0x6C, 0x73], 0x65, no, by decide⟩
    | number number =>
      refine number.last.mono fun octet digit => ?_
      have opens := opensScalar_of_digit octet.toNat (List.mem_range.2 octet.toNat_lt)
      rw [UInt8.ofNat_toNat] at opens
      exact (opens (.inr digit)).1.1
    | string string => exact (string.last_octet.append [quote]).mono (by rintro _ rfl; decide)
    | list bracketed => exact bracketed.last_octet.mono (by rintro _ rfl; decide)
    | object braced => exact braced.last_octet.mono (by rintro _ rfl; decide)

theorem ItemsText.within {α : Type} {item : α → Bytes → Prop} {close : UInt8} {members : List α}
    {text : Bytes} (items : ItemsText item close members text) :
    ∀ member ∈ members, ∃ own, item member own ∧ own <:+: text := by
  induction items with
  | last item _ =>
    intro member belongs
    obtain rfl := List.mem_singleton.1 belongs
    exact ⟨_, item, (List.prefix_append ..).isInfix⟩
  | @more first members own after lead later item _ _ _ ih =>
    intro member belongs
    rcases List.mem_cons.1 belongs with rfl | others
    · exact ⟨_, item, (List.prefix_append ..).isInfix⟩
    · obtain ⟨inner, known, inside⟩ := ih member others
      refine ⟨inner, known, inside.trans ?_⟩
      exact ⟨own ++ (after ++ comma :: lead), [], by simp⟩

theorem EnclosedText.within {α : Type} {item : α → Bytes → Prop} {opening close : UInt8}
    {members : List α} {text : Bytes} (enclosed : EnclosedText item opening close members text) :
    ∀ member ∈ members, ∃ own, item member own ∧ own <:+: text := by
  cases enclosed with
  | empty => nofun
  | @items _ lead own _ items =>
    intro member belongs
    obtain ⟨inner, known, inside⟩ := items.within member belongs
    exact ⟨inner, known, inside.trans ⟨opening :: lead, [], by simp⟩⟩

theorem EntryText.within {member : Member} {own : Bytes} (entry : EntryText member own) :
    member.value <:+: own := by
  obtain @⟨tail, between, before, value, -, -, -⟩ := entry
  exact ⟨quote :: tail ++ (between ++ colon :: before), [], by simp⟩

end EnclaveProvenance.Json
