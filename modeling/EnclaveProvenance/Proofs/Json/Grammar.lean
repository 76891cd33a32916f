import EnclaveProvenance.Json.Scalar

/-!
JSON texts (RFC 8259) with any space between their tokens and any spelling of their strings: with
characters as they are, with short escapes, and with escapes by number. The scanner skips such a
text as one value, and finds the slices that it is made of.
-/

namespace EnclaveProvenance.Json

def isPlain (byte : UInt8) : Bool := 0x20 ≤ byte && byte != quote && byte != backslash

theorem isPlain_iff {byte : UInt8} :
    isPlain byte = true ↔ 0x20 ≤ byte ∧ byte ≠ quote ∧ byte ≠ backslash := by
  simp [isPlain, and_assoc]

def Spacing (octets : Bytes) : Prop := ∀ octet ∈ octets, isSpace octet = true

theorem spacing_nil : Spacing [] := nofun

theorem skipSpace_spacing {space : Bytes} (spacing : Spacing space) (rest : Bytes) :
    skipSpace (space ++ rest) = skipSpace rest :=
  List.dropWhile_append_of_pos spacing

theorem skipSpace_cons {byte : UInt8} {rest : Bytes} (solid : isSpace byte = false) :
    skipSpace (byte :: rest) = byte :: rest := by
  simp [skipSpace, solid]

structure IsValue (value : Bytes) : Prop where
  start : ∃ first rest, value = first :: rest ∧ isSpace first = false ∧ first ≠ closeBracket
  skip : ∀ fuel rest, value.length ≤ fuel → skipValue fuel (value ++ rest) = some rest

theorem IsValue.skipSpace_append {value : Bytes} (isValue : IsValue value) (rest : Bytes) :
    skipSpace (value ++ rest) = value ++ rest := by
  obtain ⟨first, others, rfl, solid, _⟩ := isValue.start
  exact skipSpace_cons solid

theorem skipString_quote (rest : Bytes) : skipString (quote :: rest) = some rest := by
  rw [skipString.eq_def]
  exact if_pos rfl

theorem skipString_cons {byte : UInt8} (plain : isPlain byte = true) (rest : Bytes) :
    skipString (byte :: rest) = skipString rest := by
  obtain ⟨visible, notQuote, notBackslash⟩ := isPlain_iff.1 plain
  rw [skipString.eq_def]
  simp only [notQuote, notBackslash, UInt8.not_lt.2 visible, if_false]

/-- The spellings of the octets of a string, with the quote that closes it. A character beyond the
first plane is escaped as a pair of surrogates. -/
inductive Spells : Bytes → Bytes → Prop
  | close : Spells [quote] []
  | plain {byte : UInt8} {spelling content : Bytes} :
      isPlain byte = true → Spells spelling content → Spells (byte :: spelling) (byte :: content)
  | short {letter octet : UInt8} {spelling content : Bytes} :
      escaped? letter = some octet → Spells spelling content →
      Spells (backslash :: letter :: spelling) (octet :: content)
  | unit {a b c d : UInt8} {point : Nat} {spelling content : Bytes} :
      unicodeUnit a b c d = some point → isLowSurrogate point = false →
      isHighSurrogate point = false → Spells spelling content →
      Spells (backslash :: unicodeLetter :: a :: b :: c :: d :: spelling)
        (encodePoint point ++ content)
  | pair {a b c d e f g h : UInt8} {high low : Nat} {spelling content : Bytes} :
      unicodeUnit a b c d = some high → isLowSurrogate high = false → isHighSurrogate high = true →
      unicodeUnit e f g h = some low → isLowSurrogate low = true → Spells spelling content →
      Spells (backslash :: unicodeLetter :: a :: b :: c :: d ::
          backslash :: unicodeLetter :: e :: f :: g :: h :: spelling)
        (encodePoint (0x10000 + (high - 0xD800) * 0x400 + (low - 0xDC00)) ++ content)

theorem spells_plain {content : Bytes} (plain : content.all isPlain = true) :
    Spells (content ++ [quote]) content := by
  induction content with
  | nil => exact .close
  | cons byte content ih =>
    rw [List.all_cons, Bool.and_eq_true] at plain
    exact .plain plain.1 (ih plain.2)

theorem isDigit_of_unicodeUnit {a b c d : UInt8} {point : Nat}
    (unit : unicodeUnit a b c d = some point) : [a, b, c, d].all Hex.isDigit = true := by
  unfold unicodeUnit at unit
  obtain ⟨first, one, unit⟩ := Option.bind_eq_some_iff.1 unit
  obtain ⟨second, two, unit⟩ := Option.bind_eq_some_iff.1 unit
  obtain ⟨third, three, unit⟩ := Option.bind_eq_some_iff.1 unit
  obtain ⟨fourth, four, unit⟩ := Option.bind_eq_some_iff.1 unit
  simp [Hex.isDigit, one, two, three, four]

theorem ne_unicodeLetter_of_escaped? {letter octet : UInt8} (escape : escaped? letter = some octet) :
    letter ≠ unicodeLetter := by
  rintro rfl
  cases escape

theorem skipString_unit {a b c d : UInt8} {point : Nat} (unit : unicodeUnit a b c d = some point)
    (rest : Bytes) :
    skipString (backslash :: unicodeLetter :: a :: b :: c :: d :: rest) = skipString rest := by
  rw [skipString.eq_def]
  simp only [show backslash ≠ quote by decide, if_false, if_true, isDigit_of_unicodeUnit unit]

theorem skipString_spells {spelling content : Bytes} (spells : Spells spelling content)
    (rest : Bytes) : skipString (spelling ++ rest) = some rest := by
  induction spells with
  | close => exact skipString_quote rest
  | plain plain _ ih => exact (skipString_cons plain _).trans ih
  | short escape _ ih =>
    rw [List.cons_append, List.cons_append, skipString.eq_def]
    simp only [show backslash ≠ quote by decide, ne_unicodeLetter_of_escaped? escape, if_false,
      if_true, escape, Option.isSome_some, ih]
  | unit unit _ _ _ ih => exact (skipString_unit unit _).trans ih
  | pair high _ _ low _ _ ih =>
    exact (skipString_unit high _).trans ((skipString_unit low _).trans ih)

theorem stringContent_spells {spelling content : Bytes} (spells : Spells spelling content) :
    stringContent spelling = some content := by
  induction spells with
  | close => rfl
  | plain plain _ ih =>
    obtain ⟨visible, notQuote, notBackslash⟩ := isPlain_iff.1 plain
    rw [stringContent.eq_def]
    simp only [notQuote, notBackslash, UInt8.not_lt.2 visible, if_false, ih, Option.map_some]
  | short escape _ ih =>
    rw [stringContent.eq_def]
    simp only [show backslash ≠ quote by decide, ne_unicodeLetter_of_escaped? escape, if_false,
      if_true, escape, ih, Option.map_some]
  | unit unit notLow notHigh _ ih =>
    rw [stringContent.eq_def]
    simp only [show backslash ≠ quote by decide, if_false, if_true, unit, notLow, notHigh,
      Bool.false_eq_true, ih, Option.map_some]
  | pair highUnit notLow isHigh lowUnit isLow _ ih =>
    rw [stringContent.eq_def]
    simp only [show backslash ≠ quote by decide, if_false, if_true, highUnit, notLow, isHigh,
      lowUnit, isLow, Bool.false_eq_true, and_self, ih, Option.map_some]

inductive StringText (text : String) : Bytes → Prop
  | spelled {spelling : Bytes} :
      Spells spelling (Bytes.ofText text) → StringText text (quote :: spelling)

theorem Spells.isValue {spelling content : Bytes} (spells : Spells spelling content) :
    IsValue (quote :: spelling) where
  start := ⟨quote, _, rfl, by decide, by decide⟩
  skip := by
    intro fuel rest enough
    cases fuel with
    | zero => simp at enough
    | succ fuel => rw [List.cons_append, skipValue, if_pos rfl, skipString_spells spells]

theorem StringText.isValue {text : String} {slice : Bytes} (string : StringText text slice) :
    IsValue slice := by
  obtain ⟨spells⟩ := string
  exact spells.isValue

theorem StringText.read {text : String} {slice : Bytes} (string : StringText text slice) :
    string? slice = some text := by
  obtain ⟨spells⟩ := string
  rw [string?, if_pos rfl, stringContent_spells spells, Option.bind_some, Bytes.text?_ofText]

theorem skipElements_close {fuel : Nat} {text after rest : Bytes}
    (skipped : skipValue fuel text = some after)
    (marked : skipSpace after = closeBracket :: rest) : skipElements (fuel + 1) text = some rest := by
  simp only [skipElements, skipped, marked, if_true]

theorem skipElements_comma {fuel : Nat} {text after rest : Bytes}
    (skipped : skipValue fuel text = some after) (marked : skipSpace after = comma :: rest) :
    skipElements (fuel + 1) text = skipElements fuel (skipSpace rest) := by
  simp only [skipElements, skipped, marked, show comma ≠ closeBracket by decide, if_true, if_false]

theorem elementSlices_close {fuel : Nat} {value after rest : Bytes}
    (skipped : skipValue fuel (value ++ after) = some after)
    (marked : skipSpace after = closeBracket :: rest) :
    elementSlices (fuel + 1) (value ++ after) = some [value] := by
  simp only [elementSlices, skipped, marked, if_true, Bytes.before_append]

theorem elementSlices_comma {fuel : Nat} {value after rest : Bytes}
    (skipped : skipValue fuel (value ++ after) = some after)
    (marked : skipSpace after = comma :: rest) :
    elementSlices (fuel + 1) (value ++ after) =
      (elementSlices fuel (skipSpace rest)).map (value :: ·) := by
  simp only [elementSlices, skipped, marked, show comma ≠ closeBracket by decide, if_true, if_false,
    Bytes.before_append]

theorem skipMembers_close {fuel : Nat} {text start after rest : Bytes}
    (keyed : skipKey text = some start) (skipped : skipValue fuel start = some after)
    (marked : skipSpace after = closeBrace :: rest) : skipMembers (fuel + 1) text = some rest := by
  simp only [skipMembers, keyed, skipped, marked, if_true]

theorem skipMembers_comma {fuel : Nat} {text start after rest : Bytes}
    (keyed : skipKey text = some start) (skipped : skipValue fuel start = some after)
    (marked : skipSpace after = comma :: rest) :
    skipMembers (fuel + 1) text = skipMembers fuel (skipSpace rest) := by
  simp only [skipMembers, keyed, skipped, marked, show comma ≠ closeBrace by decide, if_true,
    if_false]

theorem memberSlices_close {fuel : Nat} {text value after rest : Bytes}
    (keyed : skipKey text = some (value ++ after))
    (skipped : skipValue fuel (value ++ after) = some after)
    (marked : skipSpace after = closeBrace :: rest) :
    memberSlices (fuel + 1) text = some [⟨keySlice text, value⟩] := by
  simp only [memberSlices, keyed, skipped, marked, if_true, Bytes.before_append]

theorem memberSlices_comma {fuel : Nat} {text value after rest : Bytes}
    (keyed : skipKey text = some (value ++ after))
    (skipped : skipValue fuel (value ++ after) = some after)
    (marked : skipSpace after = comma :: rest) :
    memberSlices (fuel + 1) text =
      (memberSlices fuel (skipSpace rest)).map (⟨keySlice text, value⟩ :: ·) := by
  simp only [memberSlices, keyed, skipped, marked, show comma ≠ closeBrace by decide, if_true,
    if_false, Bytes.before_append]

inductive MemberText : Member → Bytes → Prop
  | spaced {spelling content value between before after : Bytes} :
      Spells spelling content → Spacing between → Spacing before → IsValue value → Spacing after →
      MemberText ⟨quote :: spelling, value⟩
        (quote :: spelling ++ (between ++ colon :: (before ++ (value ++ after))))

inductive MembersText : List Member → Bytes → Prop
  | last {member : Member} {own : Bytes} :
      MemberText member own → MembersText [member] (own ++ [closeBrace])
  | more {member : Member} {own lead later : Bytes} {members : List Member} :
      MemberText member own → Spacing lead → MembersText members later →
      MembersText (member :: members) (own ++ comma :: (lead ++ later))

inductive ObjectText : List Member → Bytes → Prop
  | empty {lead : Bytes} : Spacing lead → ObjectText [] (openBrace :: (lead ++ [closeBrace]))
  | members {lead own : Bytes} {members : List Member} :
      Spacing lead → MembersText members own → ObjectText members (openBrace :: (lead ++ own))

theorem MemberText.start {member : Member} {own : Bytes} (written : MemberText member own) :
    ∃ rest, own = quote :: rest := by
  obtain ⟨_⟩ := written
  exact ⟨_, rfl⟩

theorem MembersText.start {members : List Member} {own : Bytes}
    (written : MembersText members own) : ∃ rest, own = quote :: rest := by
  cases written with
  | last member | more member =>
    obtain ⟨rest, rfl⟩ := member.start
    exact ⟨_, rfl⟩

theorem MembersText.skipSpace_append {members : List Member} {own : Bytes}
    (written : MembersText members own) (rest : Bytes) : skipSpace (own ++ rest) = own ++ rest := by
  obtain ⟨others, rfl⟩ := written.start
  exact skipSpace_cons (by decide)

theorem MemberText.read {member : Member} {own : Bytes} (written : MemberText member own)
    (rest : Bytes) : ∃ after, Spacing after ∧ IsValue member.value ∧
      skipKey (own ++ rest) = some (member.value ++ (after ++ rest)) ∧
      keySlice (own ++ rest) = member.key ∧ member.value.length < own.length := by
  obtain @⟨spelling, content, value, between, before, after, spells, betweenSpacing, beforeSpacing,
    isValue, afterSpacing⟩ := written
  have skipped := skipString_spells spells (between ++ colon :: (before ++ (value ++ after)) ++ rest)
  refine ⟨after, afterSpacing, isValue, ?_, ?_, ?_⟩
  · rw [List.append_assoc, List.cons_append, skipKey, if_pos rfl, skipped]
    simp only [List.append_assoc, skipSpace_spacing betweenSpacing, List.cons_append,
      skipSpace_cons (show isSpace colon = false by decide), if_true,
      skipSpace_spacing beforeSpacing, isValue.skipSpace_append]
  · rw [List.append_assoc, keySlice, List.cons_append, List.tail_cons, skipped]
    exact Bytes.before_append (quote :: spelling) _
  · simp only [List.length_append, List.length_cons]
    omega

theorem MembersText.skip {members : List Member} {own : Bytes} (written : MembersText members own)
    {fuel : Nat} (enough : own.length ≤ fuel) (rest : Bytes) :
    skipMembers fuel (own ++ rest) = some rest := by
  induction written generalizing fuel with
  | last member =>
    obtain ⟨after, spacing, isValue, keyed, _, short⟩ := member.read (closeBrace :: rest)
    cases fuel with
    | zero => simp at enough
    | succ fuel =>
      rw [List.length_append, List.length_singleton] at enough
      rw [List.append_assoc]
      exact skipMembers_close keyed (isValue.skip fuel _ (by omega))
        ((skipSpace_spacing spacing _).trans (skipSpace_cons (by decide)))
  | @more _ _ lead later _ member leadSpacing others ih =>
    obtain ⟨after, spacing, isValue, keyed, _, short⟩ :=
      member.read (comma :: (lead ++ (later ++ rest)))
    cases fuel with
    | zero => simp at enough
    | succ fuel =>
      simp only [List.length_append, List.length_cons] at enough
      rw [List.append_assoc, List.cons_append, List.append_assoc,
        skipMembers_comma keyed (isValue.skip fuel _ (by omega))
          ((skipSpace_spacing spacing _).trans (skipSpace_cons (by decide))),
        skipSpace_spacing leadSpacing, others.skipSpace_append]
      exact ih (by omega)

theorem MembersText.slices {members : List Member} {own : Bytes}
    (written : MembersText members own) {fuel : Nat} (enough : own.length ≤ fuel) :
    memberSlices fuel own = some members := by
  induction written generalizing fuel with
  | last member =>
    obtain ⟨after, spacing, isValue, keyed, named, short⟩ := member.read [closeBrace]
    cases fuel with
    | zero => simp at enough
    | succ fuel =>
      rw [List.length_append, List.length_singleton] at enough
      rw [memberSlices_close keyed (isValue.skip fuel _ (by omega))
        ((skipSpace_spacing spacing _).trans (skipSpace_cons (by decide))), named]
  | @more _ _ lead later _ member leadSpacing others ih =>
    obtain ⟨after, spacing, isValue, keyed, named, short⟩ := member.read (comma :: (lead ++ later))
    cases fuel with
    | zero => simp at enough
    | succ fuel =>
      simp only [List.length_append, List.length_cons] at enough
      have next := others.skipSpace_append []
      rw [List.append_nil] at next
      rw [memberSlices_comma keyed (isValue.skip fuel _ (by omega))
          ((skipSpace_spacing spacing _).trans (skipSpace_cons (by decide))),
        skipSpace_spacing leadSpacing, next, ih (by omega), named]
      rfl

theorem ObjectText.start {members : List Member} {slice : Bytes}
    (object : ObjectText members slice) : ∃ rest, slice = openBrace :: rest := by
  obtain _ | _ := object <;> exact ⟨_, rfl⟩

theorem ObjectText.isValue {members : List Member} {slice : Bytes}
    (object : ObjectText members slice) : IsValue slice := by
  have start := object.start
  refine ⟨?_, ?_⟩
  · obtain ⟨rest, rfl⟩ := start
    exact ⟨openBrace, rest, rfl, by decide, by decide⟩
  · intro fuel rest enough
    cases object with
    | empty spacing =>
      cases fuel with
      | zero => simp at enough
      | succ fuel =>
        rw [List.cons_append, skipValue, if_neg (by decide), if_neg (by decide), if_pos rfl,
          List.append_assoc, skipSpace_spacing spacing]
        rfl
    | @members lead own _ spacing written =>
      cases fuel with
      | zero => simp at enough
      | succ fuel =>
        simp only [List.length_cons, List.length_append] at enough
        have inside := written.skip (show own.length ≤ fuel by omega) rest
        rw [List.cons_append, skipValue, if_neg (by decide), if_neg (by decide), if_pos rfl,
          List.append_assoc, skipSpace_spacing spacing, written.skipSpace_append]
        obtain ⟨others, rfl⟩ := written.start
        exact inside

theorem ObjectText.members? {members : List Member} {slice : Bytes}
    (object : ObjectText members slice) : Json.members? slice = some members := by
  cases object with
  | empty spacing =>
    rw [Json.members?, if_pos rfl, skipSpace_spacing spacing]
    rfl
  | @members lead own _ spacing written =>
    have inside := written.slices (show own.length ≤ (openBrace :: (lead ++ own)).length by simp; omega)
    have next := written.skipSpace_append []
    rw [List.append_nil] at next
    rw [Json.members?, if_pos rfl, skipSpace_spacing spacing, next]
    obtain ⟨others, rfl⟩ := written.start
    exact inside

theorem document?_spaced {before value after : Bytes} (beforeSpacing : Spacing before)
    (isValue : IsValue value) (afterSpacing : Spacing after) :
    document? (before ++ (value ++ after)) = some value := by
  have skipped := isValue.skip (value ++ after).length after (by simp)
  have ended : skipSpace after = [] := by
    have dropped := skipSpace_spacing afterSpacing []
    rw [List.append_nil] at dropped
    exact dropped
  simp only [document?, skipSpace_spacing beforeSpacing, isValue.skipSpace_append, skipped, ended,
    List.isEmpty_nil, if_true, Bytes.before_append]

end EnclaveProvenance.Json
