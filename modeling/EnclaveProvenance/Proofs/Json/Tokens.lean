import Mathlib.Data.List.TakeWhile
import EnclaveProvenance.Proofs.Json.Grammar
import EnclaveProvenance.Proofs.Texts

/-!
The strings, names and numbers of JSON texts. The scanner passes over such a token when it stands at
the front, and over nothing else, without asking what it denotes; a string is read as the text that
it spells.
-/

namespace EnclaveProvenance.Json

theorem skipSpace_eq_iff {text rest : Bytes} (solid : ∀ octet ∈ rest.head?, isSpace octet = false) :
    skipSpace text = rest ↔ ∃ space, Spacing space ∧ text = space ++ rest := by
  constructor
  · rintro rfl
    refine ⟨text.takeWhile isSpace, fun octet member => List.mem_takeWhile_imp member, ?_⟩
    exact (List.takeWhile_append_dropWhile ..).symm
  · rintro ⟨space, spacing, rfl⟩
    rw [skipSpace_spacing spacing]
    cases rest with
    | nil => rfl
    | cons first others => exact skipSpace_cons (solid first rfl)

theorem skipSpace_solid (text : Bytes) : ∀ octet ∈ (skipSpace text).head?, isSpace octet = false := by
  intro octet first
  rw [Option.mem_def] at first
  have stopped := List.head?_dropWhile_not isSpace text
  rw [skipSpace] at first
  rw [first] at stopped
  simpa using stopped

theorem spaced_mark {after following : Bytes} {mark : UInt8}
    (marked : skipSpace after = mark :: following) :
    ∃ space, Spacing space ∧ after = space ++ mark :: following := by
  have solid := skipSpace_solid after
  rw [marked] at solid
  exact (skipSpace_eq_iff solid).1 marked

theorem spaced_rest (text : Bytes) : ∃ space, Spacing space ∧ text = space ++ skipSpace text :=
  (skipSpace_eq_iff (skipSpace_solid text)).1 rfl

def StartsIn (accepts : UInt8 → Prop) (text : Bytes) : Prop :=
  ∃ first rest, text = first :: rest ∧ accepts first

def EndsIn (accepts : UInt8 → Prop) (text : Bytes) : Prop :=
  ∃ front last, text = front ++ [last] ∧ accepts last

theorem EndsIn.append {accepts : UInt8 → Prop} {text : Bytes} (ends : EndsIn accepts text)
    (lead : Bytes) : EndsIn accepts (lead ++ text) := by
  obtain ⟨front, last, rfl, accepted⟩ := ends
  exact ⟨lead ++ front, last, (List.append_assoc ..).symm, accepted⟩

theorem EndsIn.mono {one other : UInt8 → Prop} {text : Bytes} (ends : EndsIn one text)
    (weaker : ∀ octet, one octet → other octet) : EndsIn other text := by
  obtain ⟨front, last, split, accepted⟩ := ends
  exact ⟨front, last, split, weaker last accepted⟩

theorem StartsIn.append {accepts : UInt8 → Prop} {text : Bytes} (starts : StartsIn accepts text)
    (rest : Bytes) : StartsIn accepts (text ++ rest) := by
  obtain ⟨first, others, rfl, accepted⟩ := starts
  exact ⟨first, others ++ rest, rfl, accepted⟩

/-- What follows the opening quote of a string, up to the quote that closes it. -/
inductive StringTail : Bytes → Prop
  | close : StringTail [quote]
  | plain {byte : UInt8} {tail : Bytes} :
      isPlain byte = true → StringTail tail → StringTail (byte :: tail)
  | short {letter octet : UInt8} {tail : Bytes} :
      escaped? letter = some octet → StringTail tail → StringTail (backslash :: letter :: tail)
  | unit {a b c d : UInt8} {tail : Bytes} :
      [a, b, c, d].all Hex.isDigit = true → StringTail tail →
      StringTail (backslash :: unicodeLetter :: a :: b :: c :: d :: tail)

theorem skipString_tail {tail : Bytes} (string : StringTail tail) (rest : Bytes) :
    skipString (tail ++ rest) = some rest := by
  induction string with
  | close => exact skipString_quote rest
  | plain plain _ ih => exact (skipString_cons plain _).trans ih
  | short escape _ ih =>
    rw [List.cons_append, List.cons_append, skipString.eq_def]
    simp only [show backslash ≠ quote by decide, ne_unicodeLetter_of_escaped? escape, if_false,
      if_true, escape, Option.isSome_some, ih]
  | unit digits _ ih =>
    simp only [List.cons_append]
    rw [skipString.eq_def]
    simp only [show backslash ≠ quote by decide, if_false, if_true, digits, ih]

theorem tail_of_skipString {text rest : Bytes} (skipped : skipString text = some rest) :
    ∃ tail, StringTail tail ∧ text = tail ++ rest := by
  fun_induction skipString text with
  | case1 | case3 | case5 | case6 | case8 | case9 => cases skipped
  | case2 =>
    obtain rfl := Option.some.inj skipped
    exact ⟨[quote], .close, rfl⟩
  | case4 a b c d _ digits _ ih =>
    obtain ⟨tail, string, rfl⟩ := ih skipped
    exact ⟨_, .unit digits string, rfl⟩
  | case7 letter _ _ escape _ ih =>
    obtain ⟨tail, string, rfl⟩ := ih skipped
    obtain ⟨octet, escape⟩ := Option.isSome_iff_exists.1 escape
    exact ⟨_, .short escape string, rfl⟩
  | case10 byte _ notQuote notBackslash visible ih =>
    obtain ⟨tail, string, rfl⟩ := ih skipped
    have plain := isPlain_iff.2 ⟨UInt8.not_lt.1 visible, notQuote, notBackslash⟩
    exact ⟨_, .plain plain string, rfl⟩

theorem skipKey_append {tail between before rest : Bytes} (string : StringTail tail)
    (betweenSpacing : Spacing between) (beforeSpacing : Spacing before)
    (solid : ∀ octet ∈ rest.head?, isSpace octet = false) :
    skipKey (quote :: tail ++ (between ++ colon :: (before ++ rest))) = some rest := by
  have mark : skipSpace (colon :: (before ++ rest)) = colon :: (before ++ rest) :=
    skipSpace_cons (by decide)
  rw [List.cons_append, skipKey, if_pos rfl, skipString_tail string]
  simp only [skipSpace_spacing betweenSpacing, mark, if_true]
  rw [(skipSpace_eq_iff solid).2 ⟨before, beforeSpacing, rfl⟩]

theorem keySlice_append {tail : Bytes} (string : StringTail tail) (rest : Bytes) :
    keySlice (quote :: tail ++ rest) = quote :: tail := by
  rw [keySlice, List.cons_append, List.tail_cons, skipString_tail string]
  exact Bytes.before_append (quote :: tail) rest

theorem key_of_skipKey {text rest : Bytes} (skipped : skipKey text = some rest) :
    ∃ tail between before, StringTail tail ∧ Spacing between ∧ Spacing before ∧
      text = quote :: tail ++ (between ++ colon :: (before ++ rest)) := by
  unfold skipKey at skipped
  split at skipped
  · next byte others =>
    rw [Option.ite_none_right_eq_some] at skipped
    obtain ⟨rfl, skipped⟩ := skipped
    split at skipped
    · cases skipped
    · next after string =>
      obtain ⟨tail, own, rfl⟩ := tail_of_skipString string
      split at skipped
      · next mark following marked =>
        rw [Option.ite_none_right_eq_some, Option.some.injEq] at skipped
        obtain ⟨rfl, rfl⟩ := skipped
        obtain ⟨between, betweenSpacing, rfl⟩ := spaced_mark marked
        obtain ⟨before, beforeSpacing, split⟩ := spaced_rest following
        refine ⟨tail, between, before, own, betweenSpacing, beforeSpacing, ?_⟩
        rw [← split, List.cons_append]
      · cases skipped
  · cases skipped

def EndsNumber (rest : Bytes) : Prop :=
  ∀ octet ∈ rest.head?, isDigit octet = false ∧ octet ≠ 0x2E ∧ octet ≠ 0x65 ∧ octet ≠ 0x45

def Digits (text : Bytes) : Prop := text ≠ [] ∧ ∀ octet ∈ text, isDigit octet = true

def MinusText (text : Bytes) : Prop := text = [] ∨ text = [0x2D]

def WholeText (text : Bytes) : Prop := text = [0x30] ∨ (Digits text ∧ text.head? ≠ some 0x30)

def FractionText (text : Bytes) : Prop := text = [] ∨ ∃ digits, Digits digits ∧ text = 0x2E :: digits

def SignText (text : Bytes) : Prop := text = [] ∨ text = [0x2B] ∨ text = [0x2D]

def ExponentText (text : Bytes) : Prop :=
  text = [] ∨ ∃ mark sign digits, (mark = 0x65 ∨ mark = 0x45) ∧ SignText sign ∧ Digits digits ∧
    text = mark :: (sign ++ digits)

inductive NumberText : Bytes → Prop
  | parts {minus whole fraction exponent : Bytes} :
      MinusText minus → WholeText whole → FractionText fraction → ExponentText exponent →
      NumberText (minus ++ (whole ++ (fraction ++ exponent)))

theorem Digits.cons {text : Bytes} (digits : Digits text) : ∃ first rest, text = first :: rest ∧
    isDigit first = true ∧ ∀ octet ∈ rest, isDigit octet = true := by
  obtain ⟨first, rest, rfl⟩ := List.exists_cons_of_ne_nil digits.1
  exact ⟨first, rest, rfl, (List.forall_mem_cons.1 digits.2).1, (List.forall_mem_cons.1 digits.2).2⟩

theorem skipDigits_append {digits rest : Bytes} (own : Digits digits)
    (ended : ∀ octet ∈ rest.head?, isDigit octet = false) : skipDigits (digits ++ rest) = some rest := by
  obtain ⟨first, others, rfl, firstDigit, digits⟩ := own.cons
  rw [List.cons_append, skipDigits, if_pos firstDigit, List.dropWhile_append_of_pos digits]
  cases rest with
  | nil => rfl
  | cons octet later => simp [ended octet rfl]

theorem digits_of_skipDigits {text rest : Bytes} (skipped : skipDigits text = some rest) :
    ∃ digits, Digits digits ∧ text = digits ++ rest := by
  unfold skipDigits at skipped
  split at skipped
  · next first others =>
    rw [Option.ite_none_right_eq_some, Option.some.injEq] at skipped
    obtain ⟨firstDigit, rfl⟩ := skipped
    refine ⟨first :: others.takeWhile isDigit, ⟨by simp, ?_⟩, ?_⟩
    · exact List.forall_mem_cons.2 ⟨firstDigit, fun octet member => List.mem_takeWhile_imp member⟩
    · rw [List.cons_append, List.takeWhile_append_dropWhile]
  · cases skipped

theorem skipMinus_append {minus rest : Bytes} (own : MinusText minus)
    (other : ∀ octet ∈ rest.head?, octet ≠ 0x2D) : skipMinus (minus ++ rest) = rest := by
  obtain rfl | rfl := own
  · cases rest with
    | nil => rfl
    | cons octet later => exact if_neg (other octet rfl)
  · rfl

theorem minus_of_skipMinus (text : Bytes) :
    ∃ minus, MinusText minus ∧ text = minus ++ skipMinus text := by
  unfold skipMinus
  split
  · next byte rest =>
    split
    · next marked => exact ⟨[0x2D], .inr rfl, by rw [marked]; rfl⟩
    · exact ⟨[], .inl rfl, rfl⟩
  · exact ⟨[], .inl rfl, rfl⟩

theorem skipWhole_append {whole rest : Bytes} (own : WholeText whole)
    (ended : ∀ octet ∈ rest.head?, isDigit octet = false) : skipWhole (whole ++ rest) = some rest := by
  obtain rfl | ⟨digits, first⟩ := own
  · rfl
  · have skipped := skipDigits_append digits ended
    obtain ⟨octet, others, rfl, -⟩ := digits.cons
    rw [List.cons_append] at skipped ⊢
    exact (if_neg fun zero => first (by rw [zero]; rfl)).trans skipped

theorem whole_of_skipWhole {text rest : Bytes} (skipped : skipWhole text = some rest) :
    ∃ whole, WholeText whole ∧ text = whole ++ rest := by
  unfold skipWhole at skipped
  split at skipped
  · next byte others =>
    split at skipped
    · next zero =>
      obtain rfl := Option.some.inj skipped
      exact ⟨[0x30], .inl rfl, by rw [zero]; rfl⟩
    · next other =>
      obtain ⟨digits, own, split⟩ := digits_of_skipDigits skipped
      refine ⟨digits, .inr ⟨own, fun zero => other ?_⟩, split⟩
      obtain ⟨first, later, rfl, -⟩ := own.cons
      rw [List.cons_append, List.cons.injEq] at split
      exact split.1.trans (Option.some.inj zero)
  · cases skipped

theorem skipFraction_append {fraction rest : Bytes} (own : FractionText fraction)
    (ended : ∀ octet ∈ rest.head?, isDigit octet = false ∧ octet ≠ 0x2E) :
    skipFraction (fraction ++ rest) = some rest := by
  obtain rfl | ⟨digits, own, rfl⟩ := own
  · cases rest with
    | nil => rfl
    | cons octet later => exact if_neg (ended octet rfl).2
  · exact skipDigits_append own fun octet first => (ended octet first).1

theorem fraction_of_skipFraction {text rest : Bytes} (skipped : skipFraction text = some rest) :
    ∃ fraction, FractionText fraction ∧ text = fraction ++ rest := by
  unfold skipFraction at skipped
  split at skipped
  · next byte others =>
    split at skipped
    · next point =>
      obtain ⟨digits, own, rfl⟩ := digits_of_skipDigits skipped
      exact ⟨0x2E :: digits, .inr ⟨digits, own, rfl⟩, by rw [point]; rfl⟩
    · obtain rfl := Option.some.inj skipped
      exact ⟨[], .inl rfl, rfl⟩
  · obtain rfl := Option.some.inj skipped
    exact ⟨[], .inl rfl, rfl⟩

theorem skipSign_append {sign digits rest : Bytes} (own : SignText sign) (number : Digits digits) :
    skipSign (sign ++ (digits ++ rest)) = digits ++ rest := by
  obtain rfl | rfl | rfl := own
  · obtain ⟨first, others, rfl, digit, -⟩ := number.cons
    refine if_neg ?_
    rintro (rfl | rfl)
    · exact absurd digit (by decide)
    · exact absurd digit (by decide)
  · rfl
  · rfl

theorem sign_of_skipSign (text : Bytes) : ∃ sign, SignText sign ∧ text = sign ++ skipSign text := by
  unfold skipSign
  split
  · next byte rest =>
    split
    · next marked =>
      obtain rfl | rfl := marked
      · exact ⟨[0x2B], .inr (.inl rfl), rfl⟩
      · exact ⟨[0x2D], .inr (.inr rfl), rfl⟩
    · exact ⟨[], .inl rfl, rfl⟩
  · exact ⟨[], .inl rfl, rfl⟩

theorem skipExponent_append {exponent rest : Bytes} (own : ExponentText exponent)
    (ended : EndsNumber rest) : skipExponent (exponent ++ rest) = some rest := by
  obtain rfl | ⟨mark, sign, digits, marked, signed, number, rfl⟩ := own
  · cases rest with
    | nil => rfl
    | cons octet later =>
      obtain ⟨-, -, small, capital⟩ := ended octet rfl
      exact if_neg (not_or.2 ⟨small, capital⟩)
  · rw [List.cons_append, List.append_assoc, skipExponent, if_pos marked,
      skipSign_append signed number]
    exact skipDigits_append number fun octet first => (ended octet first).1

theorem exponent_of_skipExponent {text rest : Bytes} (skipped : skipExponent text = some rest) :
    ∃ exponent, ExponentText exponent ∧ text = exponent ++ rest := by
  unfold skipExponent at skipped
  split at skipped
  · next byte others =>
    split at skipped
    · next marked =>
      obtain ⟨digits, number, split⟩ := digits_of_skipDigits skipped
      obtain ⟨sign, signed, signSplit⟩ := sign_of_skipSign others
      refine ⟨byte :: (sign ++ digits), .inr ⟨byte, sign, digits, marked, signed, number, rfl⟩, ?_⟩
      rw [signSplit, split, List.cons_append, List.append_assoc]
    · obtain rfl := Option.some.inj skipped
      exact ⟨[], .inl rfl, rfl⟩
  · obtain rfl := Option.some.inj skipped
    exact ⟨[], .inl rfl, rfl⟩

theorem ExponentText.head {exponent rest : Bytes} (own : ExponentText exponent)
    (ended : EndsNumber rest) :
    ∀ octet ∈ (exponent ++ rest).head?, isDigit octet = false ∧ octet ≠ 0x2E := by
  obtain rfl | ⟨mark, sign, digits, rfl | rfl, -, -, rfl⟩ := own
  · exact fun octet first => ⟨(ended octet first).1, (ended octet first).2.1⟩
  · rintro _ ⟨⟩
    decide
  · rintro _ ⟨⟩
    decide

theorem FractionText.head {fraction rest : Bytes} (own : FractionText fraction)
    (ended : ∀ octet ∈ rest.head?, isDigit octet = false) :
    ∀ octet ∈ (fraction ++ rest).head?, isDigit octet = false := by
  obtain rfl | ⟨digits, -, rfl⟩ := own
  · exact ended
  · rintro _ ⟨⟩
    decide

theorem WholeText.start {whole : Bytes} (own : WholeText whole) : ∃ first rest,
    whole = first :: rest ∧ isDigit first = true := by
  obtain rfl | ⟨digits, -⟩ := own
  · exact ⟨0x30, [], rfl, by decide⟩
  · obtain ⟨first, rest, split, digit, -⟩ := digits.cons
    exact ⟨first, rest, split, digit⟩

theorem skipNumber_append {number rest : Bytes} (own : NumberText number) (ended : EndsNumber rest) :
    skipNumber (number ++ rest) = some rest := by
  obtain @⟨minus, whole, fraction, exponent, minusText, wholeText, fractionText, exponentText⟩ := own
  have exponentHead := exponentText.head ended
  have fractionHead := fractionText.head fun octet first => (exponentHead octet first).1
  have wholeHead : ∀ octet ∈ (whole ++ (fraction ++ (exponent ++ rest))).head?, octet ≠ 0x2D := by
    obtain ⟨first, others, rfl, digit⟩ := wholeText.start
    rintro _ ⟨⟩ rfl
    exact absurd digit (by decide)
  simp only [skipNumber, List.append_assoc, skipMinus_append minusText wholeHead,
    skipWhole_append wholeText fractionHead, skipFraction_append fractionText exponentHead,
    skipExponent_append exponentText ended, Option.bind_eq_bind, Option.bind_some]

theorem number_of_skipNumber {text rest : Bytes} (skipped : skipNumber text = some rest) :
    ∃ number, NumberText number ∧ text = number ++ rest := by
  simp only [skipNumber, Option.bind_eq_bind, Option.bind_eq_some_iff] at skipped
  obtain ⟨afterWhole, wholeSkipped, afterFraction, fractionSkipped, exponentSkipped⟩ := skipped
  obtain ⟨minus, minusText, minusSplit⟩ := minus_of_skipMinus text
  obtain ⟨whole, wholeText, wholeSplit⟩ := whole_of_skipWhole wholeSkipped
  obtain ⟨fraction, fractionText, rfl⟩ := fraction_of_skipFraction fractionSkipped
  obtain ⟨exponent, exponentText, rfl⟩ := exponent_of_skipExponent exponentSkipped
  refine ⟨_, .parts minusText wholeText fractionText exponentText, ?_⟩
  rw [minusSplit, wholeSplit]
  simp only [List.append_assoc]

theorem NumberText.start {number : Bytes} (own : NumberText number) : ∃ first rest,
    number = first :: rest ∧ (first = 0x2D ∨ isDigit first = true) := by
  obtain @⟨minus, whole, fraction, exponent, rfl | rfl, wholeText, -, -⟩ := own
  · obtain ⟨first, rest, rfl, digit⟩ := wholeText.start
    exact ⟨first, _, rfl, .inr digit⟩
  · exact ⟨0x2D, _, rfl, .inl rfl⟩

theorem Digits.last {digits : Bytes} (own : Digits digits) :
    EndsIn (fun octet => isDigit octet = true) digits :=
  ⟨digits.dropLast, digits.getLast own.1, (List.dropLast_concat_getLast own.1).symm,
    own.2 _ (List.getLast_mem own.1)⟩

theorem NumberText.last {number : Bytes} (own : NumberText number) :
    EndsIn (fun octet => isDigit octet = true) number := by
  obtain @⟨minus, whole, fraction, exponent, -, wholeText, fractionText, exponentText⟩ := own
  refine EndsIn.append ?_ minus
  obtain rfl | ⟨mark, sign, digits, -, -, exponentDigits, rfl⟩ := exponentText
  · obtain rfl | ⟨digits, fractionDigits, rfl⟩ := fractionText
    · rw [List.append_nil, List.append_nil]
      obtain rfl | ⟨wholeDigits, -⟩ := wholeText
      · exact ⟨[], 0x30, rfl, by decide⟩
      · exact wholeDigits.last
    · rw [List.append_nil]
      exact (fractionDigits.last.append [0x2E]).append whole
  · exact (((exponentDigits.last.append sign).append [mark]).append fraction).append whole

theorem spells_of_stringContent {text content : Bytes} (read : stringContent text = some content) :
    Spells text content := by
  fun_induction stringContent text generalizing content with
  | case1 | case3 | case4 | case5 | case6 | case7 | case9 | case10 | case11 | case13 | case15 | case16 =>
    cases read
  | case2 rest empty =>
    obtain rfl := List.isEmpty_iff.1 empty
    obtain rfl := Option.some.inj read
    exact .close
  | case8 a b c d high highUnit notLow isHigh slash mark e f g h later marked low lowUnit isLow _ ih =>
    obtain ⟨rfl, rfl⟩ := marked
    obtain ⟨own, inside, rfl⟩ := Option.map_eq_some_iff.1 read
    exact .pair highUnit (Bool.eq_false_iff.2 notLow) isHigh lowUnit isLow (ih inside)
  | case12 a b c d tail point unit notLow notHigh _ ih =>
    obtain ⟨own, inside, rfl⟩ := Option.map_eq_some_iff.1 read
    exact .unit unit (Bool.eq_false_iff.2 notLow) (Bool.eq_false_iff.2 notHigh) (ih inside)
  | case14 letter following _ octet escape _ ih =>
    obtain ⟨own, inside, rfl⟩ := Option.map_eq_some_iff.1 read
    exact .short escape (ih inside)
  | case17 byte rest notQuote notBackslash visible ih =>
    obtain ⟨own, inside, rfl⟩ := Option.map_eq_some_iff.1 read
    exact .plain (isPlain_iff.2 ⟨UInt8.not_lt.1 visible, notQuote, notBackslash⟩) (ih inside)

theorem string?_eq_some_iff {text : String} {slice : Bytes} :
    string? slice = some text ↔ StringText text slice := by
  constructor
  · intro read
    unfold string? at read
    split at read
    · next byte rest =>
      rw [Option.ite_none_right_eq_some, Option.bind_eq_some_iff] at read
      obtain ⟨rfl, content, inside, encoded⟩ := read
      obtain rfl := Bytes.text?_eq_some_iff.1 encoded
      exact .spelled (spells_of_stringContent inside)
    · cases read
  · exact StringText.read

end EnclaveProvenance.Json
