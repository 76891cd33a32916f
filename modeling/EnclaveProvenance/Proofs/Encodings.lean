import Mathlib.Data.List.Induction
import EnclaveProvenance.Base64
import EnclaveProvenance.Hex
import EnclaveProvenance.Text

/-!
Octets written as text. Base64 is read from its written form and from nothing else; hexadecimal reads
back as what was written, is in lowercase, and is refused for its length or its first wrong octet.
-/

namespace EnclaveProvenance

theorem written_inj {α β γ : Type} {write : α → β} {read : β → γ} {found : α → γ}
    (reads : ∀ value, read (write value) = found value) (distinct : Function.Injective found)
    {one other : α} : write one = write other ↔ one = other := by
  constructor
  · intro same
    apply distinct
    rw [← reads one, ← reads other, same]
  · exact congrArg write

theorem Bytes.ofText_ofList (characters : List Char) :
    ofText (String.ofList characters) = characters.flatMap String.utf8EncodeChar := by
  simp [ofText, String.ofList, List.utf8Encode]

theorem Bytes.ofText_append (one other : String) : ofText (one ++ other) = ofText one ++ ofText other := by
  simp [ofText]

theorem Bytes.length_ofText (text : String) : (ofText text).length = text.utf8ByteSize :=
  (Array.length_toList ..).trans (String.size_toByteArray ..)

theorem Bytes.ofText_inj {one other : String} : ofText one = ofText other ↔ one = other :=
  written_inj text?_ofText (fun _ _ => Option.some.inj)

namespace Base64

theorem symbol_roundTrip : ∀ value ∈ List.range 64, value? (symbol value) = some value := by decide

theorem value?_symbol {value : Nat} (small : value < 64) : value? (symbol value) = some value :=
  symbol_roundTrip value (List.mem_range.2 small)

theorem symbol_ne_padding {value : Nat} (small : value < 64) : symbol value ≠ '=' := by
  intro same
  have read := value?_symbol small
  rw [same] at read
  cases read

theorem decodeSymbols_encodeSymbols (bytes : Bytes) :
    decodeSymbols (encodeSymbols bytes) = some bytes := by
  induction bytes using encodeSymbols.induct with
  | case1 => rfl
  | case2 first =>
    have := first.toNat_lt
    rw [encodeSymbols, decodeSymbols, value?_symbol (by omega), value?_symbol (by omega)]
    have one : first.toNat / 4 * 4 + first.toNat % 4 * 16 / 16 = first.toNat := by omega
    have spare : first.toNat % 4 * 16 % 16 = 0 := by omega
    simp only [Option.bind_eq_bind, Option.bind_some, spare, if_true, one, UInt8.ofNat_toNat]
  | case3 first second =>
    have := first.toNat_lt
    have := second.toNat_lt
    rw [encodeSymbols, decodeSymbols, value?_symbol (by omega), value?_symbol (by omega),
      value?_symbol (by omega)]
    · have one : first.toNat / 4 * 4 + (first.toNat % 4 * 16 + second.toNat / 16) / 16 =
          first.toNat := by omega
      have two : (first.toNat % 4 * 16 + second.toNat / 16) % 16 * 16 + second.toNat % 16 * 4 / 4 =
          second.toNat := by omega
      have spare : second.toNat % 16 * 4 % 4 = 0 := by omega
      simp only [Option.bind_eq_bind, Option.bind_some, spare, if_true, one, two,
        UInt8.ofNat_toNat]
    · exact symbol_ne_padding (by omega)
  | case4 first second third rest ih =>
    have := first.toNat_lt
    have := second.toNat_lt
    have := third.toNat_lt
    have unpadded : symbol (third.toNat % 64) ≠ '=' := symbol_ne_padding (by omega)
    rw [encodeSymbols, decodeSymbols, value?_symbol (by omega), value?_symbol (by omega),
      value?_symbol (by omega), value?_symbol (by omega), ih]
    · have one : first.toNat / 4 * 4 + (first.toNat % 4 * 16 + second.toNat / 16) / 16 =
          first.toNat := by omega
      have two : (first.toNat % 4 * 16 + second.toNat / 16) % 16 * 16 +
          (second.toNat % 16 * 4 + third.toNat / 64) / 4 = second.toNat := by omega
      have three : (second.toNat % 16 * 4 + third.toNat / 64) % 4 * 64 + third.toNat % 64 =
          third.toNat := by omega
      simp only [Option.bind_eq_bind, Option.bind_some, one, two, three, UInt8.ofNat_toNat]
    · exact fun _ padding _ => unpadded padding
    · exact fun padding _ => unpadded padding

theorem decode_encode (bytes : Bytes) : decode (encode bytes) = some bytes := by
  rw [decode, encode, String.toList_ofList, decodeSymbols_encodeSymbols]

theorem mem_encodeSymbols {bytes : Bytes} {character : Char}
    (member : character ∈ encodeSymbols bytes) :
    character = '=' ∨ ∃ value < 64, character = symbol value := by
  induction bytes using encodeSymbols.induct with
  | case1 => cases member
  | case2 first =>
    have := first.toNat_lt
    simp only [encodeSymbols, List.mem_cons, List.not_mem_nil, or_false] at member
    rcases member with own | own | own | own
    · exact .inr ⟨_, by omega, own⟩
    · exact .inr ⟨_, by omega, own⟩
    · exact .inl own
    · exact .inl own
  | case3 first second =>
    have := first.toNat_lt
    have := second.toNat_lt
    simp only [encodeSymbols, List.mem_cons, List.not_mem_nil, or_false] at member
    rcases member with own | own | own | own
    · exact .inr ⟨_, by omega, own⟩
    · exact .inr ⟨_, by omega, own⟩
    · exact .inr ⟨_, by omega, own⟩
    · exact .inl own
  | case4 first second third rest ih =>
    have := first.toNat_lt
    have := second.toNat_lt
    have := third.toNat_lt
    simp only [encodeSymbols, List.mem_cons] at member
    rcases member with own | own | own | own | later
    · exact .inr ⟨_, by omega, own⟩
    · exact .inr ⟨_, by omega, own⟩
    · exact .inr ⟨_, by omega, own⟩
    · exact .inr ⟨_, by omega, own⟩
    · exact ih later

theorem symbol_of_value? {character : Char} {value : Nat} (read : value? character = some value) :
    value < 64 ∧ symbol value = character := by
  have own := Char.ofNat_toNat character
  simp only [value?] at read
  split at read
  · next capital =>
    cases read
    rw [symbol, if_pos (by omega), Nat.add_sub_cancel' capital.1]
    exact ⟨by omega, own⟩
  · split at read
    · next small =>
      cases read
      rw [symbol, if_neg (by omega), if_pos (by omega), Nat.add_sub_cancel' (by omega)]
      exact ⟨by omega, own⟩
    · split at read
      · next digit =>
        cases read
        rw [symbol, if_neg (by omega), if_neg (by omega), if_pos (by omega), Nat.add_sub_cancel]
        exact ⟨by omega, own⟩
      · split at read
        · next plus =>
          cases read
          exact ⟨by decide, plus.symm⟩
        · next notPlus =>
          rw [Option.ite_none_right_eq_some] at read
          obtain ⟨slash, same⟩ := read
          cases same
          exact ⟨by decide, slash.symm⟩

theorem encodeSymbols_of_decodeSymbols {text : List Char} {bytes : Bytes}
    (decoded : decodeSymbols text = some bytes) : encodeSymbols bytes = text := by
  have octet {value : Nat} (small : value < 256) : (UInt8.ofNat value).toNat = value :=
    UInt8.toNat_ofNat_of_lt small
  induction text using decodeSymbols.induct generalizing bytes with
  | case1 =>
    cases decoded
    rfl
  | case2 first second =>
    simp only [decodeSymbols, Option.bind_eq_bind, Option.bind_eq_some_iff,
      Option.ite_none_right_eq_some] at decoded
    obtain ⟨one, oneRead, two, twoRead, spare, same⟩ := decoded
    cases same
    obtain ⟨oneSmall, rfl⟩ := symbol_of_value? oneRead
    obtain ⟨twoSmall, rfl⟩ := symbol_of_value? twoRead
    have upper : (one * 4 + two / 16) / 4 = one := by omega
    have lower : (one * 4 + two / 16) % 4 * 16 = two := by omega
    rw [encodeSymbols, octet (by omega), upper, lower]
  | case3 first second third unpadded =>
    simp only [decodeSymbols, Option.bind_eq_bind, Option.bind_eq_some_iff,
      Option.ite_none_right_eq_some] at decoded
    obtain ⟨one, oneRead, two, twoRead, three, threeRead, spare, same⟩ := decoded
    cases same
    obtain ⟨oneSmall, rfl⟩ := symbol_of_value? oneRead
    obtain ⟨twoSmall, rfl⟩ := symbol_of_value? twoRead
    obtain ⟨threeSmall, rfl⟩ := symbol_of_value? threeRead
    have upper : (one * 4 + two / 16) / 4 = one := by omega
    have middle : (one * 4 + two / 16) % 4 * 16 + (two % 16 * 16 + three / 4) / 16 = two := by omega
    have lower : (two % 16 * 16 + three / 4) % 16 * 4 = three := by omega
    rw [encodeSymbols, octet (by omega), octet (by omega), upper, middle, lower]
  | case4 first second third fourth rest _ _ ih =>
    rw [decodeSymbols] at decoded
    · simp only [Option.bind_eq_bind, Option.bind_eq_some_iff, Option.some.injEq] at decoded
      obtain ⟨one, oneRead, two, twoRead, three, threeRead, four, fourRead, tail, later, same⟩ := decoded
      cases same
      obtain ⟨oneSmall, rfl⟩ := symbol_of_value? oneRead
      obtain ⟨twoSmall, rfl⟩ := symbol_of_value? twoRead
      obtain ⟨threeSmall, rfl⟩ := symbol_of_value? threeRead
      obtain ⟨fourSmall, rfl⟩ := symbol_of_value? fourRead
      have upper : (one * 4 + two / 16) / 4 = one := by omega
      have middle : (one * 4 + two / 16) % 4 * 16 + (two % 16 * 16 + three / 4) / 16 = two := by
        omega
      have lower : (two % 16 * 16 + three / 4) % 16 * 4 + (three % 4 * 64 + four) / 64 = three := by
        omega
      have last : (three % 4 * 64 + four) % 64 = four := by omega
      rw [encodeSymbols, octet (by omega), octet (by omega), octet (by omega), upper, middle, lower,
        last, ih later]
    · assumption
    · assumption
  | case5 text _ _ _ _ =>
    rw [decodeSymbols] at decoded
    · cases decoded
    all_goals assumption

theorem decode_eq_some_iff {text : String} {bytes : Bytes} :
    decode text = some bytes ↔ text = encode bytes := by
  constructor
  · intro decoded
    rw [encode, encodeSymbols_of_decodeSymbols decoded, String.ofList_toList]
  · rintro rfl
    exact decode_encode bytes

theorem encode_inj {one other : Bytes} : encode one = encode other ↔ one = other :=
  written_inj decode_encode (fun _ _ => Option.some.inj)

end Base64

namespace Hex

theorem toLower_digit : ∀ value ∈ List.range 16, (digit value).toLower = digit value := by decide

theorem octet_eq (byte : UInt8) : ∃ high ∈ List.range 16, ∃ low ∈ List.range 16,
    octet byte = [digit high, digit low] := by
  have := byte.toNat_lt
  exact ⟨byte.toNat / 16, List.mem_range.2 (by omega), byte.toNat % 16,
    List.mem_range.2 (by omega), rfl⟩

theorem lowercase_encode (bytes : Bytes) : Text.lowercase (encode bytes) = encode bytes := by
  rw [Text.lowercase, encode, String.toList_ofList]
  congr 1
  induction bytes with
  | nil => rfl
  | cons byte rest ih =>
    obtain ⟨high, highSmall, low, lowSmall, octet⟩ := octet_eq byte
    rw [List.flatMap_cons, List.map_append, ih, octet]
    simp [toLower_digit high highSmall, toLower_digit low lowSmall]

def digitOctet (value : Nat) : UInt8 := UInt8.ofNat (digit value).toNat

theorem utf8_digit : ∀ value ∈ List.range 16,
    String.utf8EncodeChar (digit value) = [digitOctet value] := by decide

theorem digitValue?_digitOctet : ∀ value ∈ List.range 16,
    digitValue? (digitOctet value) = some (UInt8.ofNat value) := by decide

theorem ofText_encode (bytes : Bytes) : Bytes.ofText (encode bytes) =
    bytes.flatMap fun byte => [digitOctet (byte.toNat / 16), digitOctet (byte.toNat % 16)] := by
  rw [encode, Bytes.ofText_ofList]
  induction bytes with
  | nil => rfl
  | cons byte rest ih =>
    have := byte.toNat_lt
    have high := utf8_digit (byte.toNat / 16) (List.mem_range.2 (by omega))
    have low := utf8_digit (byte.toNat % 16) (List.mem_range.2 (by omega))
    rw [List.flatMap_cons, List.flatMap_append, ih, List.flatMap_cons]
    simp [octet, high, low]

def lowerOctet (octet : UInt8) : UInt8 := if 65 ≤ octet ∧ octet ≤ 90 then octet + 32 else octet

theorem utf8_toLower_ascii : ∀ value ∈ List.range 128,
    String.utf8EncodeChar (Char.ofNat value).toLower =
      (String.utf8EncodeChar (Char.ofNat value)).map lowerOctet := by decide +kernel

theorem lowerOctet_of_not_ascii {octet : UInt8} (large : 128 ≤ octet.toNat) :
    lowerOctet octet = octet := by
  rw [lowerOctet, if_neg]
  rintro ⟨_, small⟩
  rw [UInt8.le_iff_toNat_le] at small
  have bound : (90 : UInt8).toNat = 90 := rfl
  omega

theorem utf8_ge_of_not_ascii {character : Char} (large : 127 < character.toNat) :
    ∀ octet ∈ String.utf8EncodeChar character, 128 ≤ octet.toNat := by
  have value : character.val.toNat = character.toNat := rfl
  intro octet member
  rw [String.utf8EncodeChar, value, if_neg (by omega)] at member
  split at member
  · simp only [List.mem_cons, List.not_mem_nil, or_false] at member
    rcases member with rfl | rfl <;> simp only [UInt8.toNat_ofNat'] <;> omega
  · split at member
    · simp only [List.mem_cons, List.not_mem_nil, or_false] at member
      rcases member with rfl | rfl | rfl <;> simp only [UInt8.toNat_ofNat'] <;> omega
    · simp only [List.mem_cons, List.not_mem_nil, or_false] at member
      rcases member with rfl | rfl | rfl | rfl <;> simp only [UInt8.toNat_ofNat'] <;> omega

theorem utf8_toLower (character : Char) : String.utf8EncodeChar character.toLower =
    (String.utf8EncodeChar character).map lowerOctet := by
  by_cases ascii : character.toNat < 128
  · have known := utf8_toLower_ascii character.toNat (List.mem_range.2 ascii)
    rwa [Char.ofNat_toNat] at known
  · have same : character.toLower = character := by
      refine dif_neg ?_
      rintro ⟨_, small⟩
      rw [UInt32.le_iff_toNat_le] at small
      have bound : 'Z'.val.toNat = 90 := rfl
      have value : character.val.toNat = character.toNat := rfl
      omega
    have kept : (String.utf8EncodeChar character).map lowerOctet =
        (String.utf8EncodeChar character).map id :=
      List.map_congr_left fun octet member =>
        lowerOctet_of_not_ascii (utf8_ge_of_not_ascii (by omega) octet member)
    rw [same, kept, List.map_id]

theorem ofText_lowercase (text : String) :
    Bytes.ofText (Text.lowercase text) = (Bytes.ofText text).map lowerOctet := by
  have own := Bytes.ofText_ofList text.toList
  rw [String.ofList_toList] at own
  rw [Text.lowercase, Bytes.ofText_ofList, own, List.flatMap_map, List.map_flatMap]
  simp only [utf8_toLower]

theorem digitValue?_bounds : ∀ octet ∈ List.range 256,
    (digitValue? (UInt8.ofNat octet)).all fun value => value.toNat < 16 ∧
      lowerOctet (UInt8.ofNat octet) = digitOctet value.toNat := by decide +kernel

theorem digitValue?_lowerOctet : ∀ octet ∈ List.range 256,
    digitValue? (lowerOctet (UInt8.ofNat octet)) = digitValue? (UInt8.ofNat octet) := by decide +kernel

theorem digitValue?_eq_some_iff {octet value : UInt8} : digitValue? octet = some value ↔
    value.toNat < 16 ∧ lowerOctet octet = digitOctet value.toNat := by
  have member : octet.toNat ∈ List.range 256 := List.mem_range.2 octet.toNat_lt
  constructor
  · intro read
    have bounds := digitValue?_bounds octet.toNat member
    rw [UInt8.ofNat_toNat, read] at bounds
    simpa using bounds
  · rintro ⟨small, same⟩
    have lowered := digitValue?_lowerOctet octet.toNat member
    rw [UInt8.ofNat_toNat, same, digitValue?_digitOctet _ (List.mem_range.2 small),
      UInt8.ofNat_toNat] at lowered
    exact lowered.symm

theorem decodePairs_cons_iff {position : Nat} {high low : UInt8} {rest value : Bytes} :
    decodePairs position (high :: low :: rest) = .ok value ↔
      ∃ upper lower tail, digitValue? high = some upper ∧ digitValue? low = some lower ∧
        decodePairs (position + 2) rest = .ok tail ∧ value = (upper * 16 + lower) :: tail := by
  rw [decodePairs]
  cases digitValue? high with
  | none => simp
  | some upper =>
    cases digitValue? low with
    | none => simp
    | some lower =>
      cases decodePairs (position + 2) rest with
      | error failure => simp [bind, Except.bind]
      | ok tail => simp [bind, Except.bind, pure, Except.pure, eq_comm]

theorem decodePairs_eq_ok_iff {position : Nat} {octets value : Bytes}
    (even : octets.length % 2 = 0) :
    decodePairs position octets = .ok value ↔ octets.map lowerOctet = value.flatMap fun byte =>
      [digitOctet (byte.toNat / 16), digitOctet (byte.toNat % 16)] := by
  induction octets using List.twoStepInduction generalizing position value with
  | nil => cases value <;> simp [decodePairs]
  | singleton octet => cases even
  | cons_cons high low rest ih =>
    have restEven : rest.length % 2 = 0 := by
      rw [List.length_cons, List.length_cons] at even
      omega
    rw [decodePairs_cons_iff, List.map_cons, List.map_cons]
    simp only [digitValue?_eq_some_iff, ih restEven]
    constructor
    · rintro ⟨upper, lower, tail, ⟨upperSmall, upperSame⟩, ⟨lowerSmall, lowerSame⟩, later, rfl⟩
      have whole : (upper * 16 + lower).toNat = upper.toNat * 16 + lower.toNat := by
        simp only [UInt8.toNat_add, UInt8.toNat_mul, UInt8.reduceToNat]
        omega
      have first : (upper.toNat * 16 + lower.toNat) / 16 = upper.toNat := by omega
      have second : (upper.toNat * 16 + lower.toNat) % 16 = lower.toNat := by omega
      rw [List.flatMap_cons, whole, first, second, upperSame, lowerSame, later]
      rfl
    · intro same
      cases value with
      | nil => cases same
      | cons byte tail =>
        have bound := byte.toNat_lt
        rw [List.flatMap_cons, List.cons_append, List.cons_append, List.nil_append] at same
        obtain ⟨upperSame, same⟩ := List.cons.inj same
        obtain ⟨lowerSame, later⟩ := List.cons.inj same
        have upper : (UInt8.ofNat (byte.toNat / 16)).toNat = byte.toNat / 16 :=
          UInt8.toNat_ofNat_of_lt (show byte.toNat / 16 < 256 by omega)
        have lower : (UInt8.ofNat (byte.toNat % 16)).toNat = byte.toNat % 16 :=
          UInt8.toNat_ofNat_of_lt (show byte.toNat % 16 < 256 by omega)
        refine ⟨UInt8.ofNat (byte.toNat / 16), UInt8.ofNat (byte.toNat % 16), tail, ⟨?_, ?_⟩,
          ⟨?_, ?_⟩, later, ?_⟩
        · rw [upper]
          omega
        · rw [upper, upperSame]
        · rw [lower]
          omega
        · rw [lower, lowerSame]
        · have whole : UInt8.ofNat (byte.toNat / 16) * 16 + UInt8.ofNat (byte.toNat % 16) = byte := by
            apply UInt8.toNat_inj.1
            simp only [UInt8.toNat_add, UInt8.toNat_mul, UInt8.reduceToNat, upper, lower]
            omega
          rw [whole]

/-- A text is read as the octets that its lowercase form is written for, and only as those. -/
theorem decode_eq_ok_iff {text : String} {value : Bytes} :
    decode text = .ok value ↔ Text.lowercase text = encode value := by
  rw [← Bytes.ofText_inj, ofText_lowercase, ofText_encode]
  simp only [decode]
  by_cases odd : (Bytes.ofText text).length % 2 = 1
  · rw [if_pos odd]
    constructor
    · intro impossible
      cases impossible
    · intro same
      have length := congrArg List.length same
      simp only [List.length_map, List.length_flatMap, List.length_cons, List.length_nil,
        List.map_const', List.sum_replicate_nat] at length
      omega
  · rw [if_neg odd]
    exact decodePairs_eq_ok_iff (by omega)

def FirstNoDigit (octets before : Bytes) (octet : UInt8) : Prop :=
  (∃ after, octets = before ++ octet :: after) ∧ isDigit octet = false ∧
    ∀ digit ∈ before, isDigit digit = true

theorem firstNoDigit_cons_iff {first octet : UInt8} {rest before : Bytes} :
    FirstNoDigit (first :: rest) before octet ↔
      (isDigit first = false ∧ before = [] ∧ octet = first) ∨
        (isDigit first = true ∧ ∃ later, before = first :: later ∧ FirstNoDigit rest later octet) := by
  constructor
  · rintro ⟨⟨after, split⟩, wrong, digits⟩
    cases before with
    | nil =>
      obtain ⟨rfl, rfl⟩ := List.cons.inj split
      exact .inl ⟨wrong, rfl, rfl⟩
    | cons head later =>
      obtain ⟨rfl, rfl⟩ := List.cons.inj split
      obtain ⟨own, others⟩ := List.forall_mem_cons.1 digits
      exact .inr ⟨own, later, rfl, ⟨after, rfl⟩, wrong, others⟩
  · rintro (⟨wrong, rfl, rfl⟩ | ⟨own, later, rfl, ⟨after, rfl⟩, wrong, others⟩)
    · exact ⟨⟨rest, rfl⟩, wrong, nofun⟩
    · exact ⟨⟨after, rfl⟩, wrong, List.forall_mem_cons.2 ⟨own, others⟩⟩

/-- Pairs are refused at the first octet that is no digit. -/
theorem decodePairs_eq_error_iff {position : Nat} {octets : Bytes} {failure : Error}
    (even : octets.length % 2 = 0) :
    decodePairs position octets = .error failure ↔ ∃ before octet,
      FirstNoDigit octets before octet ∧ failure = .invalidOctet octet (position + before.length) := by
  induction octets using List.twoStepInduction generalizing position with
  | nil => simp [decodePairs, FirstNoDigit]
  | singleton octet => cases even
  | cons_cons high low rest ih =>
    have restEven : rest.length % 2 = 0 := by
      rw [List.length_cons, List.length_cons] at even
      omega
    have later : decodePairs (position + 2) rest = .error failure ↔ ∃ before octet,
        FirstNoDigit rest before octet ∧
          failure = .invalidOctet octet (position + 2 + before.length) := ih restEven
    rw [decodePairs]
    simp only [firstNoDigit_cons_iff, isDigit]
    cases digitValue? high with
    | none =>
      constructor
      · rintro ⟨⟩
        exact ⟨[], high, .inl ⟨rfl, rfl, rfl⟩, rfl⟩
      · rintro ⟨_, _, ⟨_, rfl, rfl⟩ | ⟨impossible, _⟩, rfl⟩
        · rfl
        · cases impossible
    | some upper =>
      cases digitValue? low with
      | none =>
        constructor
        · rintro ⟨⟩
          exact ⟨[high], low, .inr ⟨rfl, [], rfl, .inl ⟨rfl, rfl, rfl⟩⟩, rfl⟩
        · rintro ⟨_, _, ⟨impossible, _⟩ | ⟨_, _, rfl, ⟨_, rfl, rfl⟩ | ⟨impossible, _⟩⟩, rfl⟩
          · cases impossible
          · rfl
          · cases impossible
      | some lower =>
        have passed : (do
            let tail ← decodePairs (position + 2) rest
            return (upper * 16 + lower) :: tail) = Except.error failure ↔
              decodePairs (position + 2) rest = .error failure := by
          cases decodePairs (position + 2) rest <;> simp [bind, Except.bind, pure, Except.pure]
        rw [passed, later]
        constructor
        · rintro ⟨before, octet, found, rfl⟩
          refine ⟨high :: low :: before, octet,
            .inr ⟨rfl, low :: before, rfl, .inr ⟨rfl, before, rfl, found⟩⟩, ?_⟩
          simp only [List.length_cons, Nat.add_assoc, Nat.add_comm 2, Nat.reduceAdd]
        · rintro ⟨_, octet, ⟨impossible, _⟩ |
            ⟨_, _, rfl, ⟨impossible, _⟩ | ⟨_, before, rfl, found⟩⟩, rfl⟩
          · cases impossible
          · cases impossible
          · refine ⟨before, octet, found, ?_⟩
            simp only [List.length_cons, Nat.add_assoc, Nat.add_comm 2, Nat.reduceAdd]

/-- A text is refused for its odd length, or else for its first octet that is no digit. -/
def Refuses (text : String) (failure : Error) : Prop :=
  ((Bytes.ofText text).length % 2 = 1 ∧ failure = .oddLength) ∨
    ((Bytes.ofText text).length % 2 = 0 ∧ ∃ before octet,
      FirstNoDigit (Bytes.ofText text) before octet ∧ failure = .invalidOctet octet before.length)

theorem decode_eq_error_iff {text : String} {failure : Error} :
    decode text = .error failure ↔ Refuses text failure := by
  simp only [decode, Refuses]
  by_cases odd : (Bytes.ofText text).length % 2 = 1
  · simp [odd, eq_comm]
  · have even : (Bytes.ofText text).length % 2 = 0 := by omega
    rw [if_neg odd, decodePairs_eq_error_iff even]
    simp only [even, Nat.zero_ne_one, false_and, false_or, true_and, Nat.zero_add]

theorem decode_encode (bytes : Bytes) : decode (encode bytes) = .ok bytes :=
  decode_eq_ok_iff.2 (lowercase_encode bytes)

theorem encode_inj {one other : Bytes} : encode one = encode other ↔ one = other :=
  written_inj decode_encode (fun _ _ => Except.ok.inj)

end Hex

end EnclaveProvenance
