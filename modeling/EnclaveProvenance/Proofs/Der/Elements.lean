import EnclaveProvenance.Der.Element

/-!
Framing in the Distinguished Encoding Rules: reading takes exactly the encodings of readable
elements off a text, so that an element is found again in whatever text its octets are put.
-/

namespace EnclaveProvenance

theorem Bytes.toNat_cons (first : UInt8) (bytes : Bytes) :
    toNat (first :: bytes) = first.toNat * Nat.pow 256 bytes.length + toNat bytes := by
  have started (digits : Bytes) (start : Nat) :
      digits.foldl (fun value byte => value * 256 + byte.toNat) start =
        start * Nat.pow 256 digits.length + toNat digits := by
    induction digits generalizing start with
    | nil => simp [toNat]
    | cons digit rest ih =>
      rw [toNat, List.foldl_cons, List.foldl_cons, ih, ih (0 * 256 + digit.toNat),
        List.length_cons, Nat.pow_eq, Nat.pow_eq, Nat.pow_succ]
      grind
  rw [toNat, List.foldl_cons, started]
  simp

theorem Bytes.toNat_ofNat (width value : Nat) :
    toNat (ofNat width value) = value % Nat.pow 256 width := by
  induction width with
  | zero => simp [ofNat, toNat, Nat.mod_one]
  | succ width ih =>
    have digit : (UInt8.ofNat (value / Nat.pow 256 width)).toNat =
        value / Nat.pow 256 width % 256 := UInt8.toNat_ofNat'
    rw [ofNat, toNat_cons, length_ofNat, ih, digit, Nat.pow_eq, Nat.pow_eq, Nat.mod_pow_succ]
    grind

theorem Bytes.toNat_lt (bytes : Bytes) : toNat bytes < Nat.pow 256 bytes.length := by
  rw [Nat.pow_eq]
  induction bytes with
  | nil => simp [toNat]
  | cons first rest ih =>
    have digit : first.toNat + 1 ≤ 256 := first.toNat_lt
    have scaled := Nat.mul_le_mul_right (256 ^ rest.length) digit
    rw [toNat_cons, List.length_cons, Nat.pow_eq, Nat.pow_succ]
    grind

theorem Bytes.ofNat_add_mul (width high low : Nat) :
    ofNat width (low + Nat.pow 256 width * high) = ofNat width low := by
  have places (count : Nat) (bound : count ≤ width) :
      ofNat count (low + 256 ^ width * high) = ofNat count low := by
    induction count with
    | zero => rfl
    | succ count ih =>
      have factor : 256 ^ width * high = 256 ^ count * (256 * (256 ^ (width - (count + 1)) * high)) := by
        rw [← Nat.mul_assoc, ← Nat.mul_assoc, ← Nat.pow_succ, ← Nat.pow_add]
        congr 2
        omega
      have digit : UInt8.ofNat ((low + 256 ^ width * high) / 256 ^ count) =
          UInt8.ofNat (low / 256 ^ count) := by
        rw [factor, Nat.add_mul_div_left _ _ (Nat.pow_pos (by decide))]
        apply UInt8.toNat_inj.1
        rw [UInt8.toNat_ofNat', UInt8.toNat_ofNat']
        omega
      rw [ofNat, ofNat, Nat.pow_eq, digit, ih (by omega)]
  exact places width (Nat.le_refl width)

theorem Bytes.ofNat_toNat (bytes : Bytes) : ofNat bytes.length (toNat bytes) = bytes := by
  induction bytes with
  | nil => rfl
  | cons first rest ih =>
    have low := toNat_lt rest
    rw [Nat.pow_eq] at low
    have digit : (toNat rest + 256 ^ rest.length * first.toNat) / 256 ^ rest.length =
        first.toNat := by
      rw [Nat.add_mul_div_left _ _ (Nat.pow_pos (by decide)), Nat.div_eq_of_lt low, Nat.zero_add]
    rw [List.length_cons, ofNat, toNat_cons, Nat.mul_comm, Nat.add_comm, ofNat_add_mul, Nat.pow_eq,
      digit, ih, UInt8.ofNat_toNat]

theorem Bytes.eq_ofNat_iff {bytes : Bytes} {width value : Nat} (bound : value < Nat.pow 256 width) :
    bytes = ofNat width value ↔ bytes.length = width ∧ toNat bytes = value := by
  constructor
  · rintro rfl
    rw [length_ofNat, toNat_ofNat, Nat.mod_eq_of_lt bound]
    exact ⟨rfl, rfl⟩
  · rintro ⟨rfl, rfl⟩
    exact (ofNat_toNat bytes).symm

namespace Der

theorem minimalBytes_eq {length : Nat} (bound : length ≤ maxLength) :
    ∃ count, 1 ≤ count ∧ count ≤ 4 ∧ length < Nat.pow 256 count ∧
      minimalBytes length = Bytes.ofNat count length := by
  unfold maxLength at bound
  unfold minimalBytes
  split
  · next one => exact ⟨1, by omega, by omega, by rw [Nat.pow_eq]; omega, rfl⟩
  split
  · next two => exact ⟨2, by omega, by omega, by rw [Nat.pow_eq]; omega, rfl⟩
  split
  · next three => exact ⟨3, by omega, by omega, by rw [Nat.pow_eq]; omega, rfl⟩
  · next four => exact ⟨4, by omega, by omega, by rw [Nat.pow_eq]; omega, rfl⟩

theorem readLength_lengthOctets {length : Nat} (bound : length ≤ maxLength) (rest : Bytes) :
    readLength (lengthOctets length ++ rest) = some (length, rest) := by
  by_cases short : length < 128
  · have value : (UInt8.ofNat length).toNat = length := by
      rw [UInt8.toNat_ofNat']
      omega
    have single : UInt8.ofNat length < 0x80 := by
      rw [UInt8.lt_iff_toNat_lt, value]
      exact short
    simp [lengthOctets, readLength, short, single, value]
  · obtain ⟨count, low, high, fits, octets⟩ := minimalBytes_eq bound
    have written : lengthOctets length = UInt8.ofNat (128 + count) :: Bytes.ofNat count length := by
      simp only [lengthOctets, if_neg short, octets, Bytes.length_ofNat]
    have value : (UInt8.ofNat (128 + count)).toNat = 128 + count := by
      rw [UInt8.toNat_ofNat']
      omega
    have several : ¬UInt8.ofNat (128 + count) < 0x80 := by
      rw [UInt8.lt_iff_toNat_lt, value]
      exact Nat.not_lt.2 (Nat.le_add_right 128 count)
    have counted : 0x81 ≤ UInt8.ofNat (128 + count) ∧ UInt8.ofNat (128 + count) ≤ 0x84 := by
      rw [UInt8.le_iff_toNat_le, UInt8.le_iff_toNat_le, value]
      exact ⟨Nat.add_le_add_left low 128, Nat.add_le_add_left high 128⟩
    have taken : (Bytes.ofNat count length ++ rest).take count = Bytes.ofNat count length := by
      simp
    have dropped : (Bytes.ofNat count length ++ rest).drop count = rest := by simp
    have number : Bytes.toNat (Bytes.ofNat count length) = length := by
      rw [Bytes.toNat_ofNat, Nat.mod_eq_of_lt fits]
    rw [written, List.cons_append, readLength, if_neg several, if_pos counted]
    simp only [value, Nat.add_sub_cancel_left, taken, dropped, number]
    rw [if_pos ⟨Bytes.length_ofNat count length, written, bound⟩]

theorem readLength_le {bytes rest : Bytes} {length : Nat}
    (read : readLength bytes = some (length, rest)) : length ≤ maxLength := by
  unfold readLength at read
  split at read
  · cases read
  split at read
  · next first _ small =>
    cases read
    have bound : first.toNat < 128 := by simpa using UInt8.lt_iff_toNat_lt.1 small
    unfold maxLength
    omega
  · simp only [Option.ite_none_right_eq_some, Option.some.injEq, Prod.mk.injEq] at read
    obtain ⟨_, ⟨_, _, bound⟩, rfl, _⟩ := read
    exact bound

/-- An element that reading can give: its tag is a whole one, and its content is not too long. -/
structure Element.Readable (element : Element) : Prop where
  tag : isTag element.tag = true
  length : element.content.length ≤ maxLength

theorem readElement_encode {element : Element} (readable : element.Readable) (rest : Bytes) :
    readElement (element.encode ++ rest) = some (element, rest) := by
  rw [Element.encode, List.cons_append, List.cons_append, readElement, if_pos readable.tag,
    List.append_assoc, readLength_lengthOctets readable.length]
  simp

theorem readable_of_readElement {bytes rest : Bytes} {element : Element}
    (read : readElement bytes = some (element, rest)) : element.Readable := by
  unfold readElement at read
  split at read
  · cases read
  · split at read
    · next whole =>
      split at read
      · cases read
      · next length body lengthRead =>
        split at read
        · next fits =>
          cases read
          refine ⟨whole, ?_⟩
          rw [List.length_take, Nat.min_eq_left fits]
          exact readLength_le lengthRead
        · cases read
    · cases read

theorem readElement_eq_some_iff {bytes rest : Bytes} {element : Element} :
    readElement bytes = some (element, rest) ↔
      element.Readable ∧ bytes = element.encode ++ rest := by
  constructor
  · intro read
    exact ⟨readable_of_readElement read, encode_of_readElement read⟩
  · rintro ⟨readable, rfl⟩
    exact readElement_encode readable rest

theorem onlyElement?_eq_some_iff {bytes : Bytes} {element : Element} :
    onlyElement? bytes = some element ↔ element.Readable ∧ bytes = element.encode := by
  have whole : onlyElement? bytes = some element ↔ readElement bytes = some (element, []) := by
    unfold onlyElement?
    split
    · next found => simp [found]
    · next missed =>
      constructor
      · intro impossible
        cases impossible
      · intro found
        exact absurd found (missed element)
  rw [whole, readElement_eq_some_iff, List.append_nil]

theorem length_minimalBytes (value : Nat) :
    1 ≤ (minimalBytes value).length ∧ (minimalBytes value).length ≤ 4 := by
  rw [minimalBytes, Bytes.length_ofNat]
  repeat' split
  all_goals omega

theorem length_lengthOctets_eq {first second : Nat} {firstRest secondRest : Bytes}
    (same : lengthOctets first ++ firstRest = lengthOctets second ++ secondRest) :
    (lengthOctets first).length = (lengthOctets second).length := by
  have firstCount := length_minimalBytes first
  have secondCount := length_minimalBytes second
  unfold lengthOctets at same ⊢
  by_cases firstShort : first < 128
  · by_cases secondShort : second < 128
    · simp [firstShort, secondShort]
    · simp only [if_pos firstShort, if_neg secondShort, List.cons_append, List.cons.injEq,
        ← UInt8.toNat_inj, UInt8.toNat_ofNat'] at same
      omega
  · by_cases secondShort : second < 128
    · simp only [if_neg firstShort, if_pos secondShort, List.cons_append, List.cons.injEq,
        ← UInt8.toNat_inj, UInt8.toNat_ofNat'] at same
      omega
    · simp only [if_neg firstShort, if_neg secondShort, List.cons_append, List.cons.injEq,
        ← UInt8.toNat_inj, UInt8.toNat_ofNat'] at same
      simp only [if_neg firstShort, if_neg secondShort, List.length_cons]
      omega

theorem Element.encode_inj {first second : Element} (same : first.encode = second.encode) :
    first = second := by
  rw [encode, encode, List.cons_append, List.cons_append, List.cons.injEq] at same
  obtain ⟨tag, same⟩ := same
  have content := (List.append_inj same (length_lengthOctets_eq same)).2
  cases first
  cases second
  cases tag
  cases content
  rfl

theorem encodeAll_cons (element : Element) (elements : List Element) :
    encodeAll (element :: elements) = element.encode ++ encodeAll elements := by
  simp [encodeAll]

theorem splitElements_encodeAll {elements : List Element}
    (readable : ∀ element ∈ elements, element.Readable) {fuel : Nat}
    (enough : (encodeAll elements).length ≤ fuel) :
    splitElements fuel (encodeAll elements) = some elements := by
  induction elements generalizing fuel with
  | nil =>
    rw [encodeAll, List.flatMap_nil]
    cases fuel <;> rfl
  | cons element rest ih =>
    rw [encodeAll_cons] at enough ⊢
    cases fuel with
    | zero => simp [Element.encode] at enough
    | succ fuel =>
      have remaining : (encodeAll rest).length ≤ fuel := by
        rw [List.length_append, Element.encode, List.cons_append, List.length_cons] at enough
        omega
      have first := readElement_encode (readable element List.mem_cons_self) (encodeAll rest)
      rw [splitElements]
      · rw [first]
        simp [ih (fun other member => readable other (List.mem_cons_of_mem _ member)) remaining]
      · simp [Element.encode]

theorem readable_of_splitElements {fuel : Nat} {bytes : Bytes} {elements : List Element}
    (split : splitElements fuel bytes = some elements) :
    ∀ element ∈ elements, element.Readable := by
  induction fuel generalizing bytes elements with
  | zero =>
    cases bytes with
    | nil =>
      cases split
      simp
    | cons head tail => cases split
  | succ fuel ih =>
    cases bytes with
    | nil =>
      cases split
      simp
    | cons head tail =>
      simp only [splitElements] at split
      split at split
      · cases split
      · next element rest read =>
        obtain ⟨later, laterSplit, rfl⟩ := Option.map_eq_some_iff.1 split
        intro other member
        rcases List.mem_cons.1 member with rfl | inLater
        · exact readable_of_readElement read
        · exact ih laterSplit other inLater

theorem elements?_eq_some_iff {bytes : Bytes} {elements : List Element} :
    elements? bytes = some elements ↔
      (∀ element ∈ elements, element.Readable) ∧ bytes = encodeAll elements := by
  constructor
  · intro split
    exact ⟨readable_of_splitElements split, (encode_of_splitElements split).symm⟩
  · rintro ⟨readable, rfl⟩
    exact splitElements_encodeAll readable (Nat.le_refl _)

end Der

end EnclaveProvenance
