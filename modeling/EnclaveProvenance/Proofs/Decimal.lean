import EnclaveProvenance.Proofs.Encodings
import EnclaveProvenance.Text

/-!
Decimal numbers in texts: what digits denote, that a number has one shortest written form, and that a
number can be told from what follows it.
-/

namespace EnclaveProvenance.Text

theorem isPrefixOf?_eq_some_iff {α : Type} [BEq α] [LawfulBEq α] {lead text rest : List α} :
    lead.isPrefixOf? text = some rest ↔ text = lead ++ rest := by
  induction lead generalizing text with
  | nil =>
    show some text = some rest ↔ text = rest
    exact Option.some.injEq text rest ▸ Iff.rfl
  | cons first lead ih =>
    cases text with
    | nil =>
      constructor
      · intro impossible
        cases impossible
      · intro impossible
        cases impossible
    | cons member text =>
      show (if first == member then lead.isPrefixOf? text else none) = some rest ↔ _
      by_cases same : first = member
      · simp [same, ih]
      · simp [same, Ne.symm same]

theorem append_cons_inj {α : Type} {separator : α} {first second firstRest secondRest : List α}
    (firstFree : separator ∉ first) (secondFree : separator ∉ second)
    (same : first ++ separator :: firstRest = second ++ separator :: secondRest) :
    first = second ∧ firstRest = secondRest := by
  induction first generalizing second with
  | nil =>
    cases second with
    | nil => exact ⟨rfl, (List.cons.inj same).2⟩
    | cons other rest =>
      have head := (List.cons.inj same).1
      exact absurd (by simp [head]) secondFree
  | cons member rest ih =>
    cases second with
    | nil =>
      have head := (List.cons.inj same).1
      exact absurd (by simp [head]) firstFree
    | cons other others =>
      obtain ⟨head, tail⟩ := List.cons.inj same
      rw [List.mem_cons, not_or] at firstFree secondFree
      obtain ⟨rfl, later⟩ := ih firstFree.2 secondFree.2 tail
      exact ⟨by rw [head], later⟩

theorem isDigit_iff {character : Char} :
    character.isDigit = true ↔ 48 ≤ character.toNat ∧ character.toNat ≤ 57 := by
  simp only [Char.isDigit, ge_iff_le, Bool.and_eq_true, decide_eq_true_eq, UInt32.le_iff_toNat_le]
  exact Iff.rfl

theorem decimalDigit?_of_isDigit {character : Char} (digit : character.isDigit = true) :
    decimalDigit? character = some (character.toNat - 48) := by
  have bounds := isDigit_iff.1 digit
  have range : '0' ≤ character ∧ character ≤ '9' := by
    simp only [Char.le_def, UInt32.le_iff_toNat_le]
    exact bounds
  simp [decimalDigit?, range]

theorem digits?_eq_some {digits : List Char} (nonempty : digits ≠ [])
    (all : ∀ character ∈ digits, character.isDigit = true) :
    digits? digits = some (Nat.ofDigitChars 10 digits 0) := by
  have run (start : Nat) : digits.foldl (fun value character => do
      return (← value) * 10 + (← decimalDigit? character)) (some start) =
        some (Nat.ofDigitChars 10 digits start) := by
    clear nonempty
    induction digits generalizing start with
    | nil => simp
    | cons character rest ih =>
      have digit := decimalDigit?_of_isDigit (all character (by simp))
      have step : (do return (← some start) * 10 + (← decimalDigit? character)) =
          some (10 * start + (character.toNat - 48)) := by
        simp [digit, Nat.mul_comm]
      rw [List.foldl_cons, Nat.ofDigitChars_cons, step]
      exact ih (fun other member => all other (by simp [member])) _
  rw [digits?, if_neg (by simpa using nonempty)]
  exact run 0

theorem isDigit_of_decimalDigit? {character : Char} {value : Nat}
    (read : decimalDigit? character = some value) : character.isDigit = true := by
  unfold decimalDigit? at read
  split at read
  · next range =>
    simp only [Char.le_def, UInt32.le_iff_toNat_le] at range
    exact isDigit_iff.2 range
  · cases read

theorem digits?_eq_some_iff {digits : List Char} {value : Nat} :
    digits? digits = some value ↔ digits ≠ [] ∧ (∀ character ∈ digits, character.isDigit = true) ∧
      value = Nat.ofDigitChars 10 digits 0 := by
  have run (start : Option Nat) (found : digits.foldl (fun value character => do
      return (← value) * 10 + (← decimalDigit? character)) start = some value) :
      (∃ first, start = some first) ∧ ∀ character ∈ digits, character.isDigit = true := by
    induction digits generalizing start with
    | nil => exact ⟨⟨value, found⟩, by simp⟩
    | cons character rest ih =>
      obtain ⟨⟨_, stepped⟩, later⟩ := ih _ found
      simp only [Option.bind_eq_bind, Option.bind_eq_some_iff] at stepped
      obtain ⟨first, started, digit, read, _⟩ := stepped
      exact ⟨⟨first, started⟩, List.forall_mem_cons.2 ⟨isDigit_of_decimalDigit? read, later⟩⟩
  constructor
  · intro found
    have nonempty : digits ≠ [] := by
      rintro rfl
      cases found
    have all : ∀ character ∈ digits, character.isDigit = true := by
      rw [digits?, if_neg (by simpa using nonempty)] at found
      exact (run _ found).2
    rw [digits?_eq_some nonempty all, Option.some.injEq] at found
    exact ⟨nonempty, all, found.symm⟩
  · rintro ⟨nonempty, all, rfl⟩
    exact digits?_eq_some nonempty all

theorem ofDigitChars_lt {digits : List Char}
    (all : ∀ character ∈ digits, character.isDigit = true) :
    Nat.ofDigitChars 10 digits 0 < Nat.pow 10 digits.length := by
  rw [Nat.pow_eq]
  induction digits with
  | nil => simp
  | cons character rest ih =>
    have bounds := isDigit_iff.1 (all character (by simp))
    have later := ih fun other member => all other (by simp [member])
    have small : character.toNat - '0'.toNat ≤ 9 := by
      have zero : '0'.toNat = 48 := rfl
      omega
    have scaled := Nat.mul_le_mul_left (10 ^ rest.length) small
    rw [Nat.ofDigitChars_cons, Nat.ofDigitChars_eq_ofDigitChars_zero, List.length_cons,
      Nat.pow_succ, Nat.mul_zero, Nat.zero_add]
    omega

/-- Digits of which there could not be fewer: no zero leads them but a lone one. -/
structure Shortest (digits : List Char) : Prop where
  nonempty : digits ≠ []
  all_digits : ∀ character ∈ digits, character.isDigit = true
  no_leading_zero : 1 < digits.length → digits.head? ≠ some '0'

theorem digitChar_of_isDigit {character : Char} (digit : character.isDigit = true) :
    Nat.digitChar (character.toNat - 48) = character := by
  have bounds := isDigit_iff.1 digit
  apply Char.toNat_inj.1
  rw [Nat.toNat_digitChar_of_lt_ten (by omega)]
  omega

theorem toDigits_append {start : Nat} {digits : List Char} (positive : 0 < start)
    (all : ∀ character ∈ digits, character.isDigit = true) :
    Nat.toDigits 10 start ++ digits = Nat.toDigits 10 (Nat.ofDigitChars 10 digits start) := by
  induction digits generalizing start with
  | nil => simp
  | cons character rest ih =>
    have digit := all character (by simp)
    have bounds := isDigit_iff.1 digit
    have step := Nat.toDigits_append_toDigits (b := 10) (n := start)
      (d := character.toNat - 48) (by decide) positive (by omega)
    rw [Nat.toDigits_of_lt_base (n := character.toNat - 48) (by omega),
      digitChar_of_isDigit digit] at step
    have later : Nat.toDigits 10 (10 * start + (character.toNat - 48)) ++ rest =
        Nat.toDigits 10 (Nat.ofDigitChars 10 rest (10 * start + (character.toNat - 48))) :=
      ih (by omega) (fun other member => all other (by simp [member]))
    calc Nat.toDigits 10 start ++ character :: rest
        = (Nat.toDigits 10 start ++ [character]) ++ rest := by simp
      _ = Nat.toDigits 10 (10 * start + (character.toNat - 48)) ++ rest := by rw [step]
      _ = Nat.toDigits 10 (Nat.ofDigitChars 10 (character :: rest) start) := by
        rw [later, Nat.ofDigitChars_cons]
        rfl

theorem Shortest.eq_toDigits {digits : List Char} (shortest : Shortest digits) :
    digits = Nat.toDigits 10 (Nat.ofDigitChars 10 digits 0) := by
  obtain ⟨nonempty, all, noLeadingZero⟩ := shortest
  cases digits with
  | nil => exact absurd rfl nonempty
  | cons character rest =>
    have digit := all character (by simp)
    have bounds := isDigit_iff.1 digit
    have first : Nat.toDigits 10 (character.toNat - 48) = [character] := by
      rw [Nat.toDigits_of_lt_base (by omega), digitChar_of_isDigit digit]
    have value : Nat.ofDigitChars 10 (character :: rest) 0 =
        Nat.ofDigitChars 10 rest (character.toNat - 48) := by
      rw [Nat.ofDigitChars_cons, Nat.mul_zero, Nat.zero_add]
      rfl
    by_cases zero : character = '0'
    · -- A zero stands alone.
      have alone : rest = [] := by
        cases rest with
        | nil => rfl
        | cons second others => exact absurd (by simp [zero]) (noLeadingZero (by simp))
      rw [value, alone, Nat.ofDigitChars_nil, first]
    · have positive : 0 < character.toNat - 48 := by
        have different : character.toNat ≠ 48 := fun same => zero (Char.toNat_inj.1 same)
        omega
      rw [value, ← toDigits_append positive (fun other member => all other (by simp [member])),
        first]
      rfl

theorem head?_toDigits_ne_zero {value : Nat} (positive : 0 < value) :
    (Nat.toDigits 10 value).head? ≠ some '0' := by
  induction value using Nat.strongRecOn with
  | ind value ih =>
    by_cases small : value < 10
    · rw [Nat.toDigits_of_lt_base small]
      simp only [List.head?_cons, ne_eq, Option.some.injEq, Nat.digitChar_eq_zero]
      omega
    · rw [Nat.toDigits_of_base_le (by decide) (by omega), List.head?_append]
      have shorter := ih (value / 10) (by omega) (by omega)
      cases head : (Nat.toDigits 10 (value / 10)).head? with
      | none => simp [Nat.toDigits_ne_nil] at head
      | some first => simpa [head] using shorter

theorem shortest_toDigits (value : Nat) : Shortest (Nat.toDigits 10 value) where
  nonempty := Nat.toDigits_ne_nil
  all_digits := fun _ member => Nat.isDigit_of_mem_toDigits (by decide) (by decide) member
  no_leading_zero := by
    intro long
    rcases Nat.eq_zero_or_pos value with zero | positive
    · simp [zero] at long
    · exact head?_toDigits_ne_zero positive

theorem shortest_and_value_iff {digits : List Char} {value : Nat} :
    Shortest digits ∧ Nat.ofDigitChars 10 digits 0 = value ↔ digits = Nat.toDigits 10 value := by
  constructor
  · rintro ⟨shortest, rfl⟩
    exact shortest.eq_toDigits
  · rintro rfl
    exact ⟨shortest_toDigits value, Nat.ofDigitChars_ten_toDigits⟩

def sign (value : Int) : List Char := if value < 0 then ['-'] else []

theorem toList_toString (value : Int) :
    (toString value).toList = sign value ++ Nat.toDigits 10 value.natAbs := by
  cases value with
  | ofNat number =>
    have plain : toString (Int.ofNat number) = toString number := rfl
    have positive : ¬Int.ofNat number < 0 := by simp
    rw [plain, Nat.toString_eq_repr, Nat.toList_repr, sign, if_neg positive]
    rfl
  | negSucc number =>
    have signed : toString (Int.negSucc number) = "-" ++ toString (number + 1) := rfl
    have lead : "-".toList = ['-'] := rfl
    rw [signed, String.toList_append, lead, Nat.toString_eq_repr, Nat.toList_repr, sign,
      if_pos (Int.negSucc_lt_zero number), Int.natAbs_negSucc]

theorem integer?_toString (value : Int) : integer? (toString value) = some value := by
  have shortest := shortest_toDigits value.natAbs
  have read : digits? (Nat.toDigits 10 value.natAbs) = some value.natAbs := by
    rw [digits?_eq_some shortest.nonempty shortest.all_digits, Nat.ofDigitChars_ten_toDigits]
  rw [integer?, toList_toString, sign]
  by_cases negative : value < 0
  · have magnitude : -(value.natAbs : Int) = value := by omega
    rw [if_pos negative, List.singleton_append]
    simp only [read]
    exact congrArg some magnitude
  · rw [if_neg negative, List.nil_append]
    split
    · next digits signed =>
      have digit := shortest.all_digits '-' (by simp [signed])
      cases digit
    · next digits signed =>
      have digit := shortest.all_digits '+' (by simp [signed])
      cases digit
    · rw [read, Option.map_some, Option.some.injEq]
      exact Int.natAbs_of_nonneg (Int.not_lt.1 negative)

theorem toString_inj {one other : Int} : toString one = toString other ↔ one = other :=
  written_inj integer?_toString (fun _ _ => Option.some.inj)

theorem mem_toString {value : Int} {character : Char} (member : character ∈ (toString value).toList) :
    character = '-' ∨ character.isDigit = true := by
  rw [toList_toString, List.mem_append, sign] at member
  rcases member with signed | digit
  · left
    split at signed
    · exact List.mem_singleton.1 signed
    · cases signed
  · right
    exact Nat.isDigit_of_mem_toDigits (by decide) (by decide) digit

/-- The canonical decimal of a number: digits without a needless zero, after a sign if it is
negative. -/
def IsDecimal (text : String) (value : Int) : Prop :=
  ∃ digits, text.toList = sign value ++ digits ∧ Shortest digits ∧
    Nat.ofDigitChars 10 digits 0 = value.natAbs

theorem isDecimal_iff {text : String} {value : Int} : IsDecimal text value ↔ text = toString value := by
  rw [← String.toList_inj, toList_toString, IsDecimal]
  simp only [shortest_and_value_iff]
  constructor
  · rintro ⟨digits, spelled, rfl⟩
    exact spelled
  · intro spelled
    exact ⟨_, spelled, rfl⟩

end EnclaveProvenance.Text
