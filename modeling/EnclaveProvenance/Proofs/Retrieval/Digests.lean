import EnclaveProvenance.Proofs.Texts
import EnclaveProvenance.Proofs.Transparency.Acceptance
import EnclaveProvenance.Retrieval.Release

/-!
The digest that the notes of a release announce: the first 64 digits that stand behind a mark and
before no further digit. A search by offsets finds the same one, and cuts the notes only where a
character starts.
-/

namespace EnclaveProvenance

namespace Hex

def digitCharacters : List Char := "0123456789abcdefABCDEF".toList

theorem isHexDigit_range : ∀ value ∈ List.range 128,
    Retrieval.isHexDigit (Char.ofNat value) = digitCharacters.contains (Char.ofNat value) ∧
      (String.utf8EncodeChar (Char.ofNat value)).all isDigit =
        Retrieval.isHexDigit (Char.ofNat value) ∧
      (Char.ofNat value).utf8Size = 1 := by decide +kernel

theorem isHexDigit_ascii {character : Char} (small : character.toNat < 128) :
    Retrieval.isHexDigit character = digitCharacters.contains character ∧
      (String.utf8EncodeChar character).all isDigit = Retrieval.isHexDigit character ∧
      character.utf8Size = 1 := by
  have known := isHexDigit_range character.toNat (List.mem_range.2 small)
  rwa [Char.ofNat_toNat] at known

theorem isHexDigit_small {character : Char} (digit : Retrieval.isHexDigit character = true) :
    character.toNat < 128 := by
  have below {bound : Char} (low : character ≤ bound) : character.toNat ≤ bound.toNat :=
    UInt32.le_iff_toNat_le.1 low
  simp only [Retrieval.isHexDigit, Bool.or_eq_true, Bool.and_eq_true, decide_eq_true_eq] at digit
  rcases digit with (⟨_, low⟩ | ⟨_, low⟩) | ⟨_, low⟩
  · exact Nat.lt_of_le_of_lt (below low) (by decide)
  · exact Nat.lt_of_le_of_lt (below low) (by decide)
  · exact Nat.lt_of_le_of_lt (below low) (by decide)

theorem isHexDigit_iff {character : Char} :
    Retrieval.isHexDigit character = true ↔ character ∈ digitCharacters := by
  by_cases ascii : character.toNat < 128
  · rw [(isHexDigit_ascii ascii).1, List.contains_iff_mem]
  · have small : digitCharacters.all (fun digit => digit.toNat < 128) = true := by decide
    rw [List.all_eq_true] at small
    constructor
    · exact fun digit => absurd (isHexDigit_small digit) ascii
    · exact fun member => absurd (of_decide_eq_true (small character member)) ascii

theorem isDigit_small : ∀ value ∈ List.range 256,
    isDigit (UInt8.ofNat value) = true → value < 128 := by decide +kernel

theorem utf8_isDigit (character : Char) :
    (String.utf8EncodeChar character).all isDigit = Retrieval.isHexDigit character := by
  by_cases ascii : character.toNat < 128
  · exact (isHexDigit_ascii ascii).2.1
  · have none : Retrieval.isHexDigit character = false :=
      Bool.eq_false_iff.2 fun digit => ascii (isHexDigit_small digit)
    obtain ⟨octet, member⟩ := List.exists_mem_of_ne_nil _ (String.utf8EncodeChar_ne_nil (c := character))
    have high := utf8_ge_of_not_ascii (by omega) octet member
    rw [none, List.all_eq_false]
    refine ⟨octet, member, fun digit => ?_⟩
    have low := isDigit_small octet.toNat (List.mem_range.2 octet.toNat_lt)
    rw [UInt8.ofNat_toNat] at low
    exact absurd (low digit) (by omega)

theorem utf8Size_of_isHexDigit {character : Char} (digit : Retrieval.isHexDigit character = true) :
    character.utf8Size = 1 :=
  (isHexDigit_ascii (isHexDigit_small digit)).2.2

theorem ofText_all_isDigit (text : String) :
    (Bytes.ofText text).all isDigit = text.toList.all Retrieval.isHexDigit := by
  have own := Bytes.ofText_ofList text.toList
  rw [String.ofList_toList] at own
  rw [own, List.all_flatMap]
  exact congrArg text.toList.all (funext utf8_isDigit)

theorem size_of_digits {digits : List Char} (all : ∀ digit ∈ digits, Retrieval.isHexDigit digit = true) :
    (String.ofList digits).utf8ByteSize = digits.length := by
  rw [← Bytes.length_ofText, Bytes.ofText_ofList, List.length_flatMap]
  have sizes : digits.map (fun digit => (String.utf8EncodeChar digit).length) =
      digits.map fun _ => 1 :=
    List.map_congr_left fun digit member =>
      (String.length_utf8EncodeChar digit).trans (utf8Size_of_isHexDigit (all digit member))
  rw [sizes, List.map_const', List.sum_replicate_nat, Nat.mul_one]

theorem lowerOctet_lowerOctet : ∀ octet ∈ List.range 256,
    lowerOctet (lowerOctet (UInt8.ofNat octet)) = lowerOctet (UInt8.ofNat octet) := by decide +kernel

theorem lowercase_lowercase (text : String) :
    Text.lowercase (Text.lowercase text) = Text.lowercase text := by
  rw [← Bytes.ofText_inj, ofText_lowercase, ofText_lowercase, List.map_map]
  refine List.map_congr_left fun octet _ => ?_
  have twice := lowerOctet_lowerOctet octet.toNat (List.mem_range.2 octet.toNat_lt)
  rwa [UInt8.ofNat_toNat] at twice

end Hex

namespace TransparencyVerifier

theorem IsDigest.lowercase {digest : String} (own : IsDigest digest) :
    IsDigest (Text.lowercase digest) := by
  rw [IsDigest, Hex.ofText_lowercase, List.length_map, List.forall_mem_map]
  refine ⟨own.1, fun octet member => ?_⟩
  have lowered := Hex.digitValue?_lowerOctet octet.toNat (List.mem_range.2 octet.toNat_lt)
  rw [UInt8.ofNat_toNat] at lowered
  rw [Hex.isDigit, lowered]
  exact own.2 octet member

theorem normalizeDigest_lowercase {digest : String} (own : IsDigest digest) :
    normalizeDigest (Text.lowercase digest) = .ok (Text.lowercase digest) :=
  normalizeDigest_eq_ok_iff.2 ⟨own.lowercase, (Hex.lowercase_lowercase digest).symm⟩

end TransparencyVerifier

namespace Retrieval

open Text (occurrences)

structure IsLeading (digits after : List Char) : Prop where
  length : digits.length = digestLength
  digits : ∀ digit ∈ digits, digit ∈ Hex.digitCharacters
  delimited : ∀ next ∈ after.head?, next ∉ Hex.digitCharacters

theorem delimited_iff {after : List Char} :
    (after.head?.all fun next => !isHexDigit next) = true ↔
      ∀ next ∈ after.head?, next ∉ Hex.digitCharacters := by
  cases after with
  | nil => simp
  | cons next rest => simp [← Hex.isHexDigit_iff]

theorem leadingDigest?_eq_some_iff {text : List Char} {digest : String} :
    leadingDigest? text = some digest ↔ ∃ digits after, text = digits ++ after ∧
      IsLeading digits after ∧ digest = Text.lowercase (String.ofList digits) := by
  simp only [leadingDigest?, delimited_iff, List.all_eq_true, Hex.isHexDigit_iff,
    Option.ite_none_right_eq_some, Option.some.injEq]
  constructor
  · rintro ⟨⟨length, digits, delimited⟩, rfl⟩
    refine ⟨text.take digestLength, text.drop digestLength, (List.take_append_drop ..).symm,
      ⟨length, digits, delimited⟩, ?_⟩
    rw [Text.lowercase, String.toList_ofList]
  · rintro ⟨digits, after, rfl, leading, rfl⟩
    have front : (digits ++ after).take digestLength = digits := List.take_left' leading.length
    have back : (digits ++ after).drop digestLength = after := List.drop_left' leading.length
    rw [front, back, Text.lowercase, String.toList_ofList]
    exact ⟨⟨leading.length, leading.digits, leading.delimited⟩, rfl⟩

theorem leadingDigest?_eq_none_iff {text : List Char} :
    leadingDigest? text = none ↔ ∀ digits after, text = digits ++ after → ¬IsLeading digits after := by
  rw [Option.eq_none_iff_forall_ne_some]
  constructor
  · intro silent digits after split leading
    exact silent _ (leadingDigest?_eq_some_iff.2 ⟨digits, after, split, leading, rfl⟩)
  · intro silent digest found
    obtain ⟨digits, after, split, leading, -⟩ := leadingDigest?_eq_some_iff.1 found
    exact silent digits after split leading

theorem IsLeading.unique {digits after otherDigits otherAfter : List Char}
    (leading : IsLeading digits after) (other : IsLeading otherDigits otherAfter)
    (same : digits ++ after = otherDigits ++ otherAfter) : digits = otherDigits ∧ after = otherAfter :=
  List.append_inj same (leading.length.trans other.length.symm)

def Announces (notes before digits after : List Char) : Prop :=
  notes = before ++ digestMark ++ digits ++ after ∧ IsLeading digits after

/-- The mark's first character is not among its others, so that no two marks overlap. -/
theorem digestMark_eq : ∃ rest, digestMark = 'E' :: rest ∧ 'E' ∉ rest := by
  refine ⟨"IF hash: ".toList, ?_⟩
  decide

theorem not_announces_nil {before digits after : List Char} : ¬Announces [] before digits after := by
  rintro ⟨split, -⟩
  obtain ⟨rest, mark, -⟩ := digestMark_eq
  simp [mark] at split

theorem announces_here_iff {notes digits after : List Char} :
    Announces notes [] digits after ↔ ∃ following, digestMark.isPrefixOf? notes = some following ∧
      following = digits ++ after ∧ IsLeading digits after := by
  simp only [Announces, Text.isPrefixOf?_eq_some_iff, List.nil_append, List.append_assoc]
  constructor
  · rintro ⟨rfl, leading⟩
    exact ⟨digits ++ after, rfl, rfl, leading⟩
  · rintro ⟨_, rfl, rfl, leading⟩
    exact ⟨rfl, leading⟩

theorem announces_cons_iff {character first : Char} {rest before digits after : List Char} :
    Announces (character :: rest) (first :: before) digits after ↔
      character = first ∧ Announces rest before digits after := by
  simp only [Announces, List.cons_append, List.cons.injEq, and_assoc]

theorem leads_eq_some_iff {notes : List Char} {digest : String} :
    (digestMark.isPrefixOf? notes).bind leadingDigest? = some digest ↔ ∃ digits after,
      Announces notes [] digits after ∧ digest = Text.lowercase (String.ofList digits) := by
  simp only [Option.bind_eq_some_iff, leadingDigest?_eq_some_iff, announces_here_iff]
  constructor
  · rintro ⟨following, marked, digits, after, split, leading, rfl⟩
    exact ⟨digits, after, ⟨following, marked, split, leading⟩, rfl⟩
  · rintro ⟨digits, after, ⟨following, marked, split, leading⟩, rfl⟩
    exact ⟨following, marked, digits, after, split, leading, rfl⟩

theorem leads_eq_none_iff {notes : List Char} :
    (digestMark.isPrefixOf? notes).bind leadingDigest? = none ↔
      ∀ digits after, ¬Announces notes [] digits after := by
  rw [Option.eq_none_iff_forall_ne_some]
  constructor
  · intro silent digits after announced
    exact silent _ (leads_eq_some_iff.2 ⟨digits, after, announced, rfl⟩)
  · intro silent digest found
    obtain ⟨digits, after, announced, -⟩ := leads_eq_some_iff.1 found
    exact silent digits after announced

def AnnouncesFirst (notes before digits after : List Char) : Prop :=
  Announces notes before digits after ∧ ∀ otherBefore otherDigits otherAfter,
    Announces notes otherBefore otherDigits otherAfter → before.length ≤ otherBefore.length

theorem announcedDigest?_of_unmarked {character : Char} {rest : List Char}
    (unmarked : ¬digestMark <+: character :: rest) :
    announcedDigest? (character :: rest) = announcedDigest? rest := by
  have missing : digestMark.isPrefixOf? (character :: rest) = none := by
    refine Option.eq_none_iff_forall_ne_some.2 fun following found => ?_
    exact unmarked ⟨following, (Text.isPrefixOf?_eq_some_iff.1 found).symm⟩
  rw [announcedDigest?, missing]
  rfl

theorem announcedDigest?_eq_some_iff {notes : List Char} {digest : String} :
    announcedDigest? notes = some digest ↔ ∃ before digits after,
      AnnouncesFirst notes before digits after ∧ digest = Text.lowercase (String.ofList digits) := by
  induction notes with
  | nil =>
    constructor
    · intro impossible
      cases impossible
    · rintro ⟨before, digits, after, ⟨announced, -⟩, -⟩
      exact absurd announced not_announces_nil
  | cons character rest ih =>
    rw [announcedDigest?]
    cases leads : (digestMark.isPrefixOf? (character :: rest)).bind leadingDigest? with
    | some found =>
      obtain ⟨digits, after, announced, rfl⟩ := leads_eq_some_iff.1 leads
      simp only [Option.some.injEq]
      constructor
      · rintro rfl
        exact ⟨[], digits, after, ⟨announced, fun _ _ _ _ => Nat.zero_le _⟩, rfl⟩
      · rintro ⟨before, otherDigits, otherAfter, ⟨other, first⟩, rfl⟩
        obtain rfl := List.eq_nil_of_length_eq_zero (Nat.le_zero.1 (first _ _ _ announced))
        have same := other.1.symm.trans announced.1
        simp only [List.nil_append, List.append_assoc, List.append_cancel_left_eq] at same
        rw [(other.2.unique announced.2 same).1]
    | none =>
      have notHere := leads_eq_none_iff.1 leads
      simp only [ih]
      constructor
      · rintro ⟨before, digits, after, ⟨announced, first⟩, rfl⟩
        refine ⟨character :: before, digits, after, ⟨announces_cons_iff.2 ⟨rfl, announced⟩, ?_⟩, rfl⟩
        intro otherBefore otherDigits otherAfter other
        cases otherBefore with
        | nil => exact absurd other (notHere _ _)
        | cons head later =>
          exact Nat.succ_le_succ (first _ _ _ (announces_cons_iff.1 other).2)
      · rintro ⟨before, digits, after, ⟨announced, first⟩, rfl⟩
        cases before with
        | nil => exact absurd announced (notHere _ _)
        | cons head before =>
          obtain ⟨rfl, later⟩ := announces_cons_iff.1 announced
          refine ⟨before, digits, after, ⟨later, ?_⟩, rfl⟩
          intro otherBefore otherDigits otherAfter other
          exact Nat.le_of_succ_le_succ (first _ _ _ (announces_cons_iff.2 ⟨rfl, other⟩))

theorem announcedDigest?_eq_none_iff {notes : List Char} :
    announcedDigest? notes = none ↔ ∀ before digits after, ¬Announces notes before digits after := by
  constructor
  · intro silent before
    induction notes generalizing before with
    | nil => exact fun _ _ => not_announces_nil
    | cons character rest ih =>
      rw [announcedDigest?] at silent
      split at silent
      · cases silent
      · next unled =>
        intro digits after announced
        cases before with
        | nil => exact leads_eq_none_iff.1 unled digits after announced
        | cons head before => exact ih silent before digits after (announces_cons_iff.1 announced).2
  · intro silent
    refine Option.eq_none_iff_forall_ne_some.2 fun digest found => ?_
    obtain ⟨before, digits, after, ⟨announced, -⟩, -⟩ := announcedDigest?_eq_some_iff.1 found
    exact silent before digits after announced

theorem IsLeading.all_isHexDigit {digits after : List Char} (leading : IsLeading digits after) :
    ∀ digit ∈ digits, isHexDigit digit = true :=
  fun digit member => Hex.isHexDigit_iff.2 (leading.digits digit member)

theorem IsLeading.slice? {digits after : List Char} (leading : IsLeading digits after)
    (before : String) :
    Text.slice? (before ++ String.ofList (digits ++ after)) before.utf8ByteSize
      (before.utf8ByteSize + digestLength) = some (String.ofList digits) := by
  refine Text.slice?_eq_some_iff.2 ⟨before, String.ofList after, ?_, rfl, ?_⟩
  · rw [String.ofList_append, String.append_assoc]
  · rw [Hex.size_of_digits leading.all_isHexDigit, leading.length]

/-- At an offset where a character starts, cutting the octets finds what the characters lead with. -/
theorem digestAt_append (before : String) (following : List Char) :
    digestAt (before ++ String.ofList following) before.utf8ByteSize =
      .ok (leadingDigest? following) := by
  unfold digestAt
  split
  · next uncut =>
    have silent : leadingDigest? following = none := by
      rw [leadingDigest?_eq_none_iff]
      rintro digits after rfl leading
      rw [leading.slice? before] at uncut
      cases uncut
    rw [silent]
  · next candidate cut =>
    obtain ⟨earlier, after, split, earlierSize, size⟩ := Text.slice?_eq_some_iff.1 cut
    rw [String.append_assoc] at split
    obtain ⟨rfl, same⟩ := Text.append_inj_of_size split earlierSize.symm
    have rest : Text.sliceFrom (before ++ String.ofList following)
        (before.utf8ByteSize + digestLength) = .ok after := by
      rw [split, ← String.append_assoc, ← size, ← String.utf8ByteSize_append]
      exact Text.sliceFrom_append _ _
    have own : following = candidate.toList ++ after.toList := by
      rw [← String.toList_append, ← same, String.toList_ofList]
    simp only [rest, bind, Except.bind, delimited_iff, Hex.ofText_all_isDigit, List.all_eq_true,
      Hex.isHexDigit_iff]
    split
    · next accepted =>
      have length : candidate.toList.length = digestLength := by
        have octets := Hex.size_of_digits fun digit member =>
          Hex.isHexDigit_iff.2 (accepted.2 digit member)
        rw [String.ofList_toList] at octets
        omega
      have leading : IsLeading candidate.toList after.toList := ⟨length, accepted.2, accepted.1⟩
      have known := leadingDigest?_eq_some_iff.2 ⟨_, _, own, leading, rfl⟩
      rw [known, String.ofList_toList]
      rfl
    · next refused =>
      have silent : leadingDigest? following = none := by
        rw [leadingDigest?_eq_none_iff]
        rintro digits others rfl leading
        rw [leading.slice? before] at cut
        obtain rfl := Option.some.inj cut
        rw [String.toList_ofList] at own refused
        obtain rfl := List.append_cancel_left own
        exact refused ⟨leading.delimited, leading.digits⟩
      rw [silent]
      rfl

example : digestAt (String.ofList (List.replicate 63 'a') ++ "\u00e9") 0 = .ok none := by decide +kernel

/-- The search from a place in the notes on, where the mark's characters still to be passed over start
no other mark. -/
theorem searchDigest_from (before : String) (passed : Nat) (notes : List Char)
    (free : 'E' ∉ notes.take passed) :
    ((occurrences digestMark before.utf8ByteSize passed notes).findSomeM? fun offset =>
      digestAt (before ++ String.ofList notes) (offset + (String.ofList digestMark).utf8ByteSize)) =
      .ok (announcedDigest? notes) := by
  induction notes generalizing before passed with
  | nil => rfl
  | cons character rest ih =>
    have next : before ++ String.ofList (character :: rest) =
        (before ++ String.singleton character) ++ String.ofList rest := by
      rw [String.append_assoc, String.ofList_cons]
    have nextSize : (before ++ String.singleton character).utf8ByteSize =
        before.utf8ByteSize + character.utf8Size := by
      rw [String.utf8ByteSize_append, String.utf8ByteSize_singleton]
    have later {passed : Nat} (free : 'E' ∉ rest.take passed) :=
      ih (before ++ String.singleton character) passed free
    rw [← next, nextSize] at later
    obtain ⟨tail, mark, tailFree⟩ := digestMark_eq
    cases passed with
    | succ passed =>
      rw [List.take_succ_cons, List.mem_cons, not_or] at free
      have unmarked : ¬digestMark <+: character :: rest := by
        rw [mark, List.cons_prefix_cons]
        exact fun starts => free.1 starts.1
      rw [occurrences, announcedDigest?_of_unmarked unmarked]
      exact later free.2
    | zero =>
      rw [occurrences]
      by_cases marked : digestMark <+: character :: rest
      · obtain ⟨following, split⟩ := marked
        have here : digestAt (before ++ String.ofList (character :: rest))
            (before.utf8ByteSize + (String.ofList digestMark).utf8ByteSize) =
            .ok (leadingDigest? following) := by
          rw [← split, String.ofList_append, ← String.append_assoc, ← String.utf8ByteSize_append]
          exact digestAt_append _ _
        have passedFree : 'E' ∉ rest.take (digestMark.length - 1) := by
          rw [mark, List.cons_append] at split
          rw [mark, List.length_cons, Nat.add_sub_cancel, ← (List.cons.inj split).2,
            List.take_left' rfl]
          exact tailFree
        rw [if_pos (List.isPrefixOf_iff_prefix.2 ⟨following, split⟩), List.findSomeM?_cons, here,
          announcedDigest?, Text.isPrefixOf?_eq_some_iff.2 split.symm, Option.bind_some]
        cases leadingDigest? following with
        | some digest => rfl
        | none => exact later passedFree
      · rw [if_neg (fun starts => marked (List.isPrefixOf_iff_prefix.1 starts)),
          announcedDigest?_of_unmarked marked]
        exact later (by simp)

theorem searchDigest_eq (notes : String) : searchDigest notes = .ok (announcedDigest? notes.toList) := by
  have whole := searchDigest_from "" 0 notes.toList (by simp)
  rwa [String.empty_append, String.ofList_toList] at whole

theorem IsLeading.isDigest {digits after : List Char} (leading : IsLeading digits after) :
    TransparencyVerifier.IsDigest (String.ofList digits) := by
  have all := leading.all_isHexDigit
  have octets : (Bytes.ofText (String.ofList digits)).all Hex.isDigit = true := by
    rw [Hex.ofText_all_isDigit, String.toList_ofList, List.all_eq_true]
    exact all
  refine ⟨?_, List.all_eq_true.1 octets⟩
  rw [Bytes.length_ofText, Hex.size_of_digits all, leading.length]
  rfl

theorem announcedDigest?_append {lead : List Char} (free : 'E' ∉ lead) (rest : List Char) :
    announcedDigest? (lead ++ rest) = announcedDigest? rest := by
  obtain ⟨tail, mark, -⟩ := digestMark_eq
  induction lead with
  | nil => rfl
  | cons character lead ih =>
    rw [List.mem_cons, not_or] at free
    have unmarked : ¬digestMark <+: character :: (lead ++ rest) := by
      rw [mark, List.cons_prefix_cons]
      exact fun starts => free.1 starts.1
    rw [List.cons_append, announcedDigest?_of_unmarked unmarked, ih free.2]

theorem announcedDigest?_mark {rest : List Char} (unfollowed : leadingDigest? rest = none) :
    announcedDigest? (digestMark ++ rest) = announcedDigest? rest := by
  obtain ⟨tail, mark, tailFree⟩ := digestMark_eq
  have marked : digestMark.isPrefixOf? ('E' :: (tail ++ rest)) = some rest := by
    rw [Text.isPrefixOf?_eq_some_iff, mark, List.cons_append]
  have front : digestMark ++ rest = 'E' :: (tail ++ rest) := by rw [mark, List.cons_append]
  rw [front, announcedDigest?, marked, Option.bind_some, unfollowed]
  exact announcedDigest?_append tailFree rest

/-- The search through notes never cuts them where they cannot be cut. It finds the digest of the
first announcement, in lowercase, and nothing if there is none; a mark that no digest follows does not
end it. A verifier keeps the digest as it is found. -/
theorem finds_first_announced (notes : String) :
    searchDigest notes = .ok (announcedDigest? notes.toList) ∧
    (∀ digest, announcedDigest? notes.toList = some digest ↔ ∃ before digits after,
      AnnouncesFirst notes.toList before digits after ∧
        digest = Text.lowercase (String.ofList digits)) ∧
    (announcedDigest? notes.toList = none ↔
      ∀ before digits after, ¬Announces notes.toList before digits after) ∧
    (∀ rest, notes.toList = digestMark ++ rest → leadingDigest? rest = none →
      announcedDigest? notes.toList = announcedDigest? rest) ∧
    ∀ digest, announcedDigest? notes.toList = some digest →
      normalizeDigest digest = .ok digest := by
  refine ⟨searchDigest_eq notes, fun _ => announcedDigest?_eq_some_iff,
    announcedDigest?_eq_none_iff, ?_, ?_⟩
  · intro rest marked unfollowed
    rw [marked, announcedDigest?_mark unfollowed]
  · intro digest found
    obtain ⟨before, digits, after, ⟨⟨-, leading⟩, -⟩, rfl⟩ := announcedDigest?_eq_some_iff.1 found
    exact TransparencyVerifier.normalizeDigest_lowercase leading.isDigest

end Retrieval

end EnclaveProvenance
