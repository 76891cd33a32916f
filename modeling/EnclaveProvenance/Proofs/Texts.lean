import EnclaveProvenance.Proofs.Decimal
import EnclaveProvenance.Text

/-!
What the questions about texts ask: whether a text starts with another, what follows it there, whether
it occurs anywhere, which two parts one mark separates, and which part stands between two offsets.
-/

namespace EnclaveProvenance.Text

theorem after?_eq_some_iff {lead text rest : String} :
    after? lead text = some rest ↔ text = lead ++ rest := by
  simp only [after?, Option.map_eq_some_iff, isPrefixOf?_eq_some_iff]
  constructor
  · rintro ⟨following, split, rfl⟩
    rw [← String.toList_inj, String.toList_append, String.toList_ofList, split]
  · rintro rfl
    exact ⟨rest.toList, String.toList_append, String.ofList_toList⟩

theorem startsWith_iff_toList {text lead : String} :
    startsWith text lead = true ↔ lead.toList <+: text.toList :=
  List.isPrefixOf_iff_prefix

theorem startsWith_mark_iff {text lead : String} {mark : Char} (single : lead.toList = [mark]) :
    startsWith text lead = true ↔ ∃ rest, text.toList = mark :: rest := by
  rw [startsWith_iff_toList, single]
  constructor
  · rintro ⟨rest, same⟩
    exact ⟨rest, same.symm⟩
  · rintro ⟨rest, same⟩
    exact ⟨rest, same.symm⟩

theorem startsWith_iff {text lead : String} :
    startsWith text lead = true ↔ ∃ rest, text = lead ++ rest := by
  rw [startsWith_iff_toList]
  constructor
  · rintro ⟨following, split⟩
    refine ⟨String.ofList following, ?_⟩
    rw [← String.toList_inj, String.toList_append, String.toList_ofList, split]
  · rintro ⟨rest, rfl⟩
    exact ⟨rest.toList, String.toList_append.symm⟩

theorem afterFirst?_isSome_iff {part text : List Char} :
    (afterFirst? part text).isSome = true ↔ part <:+: text := by
  induction text with
  | nil =>
    rw [afterFirst?, Option.isSome_iff_exists]
    simp only [isPrefixOf?_eq_some_iff, List.nil_eq, List.append_eq_nil_iff, List.infix_nil,
      exists_and_left, exists_eq, and_true]
  | cons character rest ih =>
    rw [afterFirst?, List.infix_cons_iff, ← ih]
    split
    · next following found =>
      have lead : part <+: character :: rest := ⟨following, (isPrefixOf?_eq_some_iff.1 found).symm⟩
      simp [lead]
    · next missing =>
      have noLead : ¬part <+: character :: rest := by
        rintro ⟨following, split⟩
        rw [isPrefixOf?_eq_some_iff.2 split.symm] at missing
        cases missing
      simp [noLead]

theorem contains_iff {text part : String} :
    contains text part = true ↔ part.toList <:+: text.toList :=
  afterFirst?_isSome_iff

theorem parts_eq_splitOn (mark : Char) (text : List Char) : parts mark text = text.splitOn mark := by
  induction text with
  | nil => rfl
  | cons character rest ih =>
    rw [parts, List.splitOn_cons_eq_if_modifyHead, ih]
    by_cases same : character = mark
    · simp [same]
    · obtain ⟨part, later, split⟩ := List.exists_cons_of_ne_nil (List.splitOn_ne_nil mark rest)
      rw [if_neg same, if_neg (by simpa using same), split]
      rfl

theorem parts_of_not_mem {mark : Char} {text : List Char} (free : mark ∉ text) :
    parts mark text = [text] := by
  rw [parts_eq_splitOn, List.splitOn_eq_singleton free]

theorem parts_append_cons {mark : Char} {first : List Char} (free : mark ∉ first)
    (rest : List Char) : parts mark (first ++ mark :: rest) = first :: parts mark rest := by
  simp only [parts_eq_splitOn, List.splitOn_append_cons_self_of_not_mem free]

theorem parts_eq_singleton_iff {mark : Char} {text part : List Char} :
    parts mark text = [part] ↔ text = part ∧ mark ∉ part := by
  constructor
  · intro single
    by_cases marked : mark ∈ text
    · obtain ⟨first, rest, rfl, free⟩ := List.eq_append_cons_of_mem marked
      rw [parts_append_cons free, parts_eq_splitOn] at single
      exact absurd (List.cons.inj single).2 (List.splitOn_ne_nil mark rest)
    · rw [parts_of_not_mem marked] at single
      obtain rfl := (List.cons.inj single).1
      exact ⟨rfl, marked⟩
  · rintro ⟨rfl, free⟩
    exact parts_of_not_mem free

theorem parts_eq_pair_iff {mark : Char} {text first second : List Char} :
    parts mark text = [first, second] ↔
      text = first ++ mark :: second ∧ mark ∉ first ∧ mark ∉ second := by
  constructor
  · intro pair
    by_cases marked : mark ∈ text
    · obtain ⟨before, rest, rfl, free⟩ := List.eq_append_cons_of_mem marked
      rw [parts_append_cons free] at pair
      obtain ⟨rfl, single⟩ := List.cons.inj pair
      obtain ⟨rfl, restFree⟩ := parts_eq_singleton_iff.1 single
      exact ⟨rfl, free, restFree⟩
    · rw [parts_of_not_mem marked] at pair
      cases (List.cons.inj pair).2
  · rintro ⟨rfl, firstFree, secondFree⟩
    rw [parts_append_cons firstFree, parts_of_not_mem secondFree]

theorem canCut_iff {text : String} {offset : Nat} :
    CanCut text offset ↔ ∃ before after, text = before ++ after ∧ before.utf8ByteSize = offset := by
  rw [CanCut, String.Pos.Raw.isValid_iff_exists_append]
  simp only [String.Pos.Raw.ext_iff, String.byteIdx_rawEndPos, eq_comm]

/-- A part is cut out when its first and its last octet stand where the offsets say. -/
theorem slice?_eq_some_iff {text part : String} {start stop : Nat} :
    slice? text start stop = some part ↔ ∃ before after, text = before ++ part ++ after ∧
      before.utf8ByteSize = start ∧ start + part.utf8ByteSize = stop := by
  unfold slice?
  constructor
  · intro found
    split at found
    · next cuts =>
      obtain rfl := Option.some.inj found
      obtain ⟨ordered, startCut, stopCut⟩ := cuts
      obtain ⟨before, later, split, beforeSize⟩ := canCut_iff.1 startCut
      obtain ⟨earlier, after, otherSplit, earlierSize⟩ := canCut_iff.1 stopCut
      have bytes : text.toByteArray = before.toByteArray ++ later.toByteArray := by
        rw [split, String.toByteArray_append]
      have otherBytes : text.toByteArray = earlier.toByteArray ++ after.toByteArray := by
        rw [otherSplit, String.toByteArray_append]
      have size : text.toByteArray.size = earlier.utf8ByteSize + after.utf8ByteSize := by
        rw [otherBytes, ByteArray.size_append, String.size_toByteArray, String.size_toByteArray]
      have first : text.toByteArray.extract 0 start = before.toByteArray := by
        rw [bytes]
        exact ByteArray.extract_append_eq_left beforeSize.symm
      have last : text.toByteArray.extract stop text.toByteArray.size = after.toByteArray := by
        rw [size, otherBytes]
        exact ByteArray.extract_append_eq_right earlierSize.symm rfl
      refine ⟨before, after, ?_, beforeSize, ?_⟩
      · rw [← String.toByteArray_inj, String.toByteArray_append, String.toByteArray_append,
          String.toByteArray_extract, ← first, ← last]
        have joined : text.toByteArray.extract 0 start ++ text.toByteArray.extract start stop =
            text.toByteArray.extract 0 stop :=
          (ByteArray.extract_eq_extract_append_extract start (Nat.zero_le _) ordered).symm
        have whole : text.toByteArray.extract 0 stop ++
            text.toByteArray.extract stop text.toByteArray.size = text.toByteArray := by
          rw [← ByteArray.extract_eq_extract_append_extract stop (Nat.zero_le _) (by omega),
            ByteArray.extract_zero_size]
        rw [joined, whole]
      · rw [← String.size_toByteArray, String.toByteArray_extract, ByteArray.size_extract]
        change start + (min stop text.toByteArray.size - start) = stop
        omega
    · cases found
  · rintro ⟨before, after, rfl, rfl, rfl⟩
    have startCut : CanCut (before ++ part ++ after) before.utf8ByteSize :=
      canCut_iff.2 ⟨before, part ++ after, String.append_assoc .., rfl⟩
    have stopCut : CanCut (before ++ part ++ after) (before.utf8ByteSize + part.utf8ByteSize) :=
      canCut_iff.2 ⟨before ++ part, after, rfl, String.utf8ByteSize_append⟩
    rw [dif_pos ⟨Nat.le_add_right _ _, startCut, stopCut⟩, Option.some.injEq,
      ← String.toByteArray_inj, String.toByteArray_extract, String.toByteArray_append,
      String.toByteArray_append, ByteArray.append_assoc]
    have behind := ByteArray.extract_append_size_add (a := before.toByteArray)
      (b := part.toByteArray ++ after.toByteArray) (i := 0) (j := part.toByteArray.size)
    exact behind.trans (ByteArray.extract_append_eq_left rfl)

theorem sliceFrom_append (before after : String) :
    sliceFrom (before ++ after) before.utf8ByteSize = .ok after := by
  have rest : slice? (before ++ after) before.utf8ByteSize (before ++ after).utf8ByteSize = some after :=
    slice?_eq_some_iff.2 ⟨before, "", (String.append_empty).symm, rfl,
      String.utf8ByteSize_append.symm⟩
  rw [sliceFrom, rest]

theorem append_inj_of_size {first firstRest second secondRest : String}
    (same : first ++ firstRest = second ++ secondRest)
    (size : first.utf8ByteSize = second.utf8ByteSize) : first = second ∧ firstRest = secondRest := by
  rw [← Bytes.ofText_inj, Bytes.ofText_append, Bytes.ofText_append] at same
  rw [← Bytes.length_ofText, ← Bytes.length_ofText] at size
  obtain ⟨lead, rest⟩ := List.append_inj same size
  exact ⟨Bytes.ofText_inj.1 lead, Bytes.ofText_inj.1 rest⟩

theorem infix_append_of_not_mem {first : Char} {part before after : List Char}
    (free : first ∉ before) : first :: part <:+: before ++ after ↔ first :: part <:+: after := by
  induction before with
  | nil => rfl
  | cons character rest ih =>
    rw [List.mem_cons, not_or] at free
    rw [List.cons_append, List.infix_cons_iff, List.cons_prefix_cons, ih free.2]
    simp [free.1]

theorem prefix_piece_iff {mark : Char} {lead rest piece after : List Char} (leadFree : mark ∉ lead)
    (pieceFree : mark ∉ piece) :
    lead ++ mark :: rest <+: piece ++ mark :: after ↔ piece = lead ∧ rest <+: after := by
  constructor
  · rintro ⟨later, same⟩
    rw [List.append_assoc, List.cons_append] at same
    obtain ⟨rfl, rfl⟩ := append_cons_inj leadFree pieceFree same
    exact ⟨rfl, List.prefix_append rest later⟩
  · rintro ⟨rfl, later, rfl⟩
    exact ⟨later, by simp⟩

theorem infix_piece_iff {first mark : Char} {lead rest piece after : List Char}
    (other : first ≠ mark) (leadFree : mark ∉ lead) (pieceFree : mark ∉ piece) :
    first :: (lead ++ mark :: rest) <:+: piece ++ mark :: after ↔
      ((∃ start, piece = start ++ first :: lead) ∧ rest <+: after) ∨
        first :: (lead ++ mark :: rest) <:+: after := by
  induction piece with
  | nil => simp [List.infix_cons_iff, List.cons_prefix_cons, other]
  | cons character characters ih =>
    rw [List.mem_cons, not_or] at pieceFree
    rw [List.cons_append, List.infix_cons_iff, List.cons_prefix_cons]
    refine (or_congr (and_congr_right' (prefix_piece_iff leadFree pieceFree.2)) (ih pieceFree.2)).trans ?_
    rw [← or_assoc]
    refine or_congr ?_ Iff.rfl
    constructor
    · rintro (⟨rfl, rfl, begins⟩ | ⟨⟨start, rfl⟩, begins⟩)
      · exact ⟨⟨[], rfl⟩, begins⟩
      · exact ⟨⟨character :: start, rfl⟩, begins⟩
    · rintro ⟨⟨start, split⟩, begins⟩
      cases start with
      | nil =>
        obtain ⟨rfl, rfl⟩ := List.cons.inj split
        exact .inl ⟨rfl, rfl, begins⟩
      | cons head start =>
        obtain ⟨rfl, rfl⟩ := List.cons.inj split
        exact .inr ⟨⟨start, rfl⟩, begins⟩

end EnclaveProvenance.Text
