import EnclaveProvenance.Cose.Sign1
import EnclaveProvenance.Proofs.Cbor.Written

/-!
The levels that a header is read with do not count once there are as many as its encoding has
octets: a header in a header has a shorter encoding, also where it stands in a byte string.
-/

namespace EnclaveProvenance

namespace Cbor

def Item.Shorter (bound : Nat) (item : Item) : Prop :=
  ∃ own, item.Written own ∧ own.length < bound

theorem WrittenItems.shorter_of_mem {items : List Item} {own : Bytes} {item : Item}
    (written : WrittenItems items own) (member : item ∈ items) : item.Shorter (own.length + 1) := by
  induction items generalizing own with
  | nil => cases member
  | cons first rest ih =>
    cases written with
    | @cons _ _ firstOwn later firstWritten restWritten =>
      rw [List.length_append]
      rcases List.mem_cons.1 member with rfl | inRest
      · exact ⟨firstOwn, firstWritten, by omega⟩
      · obtain ⟨inner, innerWritten, short⟩ := ih restWritten inRest
        exact ⟨inner, innerWritten, by omega⟩

theorem Item.Shorter.of_mem_array {bound : Nat} {items : List Item} {item : Item}
    (short : Shorter bound (.array items)) (member : item ∈ items) : item.Shorter bound := by
  obtain ⟨own, written, less⟩ := short
  cases written with
  | array head written | openArray head written =>
    have := head.length_pos
    obtain ⟨inner, innerWritten, shorter⟩ := written.shorter_of_mem member
    simp only [List.length_append] at less
    exact ⟨inner, innerWritten, by omega⟩
  | simple head known => cases isSimple_of_simpleItem known

theorem Item.Shorter.of_mem_map {bound : Nat} {entries : List (Item × Item)} {entry : Item × Item}
    (short : Shorter (bound + 1) (.map entries)) (member : entry ∈ entries) :
    entry.2.Shorter bound := by
  have value : entry.2 ∈ unpaired entries := List.mem_flatMap.2 ⟨entry, member, by simp⟩
  obtain ⟨own, written, less⟩ := short
  cases written with
  | map head written | openMap head written =>
    have := head.length_pos
    obtain ⟨inner, innerWritten, shorter⟩ := written.shorter_of_mem value
    simp only [List.length_append] at less
    exact ⟨inner, innerWritten, by omega⟩
  | simple head known => cases isSimple_of_simpleItem known

theorem WrittenPieces.length_flatten {major nested : Nat} {pieces : List Bytes} {own : Bytes}
    (written : WrittenPieces major nested pieces own) : pieces.flatten.length < own.length := by
  induction written with
  | close => exact Nat.one_pos
  | leave _ ih =>
    rw [List.length_cons]
    omega
  | enter _ _ ih =>
    rw [List.length_append]
    omega
  | piece _ _ ih =>
    simp only [List.flatten_cons, List.length_append]
    omega

theorem Item.Shorter.length_content {bound : Nat} {definite : Bool} {content : Bytes}
    (short : Shorter bound (.bytes definite content)) : content.length < bound := by
  obtain ⟨own, written, less⟩ := short
  cases written with
  | bytes head =>
    have := head.length_pos
    rw [List.length_append] at less
    omega
  | openBytes head written =>
    have := head.length_pos
    have := written.length_flatten
    rw [List.length_append] at less
    omega
  | simple head known => cases isSimple_of_simpleItem known

end Cbor

namespace Cose

open Cbor (Item)

variable {bound : Nat} {one other : Item → Bool}

def AgreeBelow (bound : Nat) (one other : Item → Bool) : Prop :=
  ∀ item, item.Shorter bound → one item = other item

theorem all_congr_of_mem {α : Type} {items : List α} {one other : α → Bool}
    (same : ∀ item ∈ items, one item = other item) : items.all one = items.all other := by
  induction items with
  | nil => rfl
  | cons first rest ih =>
    rw [List.all_cons, List.all_cons, same first (by simp),
      ih fun item member => same item (by simp [member])]

theorem isProtected_congr (agree : AgreeBelow bound one other) {octets : Bytes}
    (short : octets.length < bound) : isProtected one octets = isProtected other octets := by
  unfold isProtected
  congr 1
  split
  · next item whole =>
    exact agree item ⟨octets, (Cbor.wholeItem?_eq_some_iff.1 whole).1, short⟩
  · rfl

theorem isSignature_congr (agree : AgreeBelow bound one other) {item : Item}
    (short : item.Shorter bound) : isSignature one item = isSignature other item := by
  unfold isSignature
  split
  · next definite octets header last signature =>
    have protectedShort : octets.length < bound :=
      (show (Item.bytes definite octets).Shorter bound from
        short.of_mem_array (by simp)).length_content
    have headerShort : header.Shorter bound := short.of_mem_array (by simp)
    rw [isProtected_congr agree protectedShort, agree header headerShort]
  · rfl

theorem isCounterSignature_congr (agree : AgreeBelow bound one other) {item : Item}
    (short : item.Shorter bound) :
    isCounterSignature one item = isCounterSignature other item := by
  unfold isCounterSignature
  split
  · exact isSignature_congr agree short
  · exact all_congr_of_mem fun each member => isSignature_congr agree (short.of_mem_array member)
  · rfl

theorem isParameter_congr (agree : AgreeBelow bound one other) {parameter : Label × Item}
    (short : parameter.2.Shorter bound) :
    isParameter one parameter = isParameter other parameter := by
  unfold isParameter
  split
  all_goals first | rfl | exact isCounterSignature_congr agree short

theorem Header.snd_mem_of_parameters? {entries : List (Item × Item)}
    {parameters : List (Label × Item)} (read : parameters? (.map entries) = some parameters) :
    ∀ parameter ∈ parameters, ∃ entry ∈ entries, entry.2 = parameter.2 := by
  unfold parameters? at read
  dsimp only at read
  induction entries generalizing parameters with
  | nil =>
    cases read
    intro parameter absent
    cases absent
  | cons first rest ih =>
    rw [List.mapM_cons] at read
    obtain ⟨own, ownRead, others⟩ := Option.bind_eq_some_iff.1 read
    obtain ⟨later, laterRead, joined⟩ := Option.bind_eq_some_iff.1 others
    obtain ⟨label, _, rfl⟩ := Option.map_eq_some_iff.1 ownRead
    cases joined
    intro parameter member
    rcases List.mem_cons.1 member with rfl | inRest
    · exact ⟨first, by simp, rfl⟩
    · obtain ⟨entry, inside, same⟩ := ih laterRead parameter inRest
      exact ⟨entry, by simp [inside], same⟩

theorem Header.ofItem?_eq_of_shorter {levels more : Nat} {item : Item} (short : item.Shorter bound)
    (enough : bound ≤ levels) (also : bound ≤ more) : ofItem? levels item = ofItem? more item := by
  induction bound generalizing levels more item with
  | zero =>
    obtain ⟨_, _, less⟩ := short
    exact absurd less (Nat.not_lt_zero _)
  | succ bound ih =>
    cases levels with
    | zero => omega
    | succ levels =>
    cases more with
    | zero => omega
    | succ more =>
      have agree : AgreeBelow bound (fun nested => (ofItem? levels nested).isSome)
          (fun nested => (ofItem? more nested).isSome) := fun nested nestedShort =>
        congrArg Option.isSome (ih nestedShort (by omega) (by omega))
      unfold ofItem?
      cases read : parameters? item with
      | none => rfl
      | some parameters =>
        have same : ∀ parameter ∈ parameters,
            isParameter (fun nested => (ofItem? levels nested).isSome) parameter =
              isParameter (fun nested => (ofItem? more nested).isSome) parameter := by
          intro parameter member
          cases item with
          | map entries =>
            obtain ⟨entry, inside, value⟩ := snd_mem_of_parameters? read parameter member
            exact isParameter_congr agree (value ▸ short.of_mem_map inside)
          | _ => cases read
        simp only [all_congr_of_mem same]

/-- A message is read alike with any levels from the length of its encoding on. -/
theorem Sign1.ofItem?_eq_of_shorter {levels more : Nat} {item : Item} (short : item.Shorter bound)
    (enough : bound ≤ levels) (also : bound ≤ more) : ofItem? levels item = ofItem? more item := by
  unfold ofItem?
  split
  · next definite octets header payload last signature =>
    have octetsShort : octets.length < bound :=
      (show (Item.bytes definite octets).Shorter bound from
        short.of_mem_array (by simp)).length_content
    have headerShort : header.Shorter bound := short.of_mem_array (by simp)
    have protectedSame : readProtected levels octets = readProtected more octets := by
      unfold readProtected
      split
      · rfl
      · cases whole : Cbor.wholeItem? octets with
        | none => rfl
        | some inner =>
          exact Header.ofItem?_eq_of_shorter
            ⟨octets, (Cbor.wholeItem?_eq_some_iff.1 whole).1, octetsShort⟩ enough also
    rw [Header.ofItem?_eq_of_shorter headerShort enough also, protectedSame]
  · rfl

end Cose

end EnclaveProvenance
