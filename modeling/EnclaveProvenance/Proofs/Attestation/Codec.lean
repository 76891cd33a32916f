import EnclaveProvenance.Proofs.Attestation.Record
import EnclaveProvenance.Proofs.Cbor.Written
import EnclaveProvenance.Proofs.Encodings
import Mathlib.Data.List.Forall2

/-!
The CBOR encodings of the records that attestation documents carry, with the fields in any order and
members of other names between them, and what is read of them.
-/

namespace EnclaveProvenance

open Checks

namespace Attestation

open Cbor (Item)

def declared? (entry : Item × Item) : Option (String × Item) :=
  match entry.1 with
  | .text _ name => if name ∈ Payload.fieldNames then some (name, entry.2) else none
  | _ => none

def Holds (entries : List (Item × Item)) (name : String) (encoded : Item → Prop) : Prop :=
  ∃ definite item, (Item.text definite name, item) ∈ entries ∧ encoded item

def IsText (content : String) (item : Item) : Prop := ∃ definite, item = .text definite content

def IsBytes (content : Bytes) (item : Item) : Prop := ∃ definite, item = .bytes definite content

inductive IsNatural (value : Nat) : Item → Prop
  | plain : IsNatural value (.natural value)
  | bignum {definite : Bool} {digits : Bytes} : Bytes.toNat digits = value →
      IsNatural value (.tag Item.positiveBignum (.bytes definite digits))

def AreBytes (contents : List Bytes) (item : Item) : Prop :=
  ∃ items, item = .array items ∧ List.Forall₂ IsBytes contents items

def IsRegister (register : Register) (entry : Item × Item) : Prop :=
  IsNatural register.index.toNat entry.1 ∧ IsBytes register.value entry.2

def AreRegisters (registers : List Register) (item : Item) : Prop :=
  ∃ order entries, item = .map entries ∧ order.Perm registers ∧
    List.Forall₂ IsRegister order entries

def MayHold (entries : List (Item × Item)) (name : String) : Option Bytes → Prop
  | some content => Holds entries name (IsBytes content)
  | none => ∀ definite item, (Item.text definite name, item) ∈ entries → item = .null

/-- The entries of a map encode a record: all keys are texts, no field is given twice, and every
field of the record is there. -/
structure Record.Encodes (record : Record) (entries : List (Item × Item)) : Prop where
  keys : ∀ entry ∈ entries, ∃ definite name, entry.1 = .text definite name
  once : ((entries.filterMap declared?).map Prod.fst).Nodup
  module_id : Holds entries "module_id" (IsText record.moduleId)
  digest : Holds entries "digest" (IsText record.digest)
  timestamp : Holds entries "timestamp" (IsNatural record.timestamp.toNat)
  pcrs : Holds entries "pcrs" (AreRegisters record.pcrs)
  certificate : Holds entries "certificate" (IsBytes record.certificate)
  cabundle : Holds entries "cabundle" (AreBytes record.authorities)
  public_key : MayHold entries "public_key" record.publicKey
  user_data : MayHold entries "user_data" record.userData
  nonce : MayHold entries "nonce" record.nonce

/-- What the decoder takes: keys in one piece, and members of other names that it can skip. -/
inductive Taken : Item × Item → Prop
  | declared {name : String} {item : Item} :
      name ∈ Payload.fieldNames → Taken (.text true name, item)
  | other {name : String} {item : Item} :
      name ∉ Payload.fieldNames → (Bytes.ofText name).length ≤ 4096 → item.nesting ≤ 255 →
      item.supported = true → Taken (.text true name, item)

namespace Payload

theorem find?_ofText (names : List String) (name : String) :
    names.find? (fun known => Bytes.ofText known == Bytes.ofText name) =
      if name ∈ names then some name else none := by
  induction names with
  | nil => rfl
  | cons known rest ih =>
    by_cases same : known = name
    · simp [same]
    · have differs : (Bytes.ofText known == Bytes.ofText name) = false := by
        rw [beq_eq_false_iff_ne]
        intro encoded
        have decoded := Bytes.text?_eq_some_iff.2 encoded
        rw [Bytes.text?_ofText] at decoded
        exact same (Option.some.inj decoded).symm
      rw [List.find?_cons, differs, ih]
      simp [Ne.symm same]

theorem length_fieldName : ∀ name ∈ fieldNames, (Bytes.ofText name).length ≤ 4096 := by decide

theorem fits_unknownLevels_iff {item : Item} :
    item.fits unknownLevels = true ↔ item.nesting ≤ 255 ∧ item.supported = true := by
  rw [Item.fits, Bool.and_eq_true, decide_eq_true_eq]
  rfl

theorem read_text_member {name : String} (short : (Bytes.ofText name).length ≤ 4096) (item : Item) :
    entry? (.text true name, item) =
      if name ∈ fieldNames then some (some (name, item))
      else if item.fits unknownLevels then some none else none := by
  have named : (Item.text true name).name? = some (Bytes.ofText name) := if_pos short
  simp only [ entry?, named, find?_ofText]
  by_cases known : name ∈ fieldNames
  · rw [if_pos known, if_pos known]
  · rw [if_neg known, if_neg known]

theorem member_read_iff {entry : Item × Item} {found : Option (String × Item)}
    (key : ∃ definite name, entry.1 = .text definite name) :
    entry? entry = some found ↔ Taken entry ∧ found = declared? entry := by
  obtain ⟨keyItem, item⟩ := entry
  obtain ⟨definite, name, rfl⟩ := key
  cases definite with
  | false =>
    constructor
    · intro read
      cases read
    · rintro ⟨⟨⟩, _⟩
  | true =>
    by_cases short : (Bytes.ofText name).length ≤ 4096
    · rw [read_text_member short]
      by_cases known : name ∈ fieldNames
      · have declares : declared? (.text true name, item) = some (name, item) := if_pos known
        rw [if_pos known, declares, Option.some.injEq, and_iff_right (Taken.declared known), eq_comm]
      · have declares : declared? (.text true name, item) = none := if_neg known
        rw [if_neg known, declares]
        by_cases fits : item.fits unknownLevels = true
        · obtain ⟨shallow, supported⟩ := fits_unknownLevels_iff.1 fits
          rw [if_pos fits, Option.some.injEq, and_iff_right (Taken.other known short shallow supported),
            eq_comm]
        · rw [if_neg fits]
          constructor
          · intro read
            cases read
          · rintro ⟨taken, _⟩
            cases taken with
            | declared declared => exact absurd declared known
            | other _ _ shallow supported =>
              exact absurd (fits_unknownLevels_iff.2 ⟨shallow, supported⟩) fits
    · have unnamed : (Item.text true name).name? = none := if_neg short
      constructor
      · intro read
        simp [ entry?, unnamed] at read
      · rintro ⟨taken, _⟩
        cases taken with
        | declared declared => exact absurd (length_fieldName name declared) short
        | other _ small _ _ => exact absurd small short

theorem members_read_iff {entries : List (Item × Item)}
    {found : List (Option (String × Item))}
    (keys : ∀ entry ∈ entries, ∃ definite name, entry.1 = .text definite name) :
    entries.mapM entry? = some found ↔
      (∀ entry ∈ entries, Taken entry) ∧ found = entries.map declared? := by
  induction entries generalizing found with
  | nil => simp [eq_comm]
  | cons entry rest ih =>
    have later : ∀ entry ∈ rest, ∃ definite name, entry.1 = .text definite name :=
      fun entry member => keys entry (List.mem_cons_of_mem _ member)
    rw [List.mapM_cons, List.forall_mem_cons, List.map_cons]
    simp only [Option.bind_eq_bind, Option.bind_eq_some_iff, Option.pure_def, Option.some.injEq,
      member_read_iff (keys entry List.mem_cons_self), ih later]
    constructor
    · rintro ⟨_, ⟨own, rfl⟩, _, ⟨others, rfl⟩, rfl⟩
      exact ⟨⟨own, others⟩, rfl⟩
    · rintro ⟨⟨own, others⟩, rfl⟩
      exact ⟨_, ⟨own, rfl⟩, _, ⟨others, rfl⟩, rfl⟩

theorem fields?_eq_some_iff {record : Record} {entries : List (Item × Item)}
    {fields : List (String × Item)} (encodes : record.Encodes entries) :
    fields? entries = some fields ↔
      (∀ entry ∈ entries, Taken entry) ∧ fields = entries.filterMap declared? := by
  have flattened : (entries.map declared?).filterMap id = entries.filterMap declared? := by
    rw [List.filterMap_map]
    rfl
  simp only [fields?, Option.bind_eq_bind, Option.bind_eq_some_iff,
    members_read_iff encodes.keys]
  constructor
  · rintro ⟨_, ⟨taken, rfl⟩, read⟩
    rw [flattened, if_pos encodes.once] at read
    exact ⟨taken, (Option.some.inj read).symm⟩
  · rintro ⟨taken, rfl⟩
    exact ⟨_, ⟨taken, rfl⟩, by rw [flattened, if_pos encodes.once]⟩

theorem mem_declared {entries : List (Item × Item)} {name : String} {item : Item}
    (known : name ∈ fieldNames) :
    (name, item) ∈ entries.filterMap declared? ↔
      ∃ definite, (Item.text definite name, item) ∈ entries := by
  rw [List.mem_filterMap]
  constructor
  · rintro ⟨⟨key, value⟩, member, declares⟩
    unfold declared? at declares
    split at declares
    · next definite given same =>
      dsimp only at same
      subst same
      split at declares
      · cases declares
        exact ⟨definite, member⟩
      · cases declares
    · cases declares
  · rintro ⟨definite, member⟩
    exact ⟨_, member, if_pos known⟩

theorem lookup_eq_some_of_mem {fields : List (String × Item)} {name : String} {item : Item}
    (distinct : (fields.map Prod.fst).Nodup) (member : (name, item) ∈ fields) :
    fields.lookup name = some item := by
  induction fields with
  | nil => cases member
  | cons field rest ih =>
    rw [List.map_cons, List.nodup_cons] at distinct
    rcases List.mem_cons.1 member with rfl | later
    · rw [List.lookup_cons_self]
    · have differs : (name == field.1) = false := by
        rw [beq_eq_false_iff_ne]
        rintro rfl
        exact distinct.1 (List.mem_map.2 ⟨_, later, rfl⟩)
      obtain ⟨given, value⟩ := field
      rw [List.lookup_cons, differs]
      exact ih distinct.2 later

theorem text?_of_isText {content : String} {item : Item} (encoded : IsText content item) :
    item.text? = some content := by
  obtain ⟨definite, rfl⟩ := encoded
  rfl

theorem octets?_of_isBytes {content : Bytes} {item : Item} (encoded : IsBytes content item) :
    item.octets? = some content := by
  obtain ⟨definite, rfl⟩ := encoded
  rfl

theorem natural?_of_isNatural {limit value : Nat} {item : Item} (encoded : IsNatural value item)
    (small : value ≤ limit) : item.natural? limit = some value := by
  cases encoded with
  | plain => exact if_pos small
  | bignum digits =>
    subst digits
    exact if_pos small

theorem list?_of_areBytes {contents : List Bytes} {item : Item} (encoded : AreBytes contents item) :
    item.list? Item.octets? = some contents := by
  obtain ⟨items, rfl, each⟩ := encoded
  show items.mapM Item.octets? = some contents
  induction each with
  | nil => rfl
  | cons first _ ih =>
    rw [List.mapM_cons, octets?_of_isBytes first, ih]
    rfl

theorem foldlM_addRegister {registers : List Register} {entries : List (Item × Item)}
    (each : List.Forall₂ IsRegister registers entries) (set : MeasurementSet) :
    entries.foldlM addRegister set = some (set.insertAll registers) := by
  induction each generalizing set with
  | nil => rfl
  | @cons register entry _ _ own _ ih =>
    have small : register.index.toNat ≤ UInt32.size - 1 := Nat.le_pred_of_lt register.index.toNat_lt
    have added : addRegister set entry = some (set.insert register.index register.value) :=
      addRegister_eq_some_iff.2
        ⟨_, _, natural?_of_isNatural own.1 small, octets?_of_isBytes own.2, rfl⟩
    rw [List.foldlM_cons, added]
    exact ih _

theorem measurements?_of_areRegisters {record : Record} {item : Item}
    (encoded : AreRegisters record.pcrs item) :
    measurements? item = some record.measurements := by
  obtain ⟨order, entries, rfl, perm, each⟩ := encoded
  exact (foldlM_addRegister each _).trans (congrArg some (Record.insertAll_of_perm perm))

section Fields

variable {record : Record} {entries : List (Item × Item)} {name : String}

theorem required_of_holds {α : Type} {encoded : Item → Prop} {decode : Item → Option α} {value : α}
    (encodes : record.Encodes entries) (known : name ∈ fieldNames)
    (holds : Holds entries name encoded) (read : ∀ item, encoded item → decode item = some value) :
    required (entries.filterMap declared?) name decode = some value := by
  obtain ⟨definite, item, member, own⟩ := holds
  rw [required, lookup_eq_some_of_mem encodes.once ((mem_declared known).2 ⟨definite, member⟩)]
  exact read item own

theorem optional_of_mayHold {value : Option Bytes} (encodes : record.Encodes entries)
    (known : name ∈ fieldNames) (holds : MayHold entries name value) :
    optional (entries.filterMap declared?) name Item.octets? = some value := by
  unfold optional
  cases value with
  | some content =>
    obtain ⟨definite, item, member, own⟩ := holds
    rw [lookup_eq_some_of_mem encodes.once ((mem_declared known).2 ⟨definite, member⟩)]
    obtain ⟨inOne, rfl⟩ := own
    rfl
  | none =>
    cases found : (entries.filterMap declared?).lookup name with
    | none => rfl
    | some item =>
      obtain ⟨before, after, split, _⟩ := List.lookup_eq_some_iff.1 found
      have member : (name, item) ∈ entries.filterMap declared? := by simp [split]
      obtain ⟨definite, inside⟩ := (mem_declared known).1 member
      rw [holds definite item inside]
      rfl

theorem ofFields?_of_encodes (encodes : record.Encodes entries) :
    ofFields? (entries.filterMap declared?) = some record.payload := by
  have stamp : record.timestamp.toNat ≤ UInt64.size - 1 :=
    Nat.le_pred_of_lt record.timestamp.toNat_lt
  rw [ofFields?,
    required_of_holds encodes (by decide) encodes.module_id fun _ => text?_of_isText,
    required_of_holds encodes (by decide) encodes.digest fun _ => text?_of_isText,
    required_of_holds encodes (by decide) encodes.timestamp fun _ own =>
      natural?_of_isNatural own stamp,
    required_of_holds encodes (by decide) encodes.pcrs fun _ => measurements?_of_areRegisters,
    required_of_holds encodes (by decide) encodes.certificate fun _ => octets?_of_isBytes,
    required_of_holds encodes (by decide) encodes.cabundle fun _ => list?_of_areBytes,
    optional_of_mayHold encodes (by decide) encodes.public_key,
    optional_of_mayHold encodes (by decide) encodes.user_data,
    optional_of_mayHold encodes (by decide) encodes.nonce]
  rfl

end Fields

theorem read?_of_encodes {record : Record} {entries : List (Item × Item)} {text rest : Bytes}
    (encodes : record.Encodes entries) (written : (Item.map entries).Written text)
    {payload : Payload} :
    read? (text ++ rest) = some payload ↔
      (∀ entry ∈ entries, Taken entry) ∧ payload = record.payload := by
  have first : Cbor.firstItem? (text ++ rest) = some (.map entries, rest) :=
    Cbor.firstItem?_eq_some_iff.2 ⟨text, written, rfl⟩
  have isMap : (Item.map entries).entries? = some entries := rfl
  simp only [read?, first, Option.bind_eq_bind, Option.bind_some, isMap, Option.bind_eq_some_iff,
    fields?_eq_some_iff encodes]
  constructor
  · rintro ⟨_, ⟨taken, rfl⟩, read⟩
    rw [ofFields?_of_encodes encodes] at read
    exact ⟨taken, (Option.some.inj read).symm⟩
  · rintro ⟨taken, rfl⟩
    exact ⟨_, ⟨taken, rfl⟩, ofFields?_of_encodes encodes⟩

theorem ofBytes_of_not_taken {record : Record} {entries : List (Item × Item)} {text : Bytes}
    (encodes : record.Encodes entries) (written : (Item.map entries).Written text)
    {entry : Item × Item} (member : entry ∈ entries) (left : ¬Taken entry) :
    ofBytes text = .error .payload := by
  have read := @read?_of_encodes record entries text [] encodes written
  rw [List.append_nil] at read
  unfold ofBytes
  cases found : read? text with
  | none => rfl
  | some payload => exact absurd ((read.1 found).1 entry member) left

end Payload

/-- A record that is written in any of its encodings is read back exactly when it keeps to the
syntax rules and the decoder takes every member; the document is malformed otherwise. What is then
measured is the record's registers. -/
theorem ofBytes_written_iff {record : Record} {entries : List (Item × Item)} {text : Bytes}
    (encodes : record.Encodes entries) (written : (Item.map entries).Written text) (rest : Bytes) :
    (Payload.ofBytes (text ++ rest) = .ok record.payload ↔
      record.WithinLimits ∧ ∀ entry ∈ entries, Taken entry) ∧
    (¬(record.WithinLimits ∧ ∀ entry ∈ entries, Taken entry) →
      ∃ defect, Payload.ofBytes (text ++ rest) = .error defect) ∧
    ∀ index value, record.payload.measurements.get? index = some value ↔
      ⟨index, value⟩ ∈ record.pcrs := by
  have accepted {payload : Payload} : Payload.ofBytes (text ++ rest) = .ok payload ↔
      ((∀ entry ∈ entries, Taken entry) ∧ payload = record.payload) ∧ payload.check = .ok () := by
    rw [Payload.ofBytes_eq_ok_iff, Payload.read?_of_encodes encodes written]
  refine ⟨?_, ?_, record.get?_measurements⟩
  · rw [accepted, Payload.check_eq_ok_iff, and_iff_left rfl, and_comm]
  · intro broken
    cases result : Payload.ofBytes (text ++ rest) with
    | error defect => exact ⟨defect, rfl⟩
    | ok payload =>
      obtain ⟨⟨taken, rfl⟩, checked⟩ := accepted.1 result
      exact absurd ⟨Payload.check_eq_ok_iff.1 checked, taken⟩ broken

namespace Mixed

/-! A record with three registers, and an encoding of it in all kinds of forms: in another order, with
and without lengths, with strings in pieces, a number as a bignum, a field that is null, and a member
of another name. -/

def record : Record where
  moduleId := "i-0"
  digest := "SHA384"
  timestamp := 1700000000000
  pcrs := [⟨0, List.replicate 48 0xA0⟩, ⟨4, List.replicate 32 0xA4⟩, ⟨31, List.replicate 64 0xAF⟩]
  distinct := by decide
  certificate := [0x30, 0x01]
  authorities := [[0x30, 0x02], [0x30, 0x03, 0x04]]
  publicKey := some [0x05, 0x06]
  userData := none
  nonce := some []

def registers : List (Item × Item) := [
  (.natural 31, .bytes true (List.replicate 64 0xAF)),
  (.tag 2 (.bytes true [0x04]), .bytes false (List.replicate 32 0xA4)),
  (.natural 0, .bytes true (List.replicate 48 0xA0))]

def notes : Item :=
  .array [.map [(.negative 3, .boolean true)], .tag 1 (.float 2 0x3C00), .undefined]

def entries : List (Item × Item) := [
  (.text true "nonce", .bytes false []),
  (.text true "pcrs", .map registers),
  (.text true "notes", notes),
  (.text true "user_data", .null),
  (.text true "timestamp", .natural 1700000000000),
  (.text true "module_id", .text false "i-0"),
  (.text true "public_key", .bytes true [0x05, 0x06]),
  (.text true "cabundle", .array [.bytes true [0x30, 0x02], .bytes true [0x30, 0x03, 0x04]]),
  (.text true "digest", .text true "SHA384"),
  (.text true "certificate", .bytes true [0x30, 0x01])]

def octets : Bytes :=
  [0xBF, 0x65, 0x6E, 0x6F, 0x6E, 0x63, 0x65, 0x5F, 0xFF, 0x64, 0x70, 0x63, 0x72, 0x73, 0xBF,
   0x18, 0x1F, 0x58, 0x40] ++ List.replicate 64 0xAF ++
  [0xC2, 0x41, 0x04, 0x5F, 0x50] ++ List.replicate 16 0xA4 ++
  [0x50] ++ List.replicate 16 0xA4 ++
  [0xFF, 0x00, 0x58, 0x30] ++ List.replicate 48 0xA0 ++
  [0xFF, 0x65, 0x6E, 0x6F, 0x74, 0x65, 0x73, 0x83, 0xA1, 0x23, 0xF5, 0xC1, 0xF9, 0x3C, 0x00,
   0xF7, 0x69, 0x75, 0x73, 0x65, 0x72, 0x5F, 0x64, 0x61, 0x74, 0x61, 0xF6, 0x69, 0x74, 0x69,
   0x6D, 0x65, 0x73, 0x74, 0x61, 0x6D, 0x70, 0x1B, 0x00, 0x00, 0x01, 0x8B, 0xCF, 0xE5, 0x68,
   0x00, 0x69, 0x6D, 0x6F, 0x64, 0x75, 0x6C, 0x65, 0x5F, 0x69, 0x64, 0x7F, 0x61, 0x69, 0x62,
   0x2D, 0x30, 0xFF, 0x6A, 0x70, 0x75, 0x62, 0x6C, 0x69, 0x63, 0x5F, 0x6B, 0x65, 0x79, 0x42,
   0x05, 0x06, 0x68, 0x63, 0x61, 0x62, 0x75, 0x6E, 0x64, 0x6C, 0x65, 0x9F, 0x42, 0x30, 0x02,
   0x43, 0x30, 0x03, 0x04, 0xFF, 0x66, 0x64, 0x69, 0x67, 0x65, 0x73, 0x74, 0x78, 0x06, 0x53,
   0x48, 0x41, 0x33, 0x38, 0x34, 0x6B, 0x63, 0x65, 0x72, 0x74, 0x69, 0x66, 0x69, 0x63, 0x61,
   0x74, 0x65, 0x59, 0x00, 0x02, 0x30, 0x01, 0xFF]

set_option maxRecDepth 100000 in
theorem written : (Item.map entries).Written octets := Cbor.onlyItem?_eq_some_iff.1 rfl

theorem areRegisters : AreRegisters record.pcrs (.map registers) :=
  ⟨record.pcrs.reverse, registers, rfl, List.reverse_perm _,
    .cons ⟨.plain, true, rfl⟩ (.cons ⟨.bignum rfl, false, rfl⟩ (.cons ⟨.plain, true, rfl⟩ .nil))⟩

theorem encodes : record.Encodes entries where
  keys := by simp [entries]
  once := by decide
  module_id := ⟨true, .text false "i-0", by simp [entries], false, rfl⟩
  digest := ⟨true, .text true "SHA384", by simp [entries], true, rfl⟩
  timestamp := ⟨true, .natural 1700000000000, by simp [entries], .plain⟩
  pcrs := ⟨true, .map registers, by simp [entries], areRegisters⟩
  certificate := ⟨true, .bytes true [0x30, 0x01], by simp [entries], true, rfl⟩
  cabundle := ⟨true, .array [.bytes true [0x30, 0x02], .bytes true [0x30, 0x03, 0x04]],
    by simp [entries], _, rfl, .cons ⟨true, rfl⟩ (.cons ⟨true, rfl⟩ .nil)⟩
  public_key := ⟨true, .bytes true [0x05, 0x06], by simp [entries], true, rfl⟩
  user_data := by
    intro definite item member
    simp only [entries, List.mem_cons, List.not_mem_nil, or_false, Prod.mk.injEq,
      Item.text.injEq] at member
    simp only [String.reduceEq, and_false, false_and, and_true, false_or, or_false] at member
    exact member.2
  nonce := ⟨true, .bytes false [], by simp [entries], false, rfl⟩

theorem withinLimits : record.WithinLimits where
  module_named := by decide
  digest_known := rfl
  timestamp_given := by decide
  registers := {
    some_register := by decide
    few_registers := by decide
    index_small := by decide
    value_length := by decide }
  some_authority := by decide
  certificates := by decide
  public_key := by
    rintro _ ⟨⟩
    decide
  user_data := nofun
  nonce := by
    rintro _ ⟨⟩
    decide

theorem taken : ∀ entry ∈ entries, Taken entry := by
  have declared {name : String} (item : Item) (known : name ∈ Payload.fieldNames) :
      Taken (.text true name, item) := .declared known
  have other : Taken (.text true "notes", notes) :=
    .other (by decide) (by decide) (by decide) (by decide)
  simp only [entries, List.forall_mem_cons, other, true_and]
  refine ⟨declared _ ?_, declared _ ?_, declared _ ?_, declared _ ?_, declared _ ?_, declared _ ?_,
    declared _ ?_, declared _ ?_, declared _ ?_, nofun⟩ <;> decide

end Mixed

theorem ofBytes_mixed :
    Mixed.record.Encodes Mixed.entries ∧ (Item.map Mixed.entries).Written Mixed.octets ∧
    Payload.ofBytes (Mixed.octets ++ [0xF6]) = .ok Mixed.record.payload :=
  ⟨Mixed.encodes, Mixed.written,
    (ofBytes_written_iff Mixed.encodes Mixed.written [0xF6]).1.2 ⟨Mixed.withinLimits, Mixed.taken⟩⟩

namespace Sample

def record : Record where
  moduleId := "i"
  digest := "SHA384"
  timestamp := 1
  pcrs := [⟨0, List.replicate 32 0⟩]
  distinct := by decide
  certificate := [0]
  authorities := [[0]]
  publicKey := none
  userData := none
  nonce := none

def fields (whole : Bool) : List (Item × Item) := [
  (.text true "module_id", .text true "i"),
  (.text whole "digest", .text true "SHA384"),
  (.text true "timestamp", .natural 1),
  (.text true "pcrs", .map [(.natural 0, .bytes true (List.replicate 32 0))]),
  (.text true "certificate", .bytes true [0]),
  (.text true "cabundle", .array [.bytes true [0]])]

def octets (digestKey : Bytes) : Bytes :=
  [0x69, 0x6D, 0x6F, 0x64, 0x75, 0x6C, 0x65, 0x5F, 0x69, 0x64, 0x61, 0x69] ++ digestKey ++
  [0x66, 0x53, 0x48, 0x41, 0x33, 0x38, 0x34, 0x69, 0x74, 0x69, 0x6D, 0x65, 0x73, 0x74, 0x61, 0x6D,
    0x70, 0x01, 0x64, 0x70, 0x63, 0x72, 0x73, 0xA1, 0x00, 0x58, 0x20] ++ List.replicate 32 0x00 ++
  [0x6B, 0x63, 0x65, 0x72, 0x74, 0x69, 0x66, 0x69, 0x63, 0x61, 0x74, 0x65, 0x41, 0x00, 0x68, 0x63,
    0x61, 0x62, 0x75, 0x6E, 0x64, 0x6C, 0x65, 0x81, 0x41, 0x00]

def digestKey : Bytes := [0x66, 0x64, 0x69, 0x67, 0x65, 0x73, 0x74]

theorem withinLimits : record.WithinLimits where
  module_named := by decide
  digest_known := rfl
  timestamp_given := by decide
  registers := {
    some_register := by decide
    few_registers := by decide
    index_small := by decide
    value_length := by decide }
  some_authority := by decide
  certificates := by decide
  public_key := nofun
  user_data := nofun
  nonce := nofun

theorem encodes (whole : Bool) {others : List (Item × Item)}
    (unknown : ∀ entry ∈ others, ∃ definite name,
      entry.1 = .text definite name ∧ name ∉ Payload.fieldNames) :
    record.Encodes (fields whole ++ others) := by
  have nothing : others.filterMap declared? = [] := by
    rw [List.filterMap_eq_nil_iff]
    intro entry member
    obtain ⟨definite, name, key, other⟩ := unknown entry member
    simp only [declared?, key, if_neg other]
  have absent {name : String} (known : name ∈ Payload.fieldNames)
      (missing : name ∉ ["module_id", "digest", "timestamp", "pcrs", "certificate", "cabundle"]) :
      MayHold (fields whole ++ others) name none := by
    intro definite item member
    rcases List.mem_append.1 member with own | other
    · simp only [fields, List.mem_cons, List.not_mem_nil, or_false, Prod.mk.injEq,
        Item.text.injEq] at own
      exact absurd (by simp only [List.mem_cons]; tauto) missing
    · obtain ⟨_, _, same, differs⟩ := unknown _ other
      cases same
      exact absurd known differs
  exact {
    keys := by
      intro entry member
      rcases List.mem_append.1 member with own | other
      · simp only [fields, List.mem_cons, List.not_mem_nil, or_false] at own
        rcases own with rfl | rfl | rfl | rfl | rfl | rfl <;> exact ⟨_, _, rfl⟩
      · obtain ⟨definite, name, key, _⟩ := unknown entry other
        exact ⟨definite, name, key⟩
    once := by
      rw [List.filterMap_append, nothing, List.append_nil]
      cases whole <;> decide
    module_id := ⟨true, .text true "i", by simp [fields], true, rfl⟩
    digest := ⟨whole, .text true "SHA384", by simp [fields], true, rfl⟩
    timestamp := ⟨true, .natural 1, by simp [fields], .plain⟩
    pcrs := ⟨true, .map [(.natural 0, .bytes true (List.replicate 32 0))], by simp [fields],
      record.pcrs, _, rfl, .refl _, .cons ⟨.plain, true, rfl⟩ .nil⟩
    certificate := ⟨true, .bytes true [0], by simp [fields], true, rfl⟩
    cabundle := ⟨true, .array [.bytes true [0]], by simp [fields], _, rfl, .cons ⟨true, rfl⟩ .nil⟩
    public_key := absent (by decide) (by decide)
    user_data := absent (by decide) (by decide)
    nonce := absent (by decide) (by decide) }

theorem unknown_single {definite : Bool} {name : String} {item : Item}
    (other : name ∉ Payload.fieldNames) : ∀ entry ∈ [(Item.text definite name, item)],
      ∃ definite name, entry.1 = .text definite name ∧ name ∉ Payload.fieldNames := by
  intro entry member
  rw [List.mem_singleton.1 member]
  exact ⟨definite, name, rfl, other⟩

structure Refused (entries : List (Item × Item)) (text : Bytes) : Prop where
  encodes : record.Encodes entries
  shallow : ∀ entry ∈ entries, entry.2.nesting ≤ 255
  written : (Item.map entries).Written text
  malformed : Payload.ofBytes text = .error .payload

theorem refused_of_not_taken {entries : List (Item × Item)} {text : Bytes}
    (encodes : record.Encodes entries) (shallow : ∀ entry ∈ entries, entry.2.nesting ≤ 255)
    (written : (Item.map entries).Written text) {entry : Item × Item} (member : entry ∈ entries)
    (left : ¬Taken entry) : Refused entries text :=
  ⟨encodes, shallow, written, Payload.ofBytes_of_not_taken encodes written member left⟩

def belowRange : Item := .tag 3 (.bytes true (List.replicate 16 0xFF))

def withBelowRange : List (Item × Item) := fields true ++ [(.text true "x", belowRange)]

set_option maxRecDepth 100000 in
theorem written_belowRange : (Item.map withBelowRange).Written
    (0xA7 :: octets digestKey ++ [0x61, 0x78, 0xC3, 0x50] ++ List.replicate 16 0xFF) :=
  Cbor.onlyItem?_eq_some_iff.1 rfl

theorem not_taken_belowRange : ¬Taken (.text true "x", belowRange) := by
  intro taken
  cases taken with
  | declared known => exact absurd known (by decide)
  | other _ _ _ supported => exact absurd supported (by decide)

def digestKeyInPieces : Bytes := [0x7F, 0x63, 0x64, 0x69, 0x67, 0x63, 0x65, 0x73, 0x74, 0xFF]

set_option maxRecDepth 100000 in
theorem written_inPieces :
    (Item.map (fields false ++ [])).Written (0xA6 :: octets digestKeyInPieces) :=
  Cbor.onlyItem?_eq_some_iff.1 rfl

def longName : String := String.ofList (List.replicate 4097 'x')

def withLongName : List (Item × Item) := fields true ++ [(.text true longName, .null)]

theorem length_letters (count : Nat) :
    (Bytes.ofText (String.ofList (List.replicate count 'x'))).length = count := by
  rw [Bytes.ofText_ofList]
  induction count with
  | zero => rfl
  | succ count ih =>
    rw [List.replicate_succ, List.flatMap_cons, List.length_append, ih, Nat.add_comm]
    rfl

theorem length_longName : (Bytes.ofText longName).length = 4097 := length_letters 4097

theorem unknown_of_long {name : String} (long : 4096 < (Bytes.ofText name).length) :
    name ∉ Payload.fieldNames := fun known =>
  Nat.not_lt.2 (Payload.length_fieldName name known) long

theorem not_taken_of_long {name : String} (long : 4096 < (Bytes.ofText name).length) (item : Item) :
    ¬Taken (.text true name, item) := by
  intro taken
  cases taken with
  | declared known => exact unknown_of_long long known
  | other _ short _ _ => exact Nat.not_lt.2 short long

theorem longName_long : 4096 < (Bytes.ofText longName).length := by
  rw [length_longName]
  decide

set_option maxRecDepth 100000 in
theorem written_fields : Cbor.WrittenItems (Cbor.unpaired (fields true)) (octets digestKey) := by
  have read : Cbor.readItems 300 (some 12) (octets digestKey) =
      some (Cbor.unpaired (fields true), []) := rfl
  obtain ⟨own, written, _, split⟩ := (Cbor.readsOnlyWritten 300).2.1 read
  rwa [split, List.append_nil]

theorem written_named {name : String} (length : (Bytes.ofText name).length = 4097) :
    (Item.map (fields true ++ [(.text true name, .null)])).Written
      (0xA7 :: (octets digestKey ++ (0x79 :: 0x10 :: 0x01 :: Bytes.ofText name ++ [0xF6]))) := by
  have null : Item.null.Written [0xF6] :=
    @Item.Written.simple 22 22 .null [0xF6] (.short (by decide) (by decide)) rfl
  have head : Cbor.Head.Written ⟨3, 25, some (Bytes.ofText name).length⟩ [0x79, 0x10, 0x01] := by
    rw [length, ← show Bytes.toNat [0x10, 0x01] = 4097 by decide]
    exact @Cbor.Head.Written.long 3 25 [0x10, 0x01] (by decide) (by decide) (by decide) rfl
  have items := written_fields.append (.cons (.text head) (.cons null .nil))
  have whole : Cbor.Head.Written ⟨5, 7, some 7⟩ [0xA7] := .short (by decide) (by decide)
  exact @Item.Written.map 7 (fields true ++ [(Item.text true name, Item.null)]) _ _ whole items

def withSimple : List (Item × Item) := fields true ++ [(.text true "x", .simple 16)]

set_option maxRecDepth 100000 in
theorem written_simple :
    (Item.map withSimple).Written (0xA7 :: octets digestKey ++ [0x61, 0x78, 0xF0]) :=
  Cbor.onlyItem?_eq_some_iff.1 rfl

theorem not_taken_simple : ¬Taken (.text true "x", .simple 16) := by
  intro taken
  cases taken with
  | declared known => exact absurd known (by decide)
  | other _ _ _ supported => cases supported

end Sample

open Sample in
/-- Encodings of the sample record that the decoder does not take: with a number below its range,
with the key of a field in pieces, with too long a name, and with a simple value it does not know. -/
theorem sample_refused :
    record.WithinLimits ∧
    Refused withBelowRange
      (0xA7 :: octets digestKey ++ [0x61, 0x78, 0xC3, 0x50] ++ List.replicate 16 0xFF) ∧
    Refused (fields false ++ []) (0xA6 :: octets digestKeyInPieces) ∧
    Refused withLongName
      (0xA7 :: (octets digestKey ++ (0x79 :: 0x10 :: 0x01 :: Bytes.ofText longName ++ [0xF6]))) ∧
    Refused withSimple (0xA7 :: octets digestKey ++ [0x61, 0x78, 0xF0]) := by
  refine ⟨withinLimits, ?_, ?_, ?_, ?_⟩
  · exact refused_of_not_taken (encodes true (unknown_single (by decide))) (by decide)
      written_belowRange (List.mem_append_right _ List.mem_cons_self) not_taken_belowRange
  · exact refused_of_not_taken (encodes false nofun) (by decide) written_inPieces
      (List.mem_cons_of_mem _ List.mem_cons_self) nofun
  · exact refused_of_not_taken (encodes true (unknown_single (unknown_of_long longName_long))) (by decide)
      (written_named length_longName) (List.mem_append_right _ List.mem_cons_self)
      (not_taken_of_long longName_long _)
  · exact refused_of_not_taken (encodes true (unknown_single (by decide))) (by decide) written_simple
      (List.mem_append_right _ List.mem_cons_self) not_taken_simple

end Attestation

end EnclaveProvenance
