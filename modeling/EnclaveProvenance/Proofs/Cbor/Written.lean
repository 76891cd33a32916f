import EnclaveProvenance.Cbor.Content

/-!
The encodings of CBOR items (RFC 8949): heads of any width, strings in one piece or in several, and
arrays and maps with their length or without one. Reading accepts exactly these encodings, and each
text starts with at most one of them.
-/

namespace EnclaveProvenance.Cbor

inductive Head.Written : Head → Bytes → Prop
  | short {major info : Nat} : major < 8 → info < 24 →
      Written ⟨major, info, some info⟩ [UInt8.ofNat (32 * major + info)]
  | long {major info : Nat} {octets : Bytes} : major < 8 → 24 ≤ info → info < 28 →
      octets.length = Nat.pow 2 (info - 24) →
      Written ⟨major, info, some (Bytes.toNat octets)⟩ (UInt8.ofNat (32 * major + info) :: octets)
  | unbounded {major : Nat} : major < 8 →
      Written ⟨major, 31, none⟩ [UInt8.ofNat (32 * major + 31)]

theorem toNat_first {major info : Nat} (majorSmall : major < 8) (infoSmall : info < 32) :
    (UInt8.ofNat (32 * major + info)).toNat = 32 * major + info := by
  rw [UInt8.toNat_ofNat']
  omega

theorem readArgument_append {major info width : Nat} {octets : Bytes} (rest : Bytes)
    (length : octets.length = width) :
    readArgument major info width (octets ++ rest) =
      some (⟨major, info, some (Bytes.toNat octets)⟩, rest) := by
  subst length
  simp [readArgument]

theorem readHead_cons {major info : Nat} (majorSmall : major < 8) (infoSmall : info < 32)
    (rest : Bytes) :
    readHead (UInt8.ofNat (32 * major + info) :: rest) =
      if info < 24 then some (⟨major, info, some info⟩, rest)
      else if info = 24 then readArgument major info 1 rest
      else if info = 25 then readArgument major info 2 rest
      else if info = 26 then readArgument major info 4 rest
      else if info = 27 then readArgument major info 8 rest
      else if info = 31 then some (⟨major, info, none⟩, rest)
      else none := by
  have quotient : (32 * major + info) / 32 = major := by omega
  have remainder : (32 * major + info) % 32 = info := by omega
  simp only [readHead, toNat_first majorSmall infoSmall, quotient, remainder]

theorem readHead_of_written {head : Head} {own : Bytes} (written : head.Written own) (rest : Bytes) :
    readHead (own ++ rest) = some (head, rest) := by
  cases written with
  | short majorSmall infoSmall =>
    rw [List.singleton_append, readHead_cons majorSmall (by omega), if_pos infoSmall]
  | @long major info octets majorSmall low high length =>
    rw [List.cons_append, readHead_cons majorSmall (by omega), if_neg (by omega)]
    have widths : info = 24 ∨ info = 25 ∨ info = 26 ∨ info = 27 := by omega
    rcases widths with rfl | rfl | rfl | rfl <;> exact readArgument_append rest length
  | unbounded majorSmall =>
    rw [List.singleton_append, readHead_cons majorSmall (by omega)]
    rfl

theorem readArgument_eq_some_iff {major info width : Nat} {text rest : Bytes} {head : Head} :
    readArgument major info width text = some (head, rest) ↔
      ∃ octets, octets.length = width ∧ text = octets ++ rest ∧
        head = ⟨major, info, some (Bytes.toNat octets)⟩ := by
  constructor
  · intro read
    unfold readArgument at read
    dsimp only at read
    split at read
    · next length =>
      cases read
      exact ⟨text.take width, length, (List.take_append_drop width text).symm, rfl⟩
    · cases read
  · rintro ⟨octets, length, rfl, rfl⟩
    exact readArgument_append rest length

theorem written_of_readHead {text rest : Bytes} {head : Head}
    (read : readHead text = some (head, rest)) : ∃ own, head.Written own ∧ text = own ++ rest := by
  cases text with
  | nil => cases read
  | cons first following =>
    obtain ⟨major, info, majorSmall, infoSmall, rfl⟩ : ∃ major info, major < 8 ∧ info < 32 ∧
        first = UInt8.ofNat (32 * major + info) := by
      have small := first.toNat_lt
      refine ⟨first.toNat / 32, first.toNat % 32, by omega, by omega, ?_⟩
      rw [Nat.div_add_mod, UInt8.ofNat_toNat]
    have wide {width : Nat} (low : 24 ≤ info) (high : info < 28) (power : width = Nat.pow 2 (info - 24))
        (argument : readArgument major info width following = some (head, rest)) :
        ∃ own, head.Written own ∧ UInt8.ofNat (32 * major + info) :: following = own ++ rest := by
      obtain ⟨octets, length, rfl, rfl⟩ := readArgument_eq_some_iff.1 argument
      exact ⟨_, .long majorSmall low high (length.trans power), rfl⟩
    rw [readHead_cons majorSmall infoSmall] at read
    split at read
    · next direct =>
      cases read
      exact ⟨_, .short majorSmall direct, rfl⟩
    split at read
    · next one =>
      subst one
      exact wide (by decide) (by decide) rfl read
    split at read
    · next two =>
      subst two
      exact wide (by decide) (by decide) rfl read
    split at read
    · next four =>
      subst four
      exact wide (by decide) (by decide) rfl read
    split at read
    · next eight =>
      subst eight
      exact wide (by decide) (by decide) rfl read
    split at read
    · next limitless =>
      cases read
      subst limitless
      exact ⟨_, .unbounded majorSmall, rfl⟩
    · cases read

theorem Head.Written.start {head : Head} {own : Bytes} (written : head.Written own) :
    ∃ first rest, own = first :: rest ∧ first.toNat = 32 * head.major + head.info ∧
      head.major < 8 ∧ head.info < 32 ∧ (head.info = 31 → head.argument = none) := by
  cases written with
  | short majorSmall infoSmall =>
    exact ⟨_, _, rfl, toNat_first majorSmall (by omega), majorSmall, by dsimp only; omega,
      fun full => by dsimp only at full; omega⟩
  | long majorSmall low high length =>
    exact ⟨_, _, rfl, toNat_first majorSmall (by omega), majorSmall, by dsimp only; omega,
      fun full => by dsimp only at full; omega⟩
  | unbounded majorSmall =>
    exact ⟨_, _, rfl, toNat_first majorSmall (by omega), majorSmall, by dsimp only; omega,
      fun _ => rfl⟩

theorem Head.Written.head?_ne_stop {head : Head} {own : Bytes} (written : head.Written own)
    (known : head.major = 7 → head.argument ≠ none) (rest : Bytes) :
    (own ++ rest).head? ≠ some stopCode := by
  obtain ⟨first, others, rfl, value, majorSmall, infoSmall, full⟩ := written.start
  intro same
  rw [List.cons_append, List.head?_cons, Option.some.injEq] at same
  have stop : 32 * head.major + head.info = 255 := by
    rw [← value, same]
    rfl
  exact known (by omega) (full (by omega))

theorem Head.Written.length_pos {head : Head} {own : Bytes} (written : head.Written own) :
    0 < own.length := by
  obtain ⟨first, others, rfl, _⟩ := written.start
  exact Nat.succ_pos _

theorem readContent_append (content rest : Bytes) :
    readContent content.length (content ++ rest) = some (content, rest) := by
  simp [readContent]

theorem readContent_eq_some_iff {length : Nat} {text content rest : Bytes} :
    readContent length text = some (content, rest) ↔
      content.length = length ∧ text = content ++ rest := by
  constructor
  · intro read
    unfold readContent at read
    dsimp only at read
    split at read
    · next enough =>
      cases read
      exact ⟨enough, (List.take_append_drop length text).symm⟩
    · cases read
  · rintro ⟨rfl, rfl⟩
    exact readContent_append content rest

inductive WrittenPieces (major : Nat) : Nat → List Bytes → Bytes → Prop
  | close : WrittenPieces major 0 [] [stopCode]
  | leave {nested : Nat} {pieces : List Bytes} {own : Bytes} :
      WrittenPieces major nested pieces own →
      WrittenPieces major (nested + 1) pieces (stopCode :: own)
  | enter {nested info : Nat} {pieces : List Bytes} {head own : Bytes} :
      Head.Written ⟨major, info, none⟩ head → WrittenPieces major (nested + 1) pieces own →
      WrittenPieces major nested pieces (head ++ own)
  | piece {nested info : Nat} {content head own : Bytes} {pieces : List Bytes} :
      Head.Written ⟨major, info, some content.length⟩ head →
      WrittenPieces major nested pieces own →
      WrittenPieces major nested (content :: pieces) (head ++ content ++ own)

theorem readPieces_of_written {major nested : Nat} {pieces : List Bytes} {own : Bytes}
    (isString : major < 7) (written : WrittenPieces major nested pieces own) {fuel : Nat}
    (enough : own.length ≤ fuel) (rest : Bytes) :
    readPieces major fuel nested (own ++ rest) = some (pieces, rest) := by
  induction written generalizing fuel with
  | close =>
    cases fuel with
    | zero => simp at enough
    | succ fuel => rfl
  | leave _ ih =>
    cases fuel with
    | zero => simp at enough
    | succ fuel =>
      rw [List.cons_append, readPieces.eq_def]
      exact ih (by simpa using enough)
  | enter head _ ih =>
    have positive := head.length_pos
    rw [List.length_append] at enough
    cases fuel with
    | zero => omega
    | succ fuel =>
      rw [readPieces.eq_def, List.append_assoc]
      simp only [if_neg (head.head?_ne_stop (by simp; omega) _), readHead_of_written head, if_true]
      exact ih (by omega)
  | piece head _ ih =>
    have positive := head.length_pos
    simp only [List.length_append] at enough
    cases fuel with
    | zero => omega
    | succ fuel =>
      rw [readPieces.eq_def, List.append_assoc, List.append_assoc]
      simp only [if_neg (head.head?_ne_stop (by simp) _), readHead_of_written head, if_true,
        readContent_append]
      rw [ih (by omega)]
      rfl

theorem written_of_readPieces {major fuel nested : Nat} {text rest : Bytes} {pieces : List Bytes}
    (read : readPieces major fuel nested text = some (pieces, rest)) :
    ∃ own, WrittenPieces major nested pieces own ∧ text = own ++ rest := by
  induction fuel generalizing nested text pieces with
  | zero => cases read
  | succ fuel ih =>
    rw [readPieces.eq_def] at read
    dsimp only at read
    split at read
    · next stop =>
      obtain ⟨others, rfl⟩ : ∃ others, text = stopCode :: others := by
        cases text with
        | nil => cases stop
        | cons first others =>
          cases stop
          exact ⟨others, rfl⟩
      cases nested with
      | zero =>
        cases read
        exact ⟨_, .close, rfl⟩
      | succ nested =>
        obtain ⟨own, written, later⟩ := ih read
        refine ⟨stopCode :: own, .leave written, ?_⟩
        rw [List.cons_append, ← later]
        rfl
    · cases headRead : readHead text with
      | none =>
        rw [headRead] at read
        cases read
      | some found =>
        obtain ⟨⟨own, info, argument⟩, following⟩ := found
        obtain ⟨headOwn, headWritten, rfl⟩ := written_of_readHead headRead
        rw [headRead] at read
        dsimp only at read
        split at read
        · next same =>
          subst same
          cases argument with
          | none =>
            obtain ⟨later, written, rfl⟩ := ih read
            exact ⟨headOwn ++ later, .enter headWritten written, (List.append_assoc _ _ _).symm⟩
          | some length =>
            dsimp only at read
            cases contentRead : readContent length following with
            | none =>
              rw [contentRead] at read
              cases read
            | some cut =>
              obtain ⟨content, after⟩ := cut
              obtain ⟨rfl, rfl⟩ := readContent_eq_some_iff.1 contentRead
              rw [contentRead] at read
              obtain ⟨⟨others, final⟩, last, joined⟩ := Option.map_eq_some_iff.1 read
              cases joined
              obtain ⟨later, written, rfl⟩ := ih last
              exact ⟨headOwn ++ content ++ later, .piece headWritten written, by simp⟩
        · cases read

def unpaired (entries : List (Item × Item)) : List Item :=
  entries.flatMap fun entry => [entry.1, entry.2]

theorem pairUp_unpaired (entries : List (Item × Item)) :
    pairUp (unpaired entries) = some entries := by
  induction entries with
  | nil => rfl
  | cons entry rest ih =>
    show (pairUp (unpaired rest)).map _ = _
    rw [ih]
    rfl

theorem length_unpaired (entries : List (Item × Item)) :
    (unpaired entries).length = 2 * entries.length := by
  induction entries with
  | nil => rfl
  | cons entry rest ih =>
    rw [List.length_cons, Nat.mul_succ, ← ih]
    rfl

theorem pairUp_eq_some_iff {items : List Item} {entries : List (Item × Item)} :
    pairUp items = some entries ↔ items = unpaired entries := by
  constructor
  · intro paired
    induction items using pairUp.induct generalizing entries with
    | case1 => cases paired; rfl
    | case2 => cases paired
    | case3 key value rest ih =>
      obtain ⟨others, later, rfl⟩ := Option.map_eq_some_iff.1 paired
      rw [ih later]
      rfl
  · rintro rfl
    exact pairUp_unpaired entries

mutual

/-- The encodings of an item. A string in several pieces may be cut anywhere, but every piece of a
text is a text. -/
inductive Item.Written : Item → Bytes → Prop
  | natural {info value : Nat} {own : Bytes} :
      Head.Written ⟨0, info, some value⟩ own → Item.Written (.natural value) own
  | negative {info value : Nat} {own : Bytes} :
      Head.Written ⟨1, info, some value⟩ own → Item.Written (.negative value) own
  | bytes {info : Nat} {content head : Bytes} :
      Head.Written ⟨bytesMajor, info, some content.length⟩ head →
      Item.Written (.bytes true content) (head ++ content)
  | openBytes {info : Nat} {pieces : List Bytes} {head own : Bytes} :
      Head.Written ⟨bytesMajor, info, none⟩ head → WrittenPieces bytesMajor 0 pieces own →
      Item.Written (.bytes false pieces.flatten) (head ++ own)
  | text {info : Nat} {content : String} {head : Bytes} :
      Head.Written ⟨textMajor, info, some (Bytes.ofText content).length⟩ head →
      Item.Written (.text true content) (head ++ Bytes.ofText content)
  | openText {info : Nat} {pieces : List String} {head own : Bytes} :
      Head.Written ⟨textMajor, info, none⟩ head →
      WrittenPieces textMajor 0 (pieces.map Bytes.ofText) own →
      Item.Written (.text false (String.join pieces)) (head ++ own)
  | array {info : Nat} {items : List Item} {head own : Bytes} :
      Head.Written ⟨arrayMajor, info, some items.length⟩ head → WrittenItems items own →
      Item.Written (.array items) (head ++ own)
  | openArray {info : Nat} {items : List Item} {head own : Bytes} :
      Head.Written ⟨arrayMajor, info, none⟩ head → WrittenItems items own →
      Item.Written (.array items) (head ++ own ++ [stopCode])
  | map {info : Nat} {entries : List (Item × Item)} {head own : Bytes} :
      Head.Written ⟨mapMajor, info, some entries.length⟩ head →
      WrittenItems (unpaired entries) own → Item.Written (.map entries) (head ++ own)
  | openMap {info : Nat} {entries : List (Item × Item)} {head own : Bytes} :
      Head.Written ⟨mapMajor, info, none⟩ head → WrittenItems (unpaired entries) own →
      Item.Written (.map entries) (head ++ own ++ [stopCode])
  | tag {info number : Nat} {content : Item} {head own : Bytes} :
      Head.Written ⟨tagMajor, info, some number⟩ head → Item.Written content own →
      Item.Written (.tag number content) (head ++ own)
  | simple {info argument : Nat} {item : Item} {own : Bytes} :
      Head.Written ⟨simpleMajor, info, some argument⟩ own → simpleItem info argument = item →
      Item.Written item own

inductive WrittenItems : List Item → Bytes → Prop
  | nil : WrittenItems [] []
  | cons {item : Item} {items : List Item} {own later : Bytes} :
      Item.Written item own → WrittenItems items later →
      WrittenItems (item :: items) (own ++ later)

end

def Item.isSimple : Item → Bool
  | .boolean _ | .null | .undefined | .simple _ | .float _ _ => true
  | _ => false

theorem isSimple_of_simpleItem {info argument : Nat} {item : Item}
    (known : simpleItem info argument = item) : item.isSimple = true := by
  subst known
  unfold simpleItem
  repeat' split
  all_goals rfl

theorem Item.Written.start {item : Item} {own : Bytes} (written : item.Written own) :
    ∃ head headOwn others, Head.Written head headOwn ∧ own = headOwn ++ others ∧
      (head.major = simpleMajor → head.argument ≠ none) := by
  cases written with
  | natural head | negative head => exact ⟨_, _, [], head, (List.append_nil _).symm, nofun⟩
  | bytes head | openBytes head _ | text head | openText head _ | array head _ | map head _
  | tag head _ => exact ⟨_, _, _, head, rfl, nofun⟩
  | openArray head _ | openMap head _ => exact ⟨_, _, _, head, List.append_assoc _ _ _, nofun⟩
  | simple head _ => exact ⟨_, _, [], head, (List.append_nil _).symm, fun _ => nofun⟩

theorem Item.Written.head?_ne_stop {item : Item} {own : Bytes} (written : item.Written own)
    (rest : Bytes) : (own ++ rest).head? ≠ some stopCode := by
  obtain ⟨head, headOwn, others, headWritten, rfl, known⟩ := written.start
  rw [List.append_assoc]
  exact headWritten.head?_ne_stop known _

theorem Item.Written.length_pos {item : Item} {own : Bytes} (written : item.Written own) :
    0 < own.length := by
  obtain ⟨head, headOwn, others, headWritten, rfl, known⟩ := written.start
  have positive := headWritten.length_pos
  rw [List.length_append]
  omega

/-- What is read of an encoding whatever follows it, with enough fuel. -/
def ReadsBack (fuel : Nat) : Prop :=
  (∀ {item own}, Item.Written item own → 2 * own.length + 1 ≤ fuel → ∀ rest,
    readItem fuel (own ++ rest) = some (item, rest)) ∧
  ∀ {items own}, WrittenItems items own → 2 * own.length + 2 ≤ fuel → ∀ rest,
    readItems fuel (some items.length) (own ++ rest) = some (items, rest) ∧
      readItems fuel none (own ++ stopCode :: rest) = some (items, rest)

theorem WrittenItems.append {items others : List Item} {own later : Bytes}
    (first : WrittenItems items own) (second : WrittenItems others later) :
    WrittenItems (items ++ others) (own ++ later) := by
  induction items generalizing own with
  | nil =>
    cases first
    exact second
  | cons item items ih =>
    cases first with
    | cons written rest =>
      rw [List.append_assoc]
      exact .cons written (ih rest)

theorem mapM_text?_ofText (pieces : List String) :
    (pieces.map Bytes.ofText).mapM Bytes.text? = some pieces := by
  induction pieces with
  | nil => rfl
  | cons piece rest ih => simp [ih]

theorem readItem_of_written {fuel : Nat} (back : ReadsBack fuel) {item : Item} {own : Bytes}
    (written : item.Written own) (enough : own.length * 2 ≤ fuel) (rest : Bytes) :
    readItem (fuel + 1) (own ++ rest) = some (item, rest) := by
  rw [readItem.eq_def]
  cases written with
  | natural head | negative head => simp only [readHead_of_written head]
  | bytes head =>
    simp only [List.append_assoc, readHead_of_written head]
    exact congrArg (Option.map _) (readContent_append _ rest)
  | @openBytes _ _ _ own head pieces =>
    rw [List.length_append] at enough
    have inner := readPieces_of_written (by decide) pieces (show own.length ≤ fuel by omega) rest
    simp only [List.append_assoc, readHead_of_written head]
    exact congrArg (Option.map _) inner
  | @text info content own head =>
    simp only [List.append_assoc, readHead_of_written head]
    show (readContent _ _).bind _ = _
    simp only [readContent_append, Option.bind_some, Bytes.text?_ofText, Option.map_some]
  | @openText _ _ _ own head pieces =>
    rw [List.length_append] at enough
    have inner := readPieces_of_written (by decide) pieces (show own.length ≤ fuel by omega) rest
    simp only [List.append_assoc, readHead_of_written head]
    show (readPieces _ _ _ _).bind _ = _
    simp only [inner, Option.bind_some, mapM_text?_ofText, Option.map_some]
  | array head items =>
    have := head.length_pos
    rw [List.length_append] at enough
    simp only [List.append_assoc, readHead_of_written head]
    exact congrArg (Option.map _) (back.2 items (by omega) rest).1
  | openArray head items =>
    have := head.length_pos
    simp only [List.length_append] at enough
    simp only [List.append_assoc, readHead_of_written head]
    exact congrArg (Option.map _) (back.2 items (by omega) rest).2
  | @map info entries headOwn own head items =>
    have := head.length_pos
    rw [List.length_append] at enough
    have inner := (back.2 items (by omega) rest).1
    simp only [List.append_assoc, readHead_of_written head]
    show (readItems fuel (some (2 * entries.length)) _).bind _ = _
    rw [← length_unpaired, inner, Option.bind_some, pairUp_unpaired]
    rfl
  | openMap head items =>
    have := head.length_pos
    simp only [List.length_append] at enough
    have inner := (back.2 items (by omega) rest).2
    simp only [List.append_assoc, readHead_of_written head]
    show (readItems fuel none _).bind _ = _
    rw [List.singleton_append, inner, Option.bind_some, pairUp_unpaired]
    rfl
  | tag head content =>
    have := head.length_pos
    rw [List.length_append] at enough
    simp only [List.append_assoc, readHead_of_written head]
    exact congrArg (Option.map _) (back.1 content (by omega) rest)
  | simple head known =>
    simp only [readHead_of_written head]
    exact congrArg (fun item => some (item, rest)) known

theorem readItems_of_written {fuel : Nat} (back : ReadsBack fuel) {items : List Item} {own : Bytes}
    (written : WrittenItems items own) (enough : own.length * 2 + 1 ≤ fuel) (rest : Bytes) :
    readItems (fuel + 1) (some items.length) (own ++ rest) = some (items, rest) ∧
      readItems (fuel + 1) none (own ++ stopCode :: rest) = some (items, rest) := by
  cases written with
  | nil => exact ⟨by rw [List.length_nil, readItems.eq_def]; rfl, by rw [readItems.eq_def]; rfl⟩
  | cons first later =>
    have := first.length_pos
    rw [List.length_append] at enough
    constructor
    · rw [List.length_cons, readItems.eq_def, List.append_assoc]
      simp only [back.1 first (by omega), (back.2 later (by omega) rest).1, Option.map_some]
    · rw [readItems.eq_def, List.append_assoc]
      simp only [if_neg (first.head?_ne_stop _), back.1 first (by omega),
        (back.2 later (by omega) rest).2, Option.map_some]

theorem readsBack (fuel : Nat) : ReadsBack fuel := by
  induction fuel with
  | zero => exact ⟨fun _ enough => by omega, fun _ enough => by omega⟩
  | succ fuel ih =>
    exact ⟨fun written enough => readItem_of_written ih written (by omega),
      fun written enough => readItems_of_written ih written (by omega)⟩

/-- Whatever is read is an encoding of what it is read as. -/
def ReadsOnlyWritten (fuel : Nat) : Prop :=
  (∀ {text rest item}, readItem fuel text = some (item, rest) →
    ∃ own, Item.Written item own ∧ text = own ++ rest) ∧
  (∀ {count text rest items}, readItems fuel (some count) text = some (items, rest) →
    ∃ own, WrittenItems items own ∧ items.length = count ∧ text = own ++ rest) ∧
  ∀ {text rest items}, readItems fuel none text = some (items, rest) →
    ∃ own, WrittenItems items own ∧ text = own ++ stopCode :: rest

theorem eq_ofText_of_mapM_text? {pieces : List Bytes} {texts : List String}
    (decoded : pieces.mapM Bytes.text? = some texts) : pieces = texts.map Bytes.ofText := by
  induction pieces generalizing texts with
  | nil =>
    cases decoded
    rfl
  | cons piece rest ih =>
    rw [List.mapM_cons] at decoded
    obtain ⟨text, own, others⟩ := Option.bind_eq_some_iff.1 decoded
    obtain ⟨later, tail, joined⟩ := Option.bind_eq_some_iff.1 others
    cases joined
    rw [List.map_cons, Bytes.text?_eq_some_iff.1 own, ih tail]

theorem written_of_readItem {fuel : Nat} (only : ReadsOnlyWritten fuel) {text rest : Bytes}
    {item : Item} (read : readItem (fuel + 1) text = some (item, rest)) :
    ∃ own, item.Written own ∧ text = own ++ rest := by
  obtain ⟨itemOnly, countedOnly, openOnly⟩ := only
  rw [readItem.eq_def] at read
  cases headRead : readHead text with
  | none => simp [headRead] at read
  | some found =>
    obtain ⟨⟨major, info, argument⟩, following⟩ := found
    obtain ⟨headOwn, head, rfl⟩ := written_of_readHead headRead
    simp only [headRead] at read
    split at read
    · cases read
      exact ⟨headOwn, .natural head, rfl⟩
    · cases read
      exact ⟨headOwn, .negative head, rfl⟩
    · obtain ⟨⟨content, after⟩, cut, same⟩ := Option.map_eq_some_iff.1 read
      obtain ⟨rfl, rfl⟩ := readContent_eq_some_iff.1 cut
      cases same
      exact ⟨headOwn ++ content, .bytes head, (List.append_assoc _ _ _).symm⟩
    · obtain ⟨⟨pieces, after⟩, inner, same⟩ := Option.map_eq_some_iff.1 read
      obtain ⟨own, written, rfl⟩ := written_of_readPieces inner
      cases same
      exact ⟨headOwn ++ own, .openBytes head written, (List.append_assoc _ _ _).symm⟩
    · obtain ⟨⟨content, after⟩, cut, decoded⟩ := Option.bind_eq_some_iff.1 read
      obtain ⟨text, spelled, same⟩ := Option.map_eq_some_iff.1 decoded
      obtain ⟨rfl, rfl⟩ := readContent_eq_some_iff.1 cut
      cases same
      obtain rfl : Bytes.ofText text = content := Bytes.text?_eq_some_iff.1 spelled
      exact ⟨headOwn ++ Bytes.ofText text, .text head, (List.append_assoc _ _ _).symm⟩
    · obtain ⟨⟨pieces, after⟩, inner, decoded⟩ := Option.bind_eq_some_iff.1 read
      obtain ⟨texts, spelled, same⟩ := Option.map_eq_some_iff.1 decoded
      obtain ⟨own, written, rfl⟩ := written_of_readPieces inner
      obtain rfl : pieces = texts.map Bytes.ofText := eq_ofText_of_mapM_text? spelled
      cases same
      exact ⟨headOwn ++ own, .openText head written, (List.append_assoc _ _ _).symm⟩
    · obtain ⟨⟨items, after⟩, inner, same⟩ := Option.map_eq_some_iff.1 read
      cases same
      cases argument with
      | some count =>
        obtain ⟨own, written, rfl, rfl⟩ := countedOnly inner
        exact ⟨headOwn ++ own, .array head written, (List.append_assoc _ _ _).symm⟩
      | none =>
        obtain ⟨own, written, rfl⟩ := openOnly inner
        exact ⟨headOwn ++ own ++ [stopCode], .openArray head written, by simp⟩
    · obtain ⟨⟨items, after⟩, inner, paired⟩ := Option.bind_eq_some_iff.1 read
      obtain ⟨entries, pairs, same⟩ := Option.map_eq_some_iff.1 paired
      obtain rfl := pairUp_eq_some_iff.1 pairs
      cases same
      cases argument with
      | some count =>
        obtain ⟨own, written, length, rfl⟩ := countedOnly inner
        obtain rfl : entries.length = count :=
          Nat.eq_of_mul_eq_mul_left Nat.two_pos ((length_unpaired entries).symm.trans length)
        exact ⟨headOwn ++ own, .map head written, (List.append_assoc _ _ _).symm⟩
      | none =>
        obtain ⟨own, written, rfl⟩ := openOnly inner
        exact ⟨headOwn ++ own ++ [stopCode], .openMap head written, by simp⟩
    · obtain ⟨⟨content, after⟩, inner, same⟩ := Option.map_eq_some_iff.1 read
      obtain ⟨own, written, rfl⟩ := itemOnly inner
      cases same
      exact ⟨headOwn ++ own, .tag head written, (List.append_assoc _ _ _).symm⟩
    · cases read
      exact ⟨headOwn, .simple head rfl, rfl⟩
    · cases read

theorem written_of_readItems {fuel : Nat} (only : ReadsOnlyWritten fuel) {count : Nat}
    {text rest : Bytes} {items : List Item}
    (read : readItems (fuel + 1) (some count) text = some (items, rest)) :
    ∃ own, WrittenItems items own ∧ items.length = count ∧ text = own ++ rest := by
  obtain ⟨itemOnly, countedOnly, _⟩ := only
  rw [readItems.eq_def] at read
  cases count with
  | zero =>
    cases read
    exact ⟨[], .nil, rfl, rfl⟩
  | succ count =>
    cases first : readItem fuel text with
    | none => simp [first] at read
    | some found =>
      obtain ⟨item, following⟩ := found
      simp only [first] at read
      obtain ⟨⟨others, after⟩, inner, same⟩ := Option.map_eq_some_iff.1 read
      obtain ⟨own, written, rfl⟩ := itemOnly first
      obtain ⟨later, laterWritten, rfl, rfl⟩ := countedOnly inner
      cases same
      exact ⟨own ++ later, .cons written laterWritten, rfl, (List.append_assoc _ _ _).symm⟩

theorem written_of_readOpenItems {fuel : Nat} (only : ReadsOnlyWritten fuel) {text rest : Bytes}
    {items : List Item} (read : readItems (fuel + 1) none text = some (items, rest)) :
    ∃ own, WrittenItems items own ∧ text = own ++ stopCode :: rest := by
  obtain ⟨itemOnly, _, openOnly⟩ := only
  rw [readItems.eq_def] at read
  dsimp only at read
  split at read
  · next stop =>
    obtain ⟨others, rfl⟩ := List.head?_eq_some_iff.1 stop
    cases read
    exact ⟨[], .nil, rfl⟩
  · cases first : readItem fuel text with
    | none => simp [first] at read
    | some found =>
      obtain ⟨item, following⟩ := found
      simp only [first] at read
      obtain ⟨⟨others, after⟩, inner, same⟩ := Option.map_eq_some_iff.1 read
      obtain ⟨own, written, rfl⟩ := itemOnly first
      obtain ⟨later, laterWritten, rfl⟩ := openOnly inner
      cases same
      exact ⟨own ++ later, .cons written laterWritten, (List.append_assoc _ _ _).symm⟩

theorem readsOnlyWritten (fuel : Nat) : ReadsOnlyWritten fuel := by
  -- The readers of items and of lists call each other, so that all statements go through together.
  induction fuel with
  | zero =>
    refine ⟨fun read => ?_, fun read => ?_, fun read => ?_⟩
    · rw [readItem.eq_def] at read
      cases read
    · rw [readItems.eq_def] at read
      cases read
    · rw [readItems.eq_def] at read
      cases read
  | succ fuel ih =>
    exact ⟨written_of_readItem ih, written_of_readItems ih, written_of_readOpenItems ih⟩

/-- With enough fuel, an item is read exactly when the text starts with an encoding of it. -/
theorem readItem_eq_some_iff {fuel : Nat} {text rest : Bytes} {item : Item}
    (enough : 2 * text.length + 1 ≤ fuel) :
    readItem fuel text = some (item, rest) ↔ ∃ own, item.Written own ∧ text = own ++ rest := by
  constructor
  · exact (readsOnlyWritten _).1
  · rintro ⟨own, written, rfl⟩
    rw [List.length_append] at enough
    exact (readsBack _).1 written (by omega) rest

theorem firstItem?_eq_some_iff {text rest : Bytes} {item : Item} :
    firstItem? text = some (item, rest) ↔ ∃ own, item.Written own ∧ text = own ++ rest :=
  readItem_eq_some_iff (by omega)

theorem readItem_eq_firstItem? {fuel : Nat} {text : Bytes} (enough : 2 * text.length + 1 ≤ fuel) :
    readItem fuel text = firstItem? text := by
  apply Option.ext
  rintro ⟨item, rest⟩
  rw [readItem_eq_some_iff enough, firstItem?_eq_some_iff]

theorem onlyItem?_eq_some_iff {text : Bytes} {item : Item} :
    onlyItem? text = some item ↔ item.Written text := by
  constructor
  · intro read
    unfold onlyItem? at read
    split at read
    · next found =>
      cases read
      obtain ⟨own, written, rfl⟩ := firstItem?_eq_some_iff.1 found
      rwa [List.append_nil]
    · cases read
  · intro written
    have found := firstItem?_eq_some_iff.2 ⟨text, written, (List.append_nil text).symm⟩
    simp only [onlyItem?, found]

theorem wholeItem?_eq_some_iff {text : Bytes} {item : Item} :
    wholeItem? text = some item ↔ item.Written text ∧ item.fits Item.nestingLimit := by
  rw [← onlyItem?_eq_some_iff]
  unfold wholeItem?
  cases onlyItem? text with
  | none => simp
  | some found =>
    simp only [Option.ite_none_right_eq_some, Option.some.injEq]
    constructor
    · rintro ⟨fits, rfl⟩
      exact ⟨rfl, fits⟩
    · rintro ⟨rfl, fits⟩
      exact ⟨fits, rfl⟩

end EnclaveProvenance.Cbor
