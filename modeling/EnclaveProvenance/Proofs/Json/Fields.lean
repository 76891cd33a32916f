import EnclaveProvenance.Json.Record
import EnclaveProvenance.Proofs.Checks
import EnclaveProvenance.Proofs.Json.Values

/-!
Records with one declared field: the texts that such a record is read from, and the text of the field's
value in them.
-/

namespace EnclaveProvenance.Json

open Checks (mapM_eq_some_iff)

def Named (members : List Member) (named : List (String × Bytes)) : Prop :=
  List.Forall₂ (fun member entry => StringText entry.1 member.key ∧ entry.2 = member.value)
    members named

theorem mapM_named_iff {members : List Member} {named : List (String × Bytes)} :
    members.mapM (fun member => (string? member.key).map (·, member.value)) = some named ↔
      Named members named := by
  rw [mapM_eq_some_iff]
  constructor
  · intro each
    refine each.imp fun member entry read => ?_
    obtain ⟨name, own, rfl⟩ := Option.map_eq_some_iff.1 read
    exact ⟨string?_eq_some_iff.1 own, rfl⟩
  · intro each
    refine each.imp fun member entry own => ?_
    rw [own.1.read, Option.map_some, ← own.2]

def OnlyEntry (name : String) (value : Bytes) (named : List (String × Bytes)) : Prop :=
  ∃ before after, named = before ++ (name, value) :: after ∧
    ∀ entry ∈ before ++ after, entry.1 ≠ name

theorem onlyEntry_iff_filter {name : String} {value : Bytes} {named : List (String × Bytes)} :
    OnlyEntry name value named ↔
      named.filter (fun entry => [name].contains entry.1) = [(name, value)] := by
  have known (other : String) : [name].contains other = true ↔ other = name := by simp
  simp only [OnlyEntry, List.filter_eq_cons_iff, List.filter_eq_nil_iff, known, true_and,
    List.forall_mem_append, ne_eq]

theorem required_ofMembers?_iff {α : Type} {name : String} {members : List Member}
    {decode : Bytes → Option α} {result : α} :
    ((Fields.ofMembers? [name] false members).bind fun fields => fields.required name decode) =
      some result ↔ ∃ named value, Named members named ∧ OnlyEntry name value named ∧
        decode value = some result := by
  simp only [Fields.ofMembers?, Option.bind_eq_bind, Option.bind_eq_some_iff, mapM_named_iff,
    onlyEntry_iff_filter, Option.ite_none_right_eq_some, Option.some.injEq]
  constructor
  · rintro ⟨_, ⟨named, each, ⟨distinct, -⟩, rfl⟩, given⟩
    obtain ⟨value, found, decoded⟩ := Option.bind_eq_some_iff.1 given
    refine ⟨named, value, each, ?_, decoded⟩
    obtain ⟨⟨other, own⟩, present, rfl⟩ := Option.map_eq_some_iff.1 found
    have sameName : ∀ entry ∈ named.filter fun entry => [name].contains entry.1, entry.1 = name := by
      intro entry member
      simpa using (List.mem_filter.1 member).2
    generalize named.filter (fun entry => [name].contains entry.1) = declared at *
    match declared with
    | [] => cases present
    | [entry] =>
      obtain rfl := List.mem_singleton.1 (List.mem_of_find?_eq_some present)
      rw [← sameName (other, own) List.mem_cons_self]
    | first :: second :: rest =>
      have same : first.1 = second.1 :=
        (sameName first (by simp)).trans (sameName second (by simp)).symm
      simp [same] at distinct
  · rintro ⟨named, value, each, only, decoded⟩
    refine ⟨⟨[(name, value)], false⟩, ⟨named, each, ?_, by rw [only]⟩, ?_⟩
    · rw [only]
      exact ⟨by simp, nofun⟩
    · simp [Fields.required, Fields.find?, decoded]

theorem required_ofElements?_iff {α : Type} {name : String} {slices : List Bytes}
    {decode : Bytes → Option α} {result : α} :
    ((Fields.ofElements? [name] slices).bind fun fields => fields.required name decode) =
      some result ↔ ∃ value, slices = [value] ∧ decode value = some result := by
  match slices with
  | [] => simp [Fields.ofElements?, Fields.required, Fields.find?]
  | [value] => simp [Fields.ofElements?, Fields.required, Fields.find?]
  | first :: second :: rest => simp [Fields.ofElements?]

/-- The texts of a record with one field: an object in which one member has the name of the field, or
a list of the field's value alone. -/
inductive FieldText (name : String) (value : Bytes) : Bytes → Prop
  | object {members : List Member} {named : List (String × Bytes)} {text : Bytes} :
      BracedText members text → Named members named → OnlyEntry name value named →
      (∀ entry ∈ named, ValueText entry.2) → FieldText name value text
  | list {text : Bytes} : BracketedText [value] text → ValueText value → FieldText name value text

theorem Named.values {members : List Member} {named : List (String × Bytes)}
    (each : Named members named) :
    (∀ entry ∈ named, ValueText entry.2) ↔ ∀ member ∈ members, ValueText member.value := by
  induction each with
  | nil => simp
  | cons own _ ih => rw [List.forall_mem_cons, List.forall_mem_cons, ih, own.2]

theorem Named.member_of {members : List Member} {named : List (String × Bytes)}
    (each : Named members named) {entry : String × Bytes} (given : entry ∈ named) :
    ∃ member ∈ members, entry.2 = member.value := by
  induction each with
  | nil => cases given
  | cons own _ ih =>
    rcases List.mem_cons.1 given with rfl | later
    · exact ⟨_, List.mem_cons_self, own.2⟩
    · obtain ⟨member, belongs, same⟩ := ih later
      exact ⟨member, List.mem_cons_of_mem _ belongs, same⟩

theorem FieldText.valueText {name : String} {value text : Bytes} (field : FieldText name value text) :
    ValueText value ∧ ValueText text := by
  cases field with
  | object braced each only values =>
    obtain ⟨before, after, rfl, -⟩ := only
    exact ⟨values (name, value) (by simp), .object braced (each.values.1 values)⟩
  | list bracketed own => exact ⟨own, .list bracketed (by simpa using own)⟩

theorem FieldText.within {name : String} {value text : Bytes} (field : FieldText name value text) :
    value <:+: text := by
  cases field with
  | object braced each only _ =>
    obtain ⟨before, after, rfl, -⟩ := only
    have given : (name, value) ∈ before ++ (name, value) :: after := by simp
    obtain ⟨member, belongs, same⟩ := each.member_of given
    obtain ⟨own, entry, inside⟩ := braced.within member belongs
    have whole := entry.within.trans inside
    rwa [← same] at whole
  | list bracketed =>
    obtain ⟨own, rfl, inside⟩ := bracketed.within value (by simp)
    exact inside

/-- A record with one field is read from such a text, and from no other value. -/
theorem record?_field_iff {α : Type} {name : String} {text : Bytes} {decode : Bytes → Option α}
    {result : α} (valueText : ValueText text) :
    record? [name] (fun fields => fields.required name decode) text = some result ↔
      ∃ value, FieldText name value text ∧ decode value = some result := by
  rw [record?, Fields.read]
  constructor
  · intro read
    split at read
    · next members cut =>
      obtain ⟨braced, values⟩ := valueText.members?_eq_some_iff.1 cut
      obtain ⟨named, value, each, only, decoded⟩ := required_ofMembers?_iff.1 read
      exact ⟨value, .object braced each only (each.values.2 values), decoded⟩
    · rw [Option.bind_assoc, Option.bind_eq_some_iff] at read
      obtain ⟨slices, cut, read⟩ := read
      obtain ⟨bracketed, values⟩ := valueText.elements?_eq_some_iff.1 cut
      obtain ⟨value, rfl, decoded⟩ := required_ofElements?_iff.1 read
      exact ⟨value, .list bracketed (values value (by simp)), decoded⟩
  · rintro ⟨value, field, decoded⟩
    cases field with
    | object braced each only values =>
      rw [valueText.members?_eq_some_iff.2 ⟨braced, each.values.1 values⟩]
      exact required_ofMembers?_iff.2 ⟨_, value, each, only, decoded⟩
    | list bracketed own =>
      obtain ⟨rest, start⟩ := bracketed.start
      rw [members?_other ⟨_, rest, start, by decide⟩,
        valueText.elements?_eq_some_iff.2 ⟨bracketed, by simpa using own⟩]
      exact required_ofElements?_iff.2 ⟨value, rfl, decoded⟩

end EnclaveProvenance.Json
