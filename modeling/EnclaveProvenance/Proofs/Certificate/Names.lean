import EnclaveProvenance.Certificate.Name
import EnclaveProvenance.Proofs.Der.Sequences

/-!
Names read and written again. The sets of a name are kept in ascending order, so that a name is
written as it was read exactly if its sets already were in this order.
-/

namespace EnclaveProvenance

open Der (Element Restores Rewrites)
open Checks (mapM_eq_some_iff)

theorem Attribute.restores : Restores ofElement? element := by
  intro received entry found
  simp only [ofElement?, Option.bind_eq_bind, Option.bind_eq_some_iff] at found
  obtain ⟨parts, inside, found⟩ := found
  obtain ⟨rfl, _⟩ := Element.inside?_eq_some_iff.1 inside
  split at found
  · next oid value =>
    simp only [Option.bind_eq_some_iff, Option.pure_def, Option.some.injEq] at found
    obtain ⟨own, ownRead, rfl⟩ := found
    rw [element, Der.ObjectIdentifier.restores ownRead]
  · cases found

namespace Name

theorem precedes_trans {first second third : Bytes} (lower : precedes first second = true)
    (upper : precedes second third = true) : precedes first third = true := by
  induction first generalizing second third with
  | nil =>
    cases second with
    | nil => cases lower
    | cons _ _ =>
      cases third with
      | nil => cases upper
      | cons _ _ => rfl
  | cons head rest ih =>
    cases second with
    | nil => cases lower
    | cons middle middles =>
      cases third with
      | nil => cases upper
      | cons last lasts =>
        simp only [precedes, Bool.or_eq_true, Bool.and_eq_true, decide_eq_true_eq,
          beq_iff_eq] at lower upper ⊢
        rcases lower with below | ⟨rfl, below⟩
        · rcases upper with above | ⟨rfl, _⟩
          · exact .inl (UInt8.lt_trans below above)
          · exact .inl below
        · rcases upper with above | ⟨rfl, above⟩
          · exact .inl above
          · exact .inr ⟨rfl, ih below above⟩

theorem precedes_of_not_precedes {first second : Bytes} (notBelow : ¬precedes first second = true)
    (differ : first ≠ second) : precedes second first = true := by
  induction first generalizing second with
  | nil =>
    cases second with
    | nil => exact absurd rfl differ
    | cons _ _ => exact absurd rfl notBelow
  | cons head rest ih =>
    cases second with
    | nil => rfl
    | cons other others =>
      simp only [precedes, Bool.or_eq_true, Bool.and_eq_true, decide_eq_true_eq, beq_iff_eq,
        not_or, not_and] at notBelow ⊢
      by_cases same : head = other
      · subst same
        have later : rest ≠ others := fun equal => differ (by rw [equal])
        exact .inr ⟨rfl, ih (notBelow.2 rfl) later⟩
      · exact .inl (UInt8.lt_of_le_of_ne (UInt8.not_lt.1 notBelow.1) (Ne.symm same))

def Before (first second : Attribute) : Prop := precedes first.encode second.encode = true

theorem perm_place {entry : Attribute} {rest placed : List Attribute}
    (found : place entry rest = some placed) : placed.Perm (entry :: rest) := by
  induction rest generalizing placed with
  | nil =>
    cases found
    exact .refl _
  | cons head rest ih =>
    unfold place at found
    split at found
    · cases found
      exact .refl _
    · split at found
      · cases found
      · obtain ⟨later, laterPlaced, rfl⟩ := Option.map_eq_some_iff.1 found
        exact ((ih laterPlaced).cons head).trans (.swap entry head rest)

theorem ascending_place {entry : Attribute} {rest placed : List Attribute}
    (ascending : rest.Pairwise Before) (found : place entry rest = some placed) :
    placed.Pairwise Before := by
  induction rest generalizing placed with
  | nil =>
    cases found
    exact List.pairwise_singleton _ _
  | cons head rest ih =>
    obtain ⟨below, restAscending⟩ := List.pairwise_cons.1 ascending
    unfold place at found
    split at found
    · next first =>
      cases found
      refine List.pairwise_cons.2 ⟨fun other member => ?_, ascending⟩
      rcases List.mem_cons.1 member with rfl | inRest
      · exact first
      · exact precedes_trans first (below other inRest)
    · next notFirst =>
      split at found
      · cases found
      · next differ =>
        obtain ⟨later, laterPlaced, rfl⟩ := Option.map_eq_some_iff.1 found
        refine List.pairwise_cons.2 ⟨fun other member => ?_, ih restAscending laterPlaced⟩
        rcases List.mem_cons.1 ((perm_place laterPlaced).mem_iff.1 member) with rfl | inRest
        · exact precedes_of_not_precedes notFirst differ
        · exact below other inRest

theorem perm_sortStep {entries sorted : List Attribute} (found : sortStep entries = some sorted) :
    sorted.Perm entries := by
  induction entries generalizing sorted with
  | nil =>
    cases found
    exact .refl _
  | cons entry rest ih =>
    obtain ⟨later, laterSorted, placed⟩ := Option.bind_eq_some_iff.1 found
    exact (perm_place placed).trans ((ih laterSorted).cons entry)

theorem ascending_sortStep {entries sorted : List Attribute}
    (found : sortStep entries = some sorted) : sorted.Pairwise Before := by
  induction entries generalizing sorted with
  | nil =>
    cases found
    exact .nil
  | cons entry rest ih =>
    obtain ⟨later, laterSorted, placed⟩ := Option.bind_eq_some_iff.1 found
    exact ascending_place (ih laterSorted) placed

theorem sortStep_of_ascending {entries : List Attribute} (ascending : entries.Pairwise Before) :
    sortStep entries = some entries := by
  induction entries with
  | nil => rfl
  | cons entry rest ih =>
    obtain ⟨below, restAscending⟩ := List.pairwise_cons.1 ascending
    rw [sortStep, ih restAscending, Option.bind_some]
    cases rest with
    | nil => rfl
    | cons head rest =>
      have first : precedes entry.encode head.encode = true := below head (by simp)
      rw [place, if_pos first]

def IsAscendingSet (set : Element) : Prop :=
  ∀ members, set.inside? Der.setTag = some members →
    members.Pairwise fun first second => precedes first.encode second.encode = true

def IsAscending (name : Element) : Prop :=
  ∀ sets, name.inside? Der.sequenceTag = some sets → ∀ set ∈ sets, IsAscendingSet set

theorem step?_eq_some_iff {set : Element} {step : RelativeName} :
    step? set = some step ↔ ∃ members attributes, set.inside? Der.setTag = some members ∧
      members.mapM Attribute.ofElement? = some attributes ∧ sortStep attributes = some step := by
  simp only [step?, Option.bind_eq_bind, Option.bind_eq_some_iff]
  constructor
  · rintro ⟨members, inside, attributes, read, sorted⟩
    exact ⟨members, attributes, inside, read, sorted⟩
  · rintro ⟨members, attributes, inside, read, sorted⟩
    exact ⟨members, inside, attributes, read, sorted⟩

theorem inside?_stepElement {set : Element} {step : RelativeName} (found : step? set = some step) :
    (stepElement step).inside? Der.setTag = some (step.map Attribute.element) := by
  obtain ⟨members, attributes, inside, read, sorted⟩ := step?_eq_some_iff.1 found
  refine Element.inside?_eq_some_iff.2 ⟨rfl, fun part member => ?_⟩
  rw [((perm_sortStep sorted).map Attribute.element).mem_iff, Attribute.restores.map_write read]
    at member
  exact (Element.inside?_eq_some_iff.1 inside).2 part member

theorem step_rewrites : Rewrites step? stepElement where
  again := by
    intro set step found
    obtain ⟨members, attributes, inside, read, sorted⟩ := step?_eq_some_iff.1 found
    refine step?_eq_some_iff.2 ⟨_, step, inside?_stepElement found, ?_,
      sortStep_of_ascending (ascending_sortStep sorted)⟩
    have each := mapM_eq_some_iff.1 (Attribute.restores.rewrites.mapM_again read)
    rw [List.forall₂_map_left_iff, List.forall₂_same] at each
    rw [mapM_eq_some_iff, List.forall₂_map_left_iff, List.forall₂_same]
    exact fun entry member => each entry ((perm_sortStep sorted).mem_iff.1 member)
  within := by
    intro set step found
    obtain ⟨members, attributes, inside, read, sorted⟩ := step?_eq_some_iff.1 found
    obtain ⟨rfl, _⟩ := Element.inside?_eq_some_iff.1 inside
    refine ⟨rfl, Nat.le_of_eq ?_⟩
    have perm := (perm_sortStep sorted).map Attribute.element
    rw [Attribute.restores.map_write read] at perm
    exact (perm.flatMap_right Element.encode).length_eq

theorem stepElement_eq_iff {set : Element} {step : RelativeName} (found : step? set = some step) :
    stepElement step = set ↔ IsAscendingSet set := by
  obtain ⟨members, attributes, inside, read, sorted⟩ := step?_eq_some_iff.1 found
  constructor
  · rintro rfl others othersInside
    rw [inside?_stepElement found, Option.some.injEq] at othersInside
    rw [← othersInside, List.pairwise_map]
    exact ascending_sortStep sorted
  · intro ascending
    have restored := Attribute.restores.map_write read
    have inOrder := ascending members inside
    rw [← restored, List.pairwise_map] at inOrder
    rw [sortStep_of_ascending inOrder, Option.some.injEq] at sorted
    rw [(Element.inside?_eq_some_iff.1 inside).1, stepElement, ← sorted, restored]

theorem ofElement?_eq_some_iff {received : Element} {name : Name} :
    ofElement? received = some name ↔
      ((received.inside? Der.sequenceTag).bind fun sets => sets.mapM step?) = some name.steps := by
  simp only [ofElement?, Option.bind_eq_bind, Option.bind_eq_some_iff, Option.pure_def,
    Option.some.injEq]
  constructor
  · rintro ⟨sets, inside, steps, read, rfl⟩
    exact ⟨sets, inside, read⟩
  · rintro ⟨sets, inside, read⟩
    exact ⟨sets, inside, name.steps, read, rfl⟩

theorem rewrites : Rewrites ofElement? element where
  again := fun found =>
    ofElement?_eq_some_iff.2 ((step_rewrites.inside _).again (ofElement?_eq_some_iff.1 found))
  within := fun found => (step_rewrites.inside _).within (ofElement?_eq_some_iff.1 found)

theorem element_eq_iff {received : Element} {name : Name} (found : ofElement? received = some name) :
    name.element = received ↔ IsAscending received := by
  obtain ⟨sets, inside, read⟩ := Option.bind_eq_some_iff.1 (ofElement?_eq_some_iff.1 found)
  rw [element, step_rewrites.written_eq_iff inside read, Der.map_write_eq_iff stepElement_eq_iff read]
  constructor
  · intro all others othersInside
    rw [inside, Option.some.injEq] at othersInside
    exact othersInside ▸ all
  · intro ascending
    exact ascending sets inside

end Name

end EnclaveProvenance
