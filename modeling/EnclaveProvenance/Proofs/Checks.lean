import Mathlib.Data.List.Forall2

/-!
Chains of checks: what it takes that steps, each of which may refuse, all end well, which failures
a chain can end with, and which member of a list is the first to have a property.
-/

namespace EnclaveProvenance.Checks

variable {ε φ α β : Type}

theorem bind_eq_ok_iff {result : Except ε α} {next : α → Except ε β} {value : β} :
    (result >>= next) = .ok value ↔
      ∃ intermediate, result = .ok intermediate ∧ next intermediate = .ok value := by
  cases result with
  | error failure => simp [bind, Except.bind]
  | ok intermediate => simp [bind, Except.bind]

theorem ok_bind (value : α) (next : α → Except ε β) : (Except.ok value >>= next) = next value :=
  rfl

theorem mapError_eq_ok_iff {change : ε → φ} {result : Except ε α} {value : α} :
    result.mapError change = .ok value ↔ result = .ok value := by
  cases result with
  | error failure =>
    constructor
    · intro impossible
      cases impossible
    · intro impossible
      cases impossible
  | ok given =>
    constructor
    · intro same
      cases same
      rfl
    · intro same
      cases same
      rfl

theorem map_eq_ok_iff {change : α → β} {result : Except ε α} {value : β} :
    result.map change = .ok value ↔ ∃ given, result = .ok given ∧ change given = value := by
  cases result <;> simp [Except.map]

theorem pure_eq_ok_iff {given value : α} : (pure given : Except ε α) = .ok value ↔ given = value := by
  simp [pure, Except.pure]

theorem eq_ok_of_toBool {result : Except ε Unit} (passed : result.toBool = true) :
    result = .ok () := by
  cases result with
  | error failure => cases passed
  | ok done => rfl

theorem throw_eq_ok_iff {failure : ε} {value : α} :
    (throw failure : Except ε α) = .ok value ↔ False := by
  simp [throw, throwThe, MonadExceptOf.throw]

theorem refuse_eq_ok_iff {condition : Prop} [Decidable condition] {failure : ε} {value : β}
    {next : PUnit → Except ε β} :
    (if condition then throw failure >>= next else next ⟨⟩) = .ok value ↔
      ¬condition ∧ next ⟨⟩ = .ok value := by
  by_cases refused : condition
  · simp [refused, throw, throwThe, MonadExceptOf.throw, bind, Except.bind]
  · simp [refused]

theorem refuseLast_eq_ok_iff {condition : Prop} [Decidable condition] {failure : ε}
    {last : Except ε α} {value : α} :
    (if condition then throw failure else last) = .ok value ↔ ¬condition ∧ last = .ok value := by
  by_cases refused : condition
  · simp [refused, throw, throwThe, MonadExceptOf.throw]
  · simp [refused]

theorem mapM_eq_ok_iff {read : α → Except ε β} {members : List α} {values : List β} :
    members.mapM read = .ok values ↔ members.map read = values.map .ok := by
  induction members generalizing values with
  | nil => cases values <;> simp [pure, Except.pure]
  | cons member rest ih =>
    rw [List.mapM_cons, bind_eq_ok_iff]
    simp only [bind_eq_ok_iff, pure_eq_ok_iff, ih, List.map_cons]
    cases values with
    | nil => simp
    | cons value later => simp

theorem mapM_eq_some_iff {read : α → Option β} {members : List α} {values : List β} :
    members.mapM read = some values ↔
      List.Forall₂ (fun member value => read member = some value) members values := by
  induction members generalizing values with
  | nil => simp [eq_comm]
  | cons member rest ih =>
    rw [List.mapM_cons, List.forall₂_cons_left_iff]
    simp only [Option.bind_eq_bind, Option.bind_eq_some_iff, Option.pure_def, Option.some.injEq, ih]
    constructor
    · rintro ⟨value, first, later, others, rfl⟩
      exact ⟨value, later, first, others, rfl⟩
    · rintro ⟨value, later, first, others, rfl⟩
      exact ⟨value, first, later, others, rfl⟩

theorem isSome_of_mapM {read : α → Option β} {members : List α} {values : List β}
    (each : members.mapM read = some values) : ∀ member ∈ members, (read member).isSome = true := by
  rw [mapM_eq_some_iff] at each
  induction each with
  | nil => nofun
  | cons first _ ih => exact List.forall_mem_cons.2 ⟨by rw [first]; rfl, ih⟩

theorem mapM_congr {one other : α → Option β} {members : List α}
    (same : ∀ member ∈ members, one member = other member) :
    members.mapM one = members.mapM other := by
  induction members with
  | nil => rfl
  | cons member rest ih =>
    rw [List.mapM_cons, List.mapM_cons, same member (by simp),
      ih fun later belongs => same later (by simp [belongs])]

/-- A result that, if it is a failure, is one of a class. -/
def FailsWithin (allowed : ε → Prop) (result : Except ε α) : Prop :=
  ∀ failure, result = .error failure → allowed failure

section FailsWithin

variable {allowed wider : ε → Prop}

theorem failsWithin_ok {value : α} : FailsWithin allowed (.ok value : Except ε α) := by
  intro failure impossible
  cases impossible

theorem failsWithin_error {failure : ε} (belongs : allowed failure) :
    FailsWithin allowed (.error failure : Except ε α) := by
  rintro _ ⟨⟩
  exact belongs

theorem FailsWithin.ne_error {failure : ε} {result : Except ε α}
    (within : FailsWithin (· ≠ failure) result) : result ≠ .error failure :=
  fun failed => within failure failed rfl

theorem FailsWithin.mono {result : Except ε α} (within : FailsWithin allowed result)
    (weaker : ∀ failure, allowed failure → wider failure) : FailsWithin wider result :=
  fun failure failed => weaker failure (within failure failed)

theorem FailsWithin.split {first : Except ε α} {next : α → Except ε β} {failure : ε}
    (within : FailsWithin allowed first) (failed : (first >>= next) = .error failure) :
    allowed failure ∨ ∃ value, first = .ok value ∧ next value = .error failure := by
  cases first with
  | error own =>
    cases failed
    exact .inl (within failure rfl)
  | ok value => exact .inr ⟨value, rfl, failed⟩

theorem FailsWithin.bind {first : Except ε α} {next : α → Except ε β}
    (within : FailsWithin allowed first) (later : ∀ value, FailsWithin allowed (next value)) :
    FailsWithin allowed (first >>= next) := by
  intro failure failed
  rcases within.split failed with early | ⟨value, _, late⟩
  · exact early
  · exact later value failure late

theorem failsWithin_mapError {allowed : φ → Prop} {change : ε → φ} {result : Except ε α}
    (belongs : ∀ failure, allowed (change failure)) :
    FailsWithin allowed (result.mapError change) := by
  cases result with
  | error failure => exact failsWithin_error (belongs failure)
  | ok value => exact failsWithin_ok

theorem failsWithin_refuse {condition : Prop} [Decidable condition] {failure : ε}
    {next : PUnit → Except ε β} (belongs : allowed failure) (later : FailsWithin allowed (next ⟨⟩)) :
    FailsWithin allowed (if condition then throw failure >>= next else next ⟨⟩) := by
  split
  · exact failsWithin_error belongs
  · exact later

end FailsWithin

structure FirstOf (holds : α → Prop) (members : List α) (found : α) : Prop where
  found_holds : holds found
  position : ∃ before after, members = before ++ found :: after ∧ ∀ earlier ∈ before, ¬holds earlier

theorem FirstOf.mem {holds : α → Prop} {members : List α} {found : α}
    (first : FirstOf holds members found) : found ∈ members := by
  obtain ⟨before, after, split, _⟩ := first.position
  simp [split]

theorem FirstOf.head {holds : α → Prop} {found : α} {rest : List α} (now : holds found) :
    FirstOf holds (found :: rest) found :=
  ⟨now, [], rest, rfl, by simp⟩

theorem firstOf_cons_iff {holds : α → Prop} {member found : α} {rest : List α}
    (passed : ¬holds member) : FirstOf holds (member :: rest) found ↔ FirstOf holds rest found := by
  constructor
  · rintro ⟨now, before, after, split, earlier⟩
    cases before with
    | nil =>
      rw [List.nil_append, List.cons.injEq] at split
      exact absurd (split.1 ▸ now) passed
    | cons first before =>
      rw [List.cons_append, List.cons.injEq] at split
      exact ⟨now, before, after, split.2, fun other belongs => earlier other (by simp [belongs])⟩
  · rintro ⟨now, before, after, split, earlier⟩
    refine ⟨now, member :: before, after, by simp [split], ?_⟩
    intro other belongs
    rcases List.mem_cons.1 belongs with same | inBefore
    · exact same ▸ passed
    · exact earlier other inBefore

theorem firstOf_cons_of_holds {holds : α → Prop} {member found : α} {rest : List α}
    (now : holds member) : FirstOf holds (member :: rest) found ↔ found = member := by
  constructor
  · rintro ⟨_, before, after, split, earlier⟩
    cases before with
    | nil => exact (List.cons.inj split).1.symm
    | cons first before =>
      rw [List.cons_append, List.cons.injEq] at split
      exact absurd (split.1 ▸ now) (earlier first (by simp))
  · rintro rfl
    exact .head now

theorem not_firstOf_nil {holds : α → Prop} {found : α} : ¬FirstOf holds [] found :=
  fun first => by simpa using first.mem

theorem exists_firstOf_iff {holds : α → Prop} {members : List α} :
    (∃ found, FirstOf holds members found) ↔ ∃ member ∈ members, holds member := by
  induction members with
  | nil => simp [not_firstOf_nil]
  | cons member rest ih =>
    by_cases now : holds member
    · exact ⟨fun _ => ⟨member, by simp, now⟩, fun _ => ⟨member, .head now⟩⟩
    · simp [firstOf_cons_iff now, ih, now]

theorem find?_eq_some_iff_firstOf {test : α → Bool} {members : List α} {found : α} :
    members.find? test = some found ↔ FirstOf (test · = true) members found := by
  rw [List.find?_eq_some_iff_append]
  constructor
  · rintro ⟨now, before, after, split, passed⟩
    exact ⟨now, before, after, split, by simpa using passed⟩
  · rintro ⟨now, before, after, split, passed⟩
    exact ⟨now, before, after, split, by simpa using passed⟩

theorem FirstOf.insert {holds : α → Prop} {before after : List α} {added found : α}
    (first : FirstOf holds (before ++ after) found) (fails : ¬holds added) :
    FirstOf holds (before ++ added :: after) found := by
  induction before with
  | nil => exact (firstOf_cons_iff fails).2 first
  | cons member rest ih =>
    rw [List.cons_append] at first ⊢
    by_cases now : holds member
    · exact (firstOf_cons_of_holds now).2 ((firstOf_cons_of_holds now).1 first)
    · exact (firstOf_cons_iff now).2 (ih ((firstOf_cons_iff now).1 first))

theorem FirstOf.append {holds : α → Prop} {members : List α} {found : α}
    (first : FirstOf holds members found) (more : List α) : FirstOf holds (members ++ more) found := by
  obtain ⟨before, after, rfl, earlier⟩ := first.position
  exact ⟨first.found_holds, before, after ++ more, by simp, earlier⟩

end EnclaveProvenance.Checks
