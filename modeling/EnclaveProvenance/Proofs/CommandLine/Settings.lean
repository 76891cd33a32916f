import EnclaveProvenance.Proofs.CommandLine.Words

/-!
Which options the settings of a command line choose: no option but the registers is given twice, and
a path is not empty. Words are understood exactly when they spell settings that choose options.
-/

namespace EnclaveProvenance.CommandLine

def valuesOf (name : String) : List Setting → List String
  | [] => []
  | .json :: later => valuesOf name later
  | .option own value :: later =>
    if own = name then value :: valuesOf name later else valuesOf name later

theorem valuesOf_append (name : String) (settings later : List Setting) :
    valuesOf name (settings ++ later) = valuesOf name settings ++ valuesOf name later := by
  induction settings with
  | nil => rfl
  | cons setting rest ih =>
    cases setting with
    | json => exact ih
    | option own value =>
      rw [List.cons_append, valuesOf, valuesOf, ih]
      split <;> rfl

def AreNamed (texts : List String) (registers : Option (List RegisterIndex)) : Prop :=
  ∃ lists, texts.map Given.registers? = lists.map some ∧
    registers = if lists = [] then none else some lists.flatten

theorem AreNamed.append {texts : List String} {text : String}
    {registers : Option (List RegisterIndex)} {list : List RegisterIndex}
    (named : AreNamed texts registers) (read : Given.registers? text = some list) :
    AreNamed (texts ++ [text]) (some (registers.getD [] ++ list)) := by
  obtain ⟨lists, all, rfl⟩ := named
  refine ⟨lists ++ [list], by simp [all, read], ?_⟩
  by_cases first : lists = [] <;> simp [first]

theorem AreNamed.unique {texts : List String} {one other : Option (List RegisterIndex)}
    (first : AreNamed texts one) (second : AreNamed texts other) : one = other := by
  obtain ⟨lists, all, rfl⟩ := first
  obtain ⟨others, allToo, rfl⟩ := second
  have same : lists = others :=
    (List.map_inj_right fun _ _ => Option.some.inj).1 (all.symm.trans allToo)
  rw [same]

def singleNames : List String :=
  ["repo", "digest", "domain", "attestation-file", "bundle-file", "config", "trusted-root"]

def pathNames : List String := ["attestation-file", "bundle-file", "config", "trusted-root"]

theorem single_or_registers {name : String} (known : name ∈ Given.valued) :
    name ∈ singleNames ∨ name = "registers" := by
  simpa [singleNames, Given.valued, or_assoc] using known

namespace Given

def value? (given : Given) : String → Option String
  | "repo" => given.repository
  | "digest" => given.digest
  | "domain" => given.domain
  | "attestation-file" => given.attestationFile
  | "bundle-file" => given.bundleFile
  | "config" => given.configFile
  | "trusted-root" => given.trustedRoot
  | _ => none

structure Sets (given : Given) (name value : String) (next : Given) : Prop where
  absent : given.value? name = none
  named : name ∈ pathNames → value ≠ ""
  values : ∀ other ∈ singleNames,
    next.value? other = if other = name then some value else given.value? other
  registers : next.registers = given.registers
  json : next.json = given.json

theorem bind_once {before : Option String} {value : String} {make : Option String → Given}
    {next : Given} (taken : (do return make (← once before value)) = some next) :
    before = none ∧ make (some value) = next := by
  cases before with
  | some earlier => cases taken
  | none => exact ⟨rfl, Option.some.inj taken⟩

theorem bind_oncePath {before : Option String} {path : String} {make : Option String → Given}
    {next : Given} (taken : (do return make (← oncePath before path)) = some next) :
    path ≠ "" ∧ before = none ∧ make (some path) = next := by
  unfold oncePath at taken
  split at taken
  · cases taken
  · next named => exact ⟨named, bind_once taken⟩

theorem sets_of_set? {given next : Given} {name value : String} (single : name ∈ singleNames)
    (taken : given.set? name value = some next) : given.Sets name value next := by
  have notPath (other : name ∉ pathNames) (isPath : name ∈ pathNames) : value ≠ "" :=
    absurd isPath other
  simp only [singleNames, List.mem_cons, List.not_mem_nil, or_false] at single
  rcases single with rfl | rfl | rfl | rfl | rfl | rfl | rfl
  · obtain ⟨absent, rfl⟩ := bind_once taken
    exact ⟨absent, notPath (by decide), by simp [singleNames, value?], rfl, rfl⟩
  · obtain ⟨absent, rfl⟩ := bind_once taken
    exact ⟨absent, notPath (by decide), by simp [singleNames, value?], rfl, rfl⟩
  · obtain ⟨absent, rfl⟩ := bind_once taken
    exact ⟨absent, notPath (by decide), by simp [singleNames, value?], rfl, rfl⟩
  · obtain ⟨named, absent, rfl⟩ := bind_oncePath taken
    exact ⟨absent, fun _ => named, by simp [singleNames, value?], rfl, rfl⟩
  · obtain ⟨named, absent, rfl⟩ := bind_oncePath taken
    exact ⟨absent, fun _ => named, by simp [singleNames, value?], rfl, rfl⟩
  · obtain ⟨named, absent, rfl⟩ := bind_oncePath taken
    exact ⟨absent, fun _ => named, by simp [singleNames, value?], rfl, rfl⟩
  · obtain ⟨named, absent, rfl⟩ := bind_oncePath taken
    exact ⟨absent, fun _ => named, by simp [singleNames, value?], rfl, rfl⟩

theorem set?_registers {given : Given} {value : String} {next : Given} :
    given.set? "registers" value = some next ↔ ∃ list, registers? value = some list ∧
      next = { given with registers := some (given.registers.getD [] ++ list) } := by
  simp only [set?, Option.bind_eq_bind, Option.bind_eq_some_iff, Option.pure_def,
    Option.some.injEq]
  constructor
  · rintro ⟨list, read, rfl⟩
    exact ⟨list, read, rfl⟩
  · rintro ⟨list, read, rfl⟩
    exact ⟨list, read, rfl⟩

structure Collects (settings : List Setting) (given : Given) : Prop where
  values : ∀ name ∈ singleNames, valuesOf name settings = (given.value? name).toList
  registers : AreNamed (valuesOf "registers" settings) given.registers
  json : settings.count .json = if given.json then 1 else 0
  paths : ∀ name ∈ pathNames, "" ∉ valuesOf name settings

theorem Collects.json_next {before : List Setting} {given next : Given}
    (collects : given.Collects before) (taken : given.setJson? = some next) :
    next.Collects (before ++ [.json]) := by
  unfold setJson? at taken
  split at taken
  · cases taken
  · next first =>
    cases taken
    exact {
      values := by
        intro name single
        rw [valuesOf_append, valuesOf, valuesOf, List.append_nil]
        exact collects.values name single
      registers := by simpa [valuesOf_append, valuesOf] using collects.registers
      json := by simp [collects.json, first]
      paths := by
        intro name isPath
        rw [valuesOf_append, valuesOf, valuesOf, List.append_nil]
        exact collects.paths name isPath }

theorem Collects.single_next {before : List Setting} {given next : Given} {name value : String}
    (collects : given.Collects before) (sets : given.Sets name value next)
    (single : name ∈ singleNames) : next.Collects (before ++ [.option name value]) where
  values := by
    intro other known
    rw [valuesOf_append, collects.values other known, sets.values other known, valuesOf]
    by_cases same : name = other
    · subst same
      simp [sets.absent, valuesOf]
    · simp [same, Ne.symm same, valuesOf]
  registers := by
    have differs : name ≠ "registers" := by
      rintro rfl
      exact absurd single (by decide)
    rw [sets.registers, valuesOf_append, valuesOf, if_neg differs, valuesOf, List.append_nil]
    exact collects.registers
  json := by simp [collects.json, sets.json]
  paths := by
    intro path isPath
    rw [valuesOf_append, valuesOf]
    split
    · next same => simp [valuesOf, collects.paths path isPath, Ne.symm (sets.named (same ▸ isPath))]
    · simpa [valuesOf] using collects.paths path isPath

theorem Collects.registers_next {before : List Setting} {given : Given} {value : String}
    {list : List RegisterIndex} (collects : given.Collects before)
    (read : registers? value = some list) :
    Collects (before ++ [.option "registers" value])
      { given with registers := some (given.registers.getD [] ++ list) } where
  values := by
    intro name single
    have differs : "registers" ≠ name := by
      rintro rfl
      exact absurd single (by decide)
    rw [valuesOf_append, valuesOf, if_neg differs, valuesOf, List.append_nil]
    exact collects.values name single
  registers := by
    rw [valuesOf_append]
    exact collects.registers.append read
  json := by simpa using collects.json
  paths := by
    intro path isPath
    have differs : "registers" ≠ path := by
      rintro rfl
      exact absurd isPath (by decide)
    rw [valuesOf_append, valuesOf, if_neg differs, valuesOf, List.append_nil]
    exact collects.paths path isPath

theorem Collects.take {before : List Setting} {given next : Given} {setting : Setting}
    (collects : given.Collects before)
    (known : ∀ name value, setting = .option name value → name ∈ valued)
    (taken : given.take? setting = some next) : next.Collects (before ++ [setting]) := by
  cases setting with
  | json => exact collects.json_next taken
  | option name value =>
    rcases single_or_registers (known name value rfl) with single | rfl
    · exact collects.single_next (sets_of_set? single taken) single
    · obtain ⟨list, read, rfl⟩ := set?_registers.1 taken
      exact collects.registers_next read

end Given

def DocumentSource.IsChosen (settings : List Setting) : DocumentSource → Prop
  | .domain name =>
    valuesOf "domain" settings = [name] ∧ valuesOf "attestation-file" settings = []
  | .file path => valuesOf "domain" settings = [] ∧ valuesOf "attestation-file" settings = [path]

/-- The options that settings choose: the repository and one source of the document, and what else
is given, at most once. Registers may be named by several options. -/
structure Options.AreChosen (settings : List Setting) (options : Options) : Prop where
  repository : valuesOf "repo" settings = [options.repository]
  digest : valuesOf "digest" settings = options.digest.toList
  document : options.document.IsChosen settings
  bundleFile : valuesOf "bundle-file" settings = options.bundleFile.toList
  configFile : valuesOf "config" settings = options.configFile.toList
  trustedRoot : valuesOf "trusted-root" settings = options.trustedRoot.toList
  registers : AreNamed (valuesOf "registers" settings) options.registers
  json : settings.count .json = if options.json then 1 else 0
  paths : ∀ name ∈ pathNames, "" ∉ valuesOf name settings

theorem Options.AreChosen.value {settings : List Setting} {options : Options}
    (chosen : options.AreChosen settings) {name : String} (single : name ∈ singleNames) :
    ∃ value : Option String, valuesOf name settings = value.toList := by
  have document : ∃ domain path : Option String, valuesOf "domain" settings = domain.toList ∧
      valuesOf "attestation-file" settings = path.toList := by
    have sourced := chosen.document
    cases source : options.document with
    | domain name =>
      rw [source] at sourced
      exact ⟨some name, none, sourced⟩
    | file path =>
      rw [source] at sourced
      exact ⟨none, some path, sourced⟩
  obtain ⟨domain, path, domains, paths⟩ := document
  simp only [singleNames, List.mem_cons, List.not_mem_nil, or_false] at single
  rcases single with rfl | rfl | rfl | rfl | rfl | rfl | rfl
  · exact ⟨some options.repository, chosen.repository⟩
  · exact ⟨_, chosen.digest⟩
  · exact ⟨_, domains⟩
  · exact ⟨_, paths⟩
  · exact ⟨_, chosen.bundleFile⟩
  · exact ⟨_, chosen.configFile⟩
  · exact ⟨_, chosen.trustedRoot⟩

namespace Given

end Given

end EnclaveProvenance.CommandLine
