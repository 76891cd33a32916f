import EnclaveProvenance.Json.Scalar

/-!
Objects with declared fields. A record may be written as an object, or as a list of its field
values in the order of declaration.
-/

namespace EnclaveProvenance.Json

structure Fields where
  values : List (String × Bytes)
  positional : Bool
deriving DecidableEq, Repr

namespace Fields

/-- Undeclared members are dropped, and no declared field may be given twice. -/
def ofMembers? (names : List String) (strict : Bool) (members : List Member) : Option Fields := do
  let named ← members.mapM fun member => (string? member.key).map (·, member.value)
  let declared := named.filter fun entry => names.contains entry.1
  if (declared.map Prod.fst).Nodup ∧ (strict → declared.length = named.length) then
    some ⟨declared, false⟩
  else none

def ofElements? (names : List String) (values : List Bytes) : Option Fields :=
  if values.length ≤ names.length then some ⟨names.zip values, true⟩ else none

def read (names : List String) (strict : Bool) (value : Bytes) : Option Fields :=
  match members? value with
  | some members => ofMembers? names strict members
  | none => (elements? value).bind (ofElements? names)

def find? (fields : Fields) (name : String) : Option Bytes :=
  (fields.values.find? fun entry => entry.1 == name).map Prod.snd

def required {α : Type} (fields : Fields) (name : String) (decode : Bytes → Option α) : Option α :=
  (fields.find? name).bind decode

/-- A field that may be left out, but not be given as null. -/
def defaulted {α : Type} (fields : Fields) (name : String) (default : α)
    (decode : Bytes → Option α) : Option α :=
  match fields.find? name with
  | some value => decode value
  | none => some default

def optional {α : Type} (fields : Fields) (name : String) (decode : Bytes → Option α) :
    Option (Option α) :=
  match fields.find? name with
  | some value => if isNull value then some none else (decode value).map some
  | none => some none

end Fields

def record? {α : Type} (names : List String) (decode : Fields → Option α) (value : Bytes) :
    Option α :=
  (Fields.read names false value).bind decode

def strictRecord? {α : Type} (names : List String) (decode : Fields → Option α) (value : Bytes) :
    Option α :=
  (Fields.read names true value).bind decode

/-- A choice among named cases: the name as a string, or an object whose one member has the name
as its key and the data of the case as its value. -/
def choice? (value : Bytes) : Option (String × Option Bytes) :=
  match members? value with
  | some [member] => (string? member.key).map (·, some member.value)
  | some _ => none
  | none => (string? value).map (·, none)

end EnclaveProvenance.Json
