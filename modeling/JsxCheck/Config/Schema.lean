import JsxCheck.Config.OptionError

/-!
Reading records of options from JSON.

A record is given as an object, or as an array with its fields in order. Fields that may be left out
keep the value they have in the record read into.
-/
namespace JsxCheck

/-- A value read from JSON, or what is wrong with it. -/
abbrev OptionReader (α : Type) := Json → Except OptionError α

namespace OptionReader

def boolean : OptionReader Bool
  | .bool value => .ok value
  | other => .error (.invalidType other "a boolean")

def string : OptionReader String
  | .string value => .ok value
  | other => .error (.invalidType other "a string")

/-- A value, or null for none. -/
def optional {α : Type} (read : OptionReader α) : OptionReader (Option α)
  | .null => .ok none
  | other => (read other).map some

def list {α : Type} (read : OptionReader α) : OptionReader (List α)
  | .array items => items.mapM read
  | other => .error (.invalidType other "a sequence")

/-- The variant of a name. -/
def variantOf {α : Type} (variants : List (String × α)) (name : String) : Except OptionError α :=
  match variants.find? (·.1 == name) with
  | some (_, value) => .ok value
  | none => .error (.unknownVariant name (variants.map Prod.fst))

/-- A variant by its name, or as the one key of an object whose value is null. -/
def variant {α : Type} (variants : List (String × α)) : OptionReader α
  | .string name => variantOf variants name
  | .object [(name, value)] => do
    let found ← variantOf variants name
    match value with
    | .null => .ok found
    | other => .error (.invalidType other "unit")
  | .object _ => .error .notSingleKey
  | other => .error (.invalidType other "string or map")

end OptionReader

/-- A field of a record: how its value is put into a record read so far. -/
structure Field (σ : Type) where
  name : String
  required : Bool := false
  read : Json → σ → Except OptionError σ

/-- A record as JSON gives it. -/
structure Schema (σ : Type) where
  /-- What messages call the record. -/
  name : String
  fields : List (Field σ)
  /-- The record before any field is read. -/
  start : σ
  /-- Keys other than those of the fields are refused. -/
  closed : Bool := false

namespace Schema

variable {σ : Type}

def readEntries (schema : Schema σ) : List (String × Json) → σ → Except OptionError σ
  | [], record => .ok record
  | (key, value) :: rest, record =>
    match schema.fields.find? (·.name == key) with
    | some field => do schema.readEntries rest (← field.read value record)
    | none =>
      if schema.closed then .error (.unknownField key) else schema.readEntries rest record

/-- The first field that must be given and is not. -/
def missing? (schema : Schema σ) (entries : List (String × Json)) : Option (Field σ) :=
  schema.fields.find? fun field => field.required && !entries.any (·.1 == field.name)

/-- What messages call a record with all its fields. -/
def fullName (schema : Schema σ) : String :=
  let count := schema.fields.length
  "struct " ++ schema.name ++ " with " ++ toString count
    ++ (if count = 1 then " element" else " elements")

/-- Reads the items of an array into the fields from an index on. -/
def readItems (schema : Schema σ) : (index : Nat) → List (Field σ) → List Json → σ →
    Except OptionError σ
  | _, [], _, record => .ok record
  | index, field :: fields, item :: items, record => do
    schema.readItems (index + 1) fields items (← field.read item record)
  | index, field :: fields, [], record =>
    if field.required then .error (.invalidLength index schema.fullName)
    else schema.readItems (index + 1) fields [] record

def read (schema : Schema σ) : OptionReader σ
  | .object entries => do
    let record ← schema.readEntries entries schema.start
    match schema.missing? entries with
    | some field => .error (.missingField field.name)
    | none => .ok record
  | .array items => do
    let record ← schema.readItems 0 schema.fields items schema.start
    if items.length > schema.fields.length then
      .error (.invalidLength items.length "fewer elements in array")
    else .ok record
  | other => .error (.invalidType other ("struct " ++ schema.name))

end Schema

end JsxCheck
