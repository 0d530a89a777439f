import JsxCheck.Proofs.Json.Fields

/-!
Which values a JSON schema admits.

A schema is an object of keywords, each of which asks something of a value. `type`, `enum` and
`required` look at the value itself, `items` and `properties` at what is in it. Other keywords ask
nothing here.
-/
namespace JsxCheck

/-- The number has no fraction. -/
def Decimal.IsWhole (d : Decimal) : Prop := 10 ^ (-d.exponent).toNat ∣ d.digits

namespace Json

/-- The entries of an object; another value has none. -/
def entries : Json → List (String × Json)
  | .object fields => fields
  | _ => []

/-- The items of an array; another value has none. -/
def items : Json → List Json
  | .array items => items
  | _ => []

/-- The value is of a type, by the name that schemas have for it. -/
def HasType : Json → String → Prop
  | .null, name => name = "null"
  | .bool _, name => name = "boolean"
  | .integer _, name => name = "number" ∨ name = "integer"
  | .decimal d, name => name = "number" ∨ (name = "integer" ∧ d.IsWhole)
  | .string _, name => name = "string"
  | .array _, name => name = "array"
  | .object _, name => name = "object"

/-- The value is of the type, or of one of the types, that the argument of `type` names. -/
def IsOfType (value argument : Json) : Prop :=
  ∃ name, (argument = .string name ∨ .string name ∈ argument.items) ∧ value.HasType name

/-- The value, if it is an object, has the keys. -/
def HasKeys (value : Json) (keys : List Json) : Prop :=
  ∀ fields, value = .object fields → ∀ key, .string key ∈ keys → ∃ x, (key, x) ∈ fields

/-- The value satisfies the schema. -/
inductive Admits : (schema value : Json) → Prop where
  | anything (value : Json) : Admits (.bool true) value
  | keywords {keywords : List (String × Json)} {value : Json}
    (type : ∀ argument, ("type", argument) ∈ keywords → value.IsOfType argument)
    (enum : ∀ argument, ("enum", argument) ∈ keywords → value ∈ argument.items)
    (required : ∀ argument, ("required", argument) ∈ keywords → value.HasKeys argument.items)
    (items : ∀ argument, ("items", argument) ∈ keywords → ∀ item ∈ value.items, Admits argument item)
    (properties : ∀ argument, ("properties", argument) ∈ keywords →
      ∀ key schema, (key, schema) ∈ argument.entries →
        ∀ x, (key, x) ∈ value.entries → Admits schema x) :
    Admits (.object keywords) value

/-! ### Schemas by how they are written -/

variable {written : List (String × Json)} {value argument : Json}

theorem mem_entries_ofFields {key : String} :
    (key, value) ∈ (ofFields written).entries ↔ lastWritten? written key = some value :=
  mem_fieldsOf_iff written key value

/-- The keywords of a schema that is written with these entries. -/
theorem admits_ofFields_iff : (ofFields written).Admits value ↔
    (∀ argument, lastWritten? written "type" = some argument → value.IsOfType argument) ∧
    (∀ argument, lastWritten? written "enum" = some argument → value ∈ argument.items) ∧
    (∀ argument, lastWritten? written "required" = some argument → value.HasKeys argument.items) ∧
    (∀ argument, lastWritten? written "items" = some argument →
      ∀ item ∈ value.items, argument.Admits item) ∧
    ∀ argument, lastWritten? written "properties" = some argument →
      ∀ key schema, (key, schema) ∈ argument.entries →
        ∀ x, (key, x) ∈ value.entries → schema.Admits x := by
  simp only [← mem_fieldsOf_iff]
  constructor
  · intro admitted
    cases admitted with
    | keywords type enum required items properties => exact ⟨type, enum, required, items, properties⟩
  · rintro ⟨type, enum, required, items, properties⟩
    exact .keywords type enum required items properties

theorem Admits.hasType {name : String} (admitted : (ofFields written).Admits value)
    (typed : lastWritten? written "type" = some (.string name)) : value.HasType name := by
  obtain ⟨other, same | listed, typed⟩ := (admits_ofFields_iff.mp admitted).1 _ typed
  · rwa [string.inj same]
  · cases listed

theorem Admits.property {properties : List (String × Json)} {key : String} {schema x : Json}
    (admitted : (ofFields written).Admits value)
    (each : lastWritten? written "properties" = some (.ofFields properties))
    (property : lastWritten? properties key = some schema) (inside : (key, x) ∈ value.entries) :
    schema.Admits x := by
  obtain ⟨_, _, _, _, held⟩ := admits_ofFields_iff.mp admitted
  exact held _ each key schema (mem_entries_ofFields.mpr property) x inside

theorem Admits.mem_enum {values : List Json} (admitted : (ofFields written).Admits value)
    (listed : lastWritten? written "enum" = some (.array values)) : value ∈ values :=
  (admits_ofFields_iff.mp admitted).2.1 _ listed

theorem Admits.hasKeys {keys : List Json} (admitted : (ofFields written).Admits value)
    (required : lastWritten? written "required" = some (.array keys)) : value.HasKeys keys :=
  (admits_ofFields_iff.mp admitted).2.2.1 _ required

theorem Admits.item {schema item : Json} (admitted : (ofFields written).Admits value)
    (each : lastWritten? written "items" = some schema) (inside : item ∈ value.items) :
    schema.Admits item :=
  (admits_ofFields_iff.mp admitted).2.2.2.1 _ each item inside

theorem HasType.eq_object (typed : value.HasType "object") : ∃ fields, value = .object fields := by
  cases value <;> simp_all [HasType]

end Json

end JsxCheck
