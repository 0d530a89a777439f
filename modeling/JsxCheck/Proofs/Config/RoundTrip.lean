import JsxCheck.Config.OptionFormat
import JsxCheck.Proofs.Json.Fields

/-!
Options read back from what is written.

A reader restores what a writer writes when the one undoes the other. This passes from values to lists,
to values that may be missing and to records, so that `options_roundTrip` holds of every type of options.
-/
namespace JsxCheck

/-! ### Values -/

namespace OptionReader

variable {α : Type} {read : OptionReader α} {write : α → Json}

/-- Reading what is written gives the value back. -/
def Restores (read : OptionReader α) (write : α → Json) : Prop := ∀ a, read (write a) = .ok a

theorem Restores.optional (restores : read.Restores write) (given : ∀ a, write a ≠ .null) :
    (optional read).Restores fun value => (value.map write).getD .null := by
  intro value
  cases value with
  | none => rfl
  | some a =>
    have present : OptionReader.optional read (write a) = (read (write a)).map some := by
      cases shape : write a with
      | null => exact absurd shape (given a)
      | _ => rfl
    change OptionReader.optional read (write a) = .ok (some a)
    rw [present, restores a]
    rfl

theorem Restores.list (restores : read.Restores write) :
    (list read).Restores fun values => .array (values.map write) := by
  intro values
  change (values.map write).mapM read = .ok values
  induction values with
  | nil => rfl
  | cons a values ih =>
    rw [List.map_cons, List.mapM_cons, restores a, ih]
    rfl

end OptionReader

open OptionReader

theorem Usage.restores : Usage.read.Restores Usage.toJson := by
  intro usage
  cases usage <;> rfl

theorem PropKind.restores : PropKind.read.Restores PropKind.toJson := by
  intro kind
  cases kind <;> rfl

/-! ### Records -/

namespace Schema

variable {σ α β : Type} {schema : Schema σ} {record : σ} {entries rest : List (String × Json)}

theorem read_object_iff : schema.read (.object entries) = .ok record ↔
    schema.readEntries entries schema.start = .ok record ∧ schema.missing? entries = none := by
  rw [Schema.read]
  cases schema.readEntries entries schema.start with
  | error e => simp [bind, Except.bind]
  | ok final => cases schema.missing? entries <;> simp [bind, Except.bind]

theorem readEntries_of {name : String} {required : Bool} {read : OptionReader α} {put : α → σ → σ}
    {value : Json} {a : α}
    (found : schema.fields.find? (·.name == name) = some (.of name required read put))
    (isRead : read value = .ok a) :
    schema.readEntries ((name, value) :: rest) record = schema.readEntries rest (put a record) := by
  rw [readEntries, found]
  simp only [Field.of, isRead]
  rfl

/-- A record of one field is read back when the value of the field is. -/
theorem restores_single {name : String} {required : Bool} {read : OptionReader α} {put : α → σ → σ}
    {write : α → Json} (get : σ → α) (only : schema.fields = [.of name required read put])
    (restores : read.Restores write) (whole : ∀ record, put (get record) schema.start = record) :
    schema.read.Restores fun record => .ofFields [(name, write (get record))] := by
  intro record
  have found : schema.fields.find? (·.name == name) = some (.of name required read put) := by
    rw [only]
    exact List.find?_cons_of_pos (beq_self_eq_true name)
  change schema.read (.object [(name, write (get record))]) = .ok record
  refine read_object_iff.mpr ⟨?_, ?_⟩
  · rw [readEntries_of found (restores _), readEntries, whole]
  · simp [missing?, only, Field.of]

/-- Two fields are read into the record in the order of their keys. -/
theorem read_pair (schema : Schema σ) (key key' : String) (value value' : Json)
    {required required' : Bool} {read : OptionReader α} {read' : OptionReader β} {put : α → σ → σ}
    {put' : β → σ → σ} {a : α} {b : β} (order : key < key')
    (found : schema.fields.find? (·.name == key) = some (.of key required read put))
    (found' : schema.fields.find? (·.name == key') = some (.of key' required' read' put'))
    (isRead : read value = .ok a) (isRead' : read' value' = .ok b)
    (complete : schema.missing? [(key, value), (key', value')] = none) :
    schema.read (.ofFields [(key, value), (key', value')]) = .ok (put' b (put a schema.start)) := by
  have entries : Json.ofFields [(key, value), (key', value')] =
      .object [(key, value), (key', value')] := by
    have different : key' ≠ key := order.ne'
    simp [Json.ofFields, Json.insertField, order.not_gt, different]
  rw [entries]
  refine read_object_iff.mpr ⟨?_, complete⟩
  rw [readEntries_of found isRead, readEntries_of found' isRead', readEntries]

end Schema

theorem Json.ofFields_swap {key key' : String} (different : key ≠ key') (value value' : Json) :
    ofFields [(key, value), (key', value')] = ofFields [(key', value'), (key, value)] := by
  rw [ofFields_eq, ofFields_eq]
  refine congrArg object (fieldsOf_eq_of_lastWritten? fun name => ?_)
  by_cases first : key = name
  · have second : key' ≠ name := fun same => different (first.trans same.symm)
    simp [lastWritten?, first, second]
  · simp [lastWritten?, List.find?_cons, first]

theorem ElementBan.restores : ElementBan.schema.read.Restores ElementBan.toJson := by
  rintro ⟨pattern, message⟩
  cases message with
  | none => rfl
  | some message =>
    have swapped : ElementBan.toJson ⟨pattern, some message⟩ =
        .ofFields [("message", .string message), ("pattern", .string pattern)] :=
      Json.ofFields_swap (by decide) _ _
    rw [swapped]
    exact ElementBan.schema.read_pair "message" "pattern" _ _ (by decide) rfl rfl rfl rfl rfl

theorem PropBan.restores : PropBan.schema.read.Restores PropBan.toJson := by
  rintro ⟨name, message⟩
  cases message with
  | none => rfl
  | some message =>
    have swapped : PropBan.toJson ⟨name, some message⟩ =
        .ofFields [("message", .string message), ("name", .string name)] :=
      Json.ofFields_swap (by decide) _ _
    rw [swapped]
    exact PropBan.schema.read_pair "message" "name" _ _ (by decide) rfl rfl rfl rfl rfl

theorem SortPropsOptions.restores :
    SortPropsOptions.schema.read.Restores SortPropsOptions.toJson := by
  rintro ⟨ignoreCase, order⟩
  have back := PropKind.restores.list.optional (fun _ => nofun) order
  have pair := SortPropsOptions.schema.read_pair "ignoreCase" "order" (.bool ignoreCase) _ (by decide)
    rfl rfl rfl back rfl
  cases order with
  | none => exact pair
  | some kinds => exact pair

/-! ### Options -/

namespace OptionFormat

variable {σ : Type} {f : OptionFormat σ}

/-- A JSON value as the options that it gives are written. -/
def normalize (f : OptionFormat σ) (value : Json) : Except OptionError Json :=
  (f.schema.read value).map f.toJson

/-- Options are read back from what is written for them, and what is accepted in any form is written in
one that gives the same options and is written as it stands. -/
structure RoundTrips (f : OptionFormat σ) : Prop where
  restores : ∀ options, f.schema.read (f.toJson options) = .ok options
  normal : ∀ value options, f.schema.read value = .ok options → ∃ written,
    f.normalize value = .ok written ∧ f.schema.read written = .ok options ∧
      f.normalize written = .ok written

theorem RoundTrips.of_restores (restores : f.schema.read.Restores f.toJson) : f.RoundTrips := by
  refine ⟨restores, fun value options read => ⟨f.toJson options, ?_, restores options, ?_⟩⟩
  · rw [normalize, read]
    rfl
  · rw [normalize, restores]
    rfl

end OptionFormat

/-- The options of every rule round-trip through JSON, and so do the bans that they list. -/
theorem options_roundTrip :
    (∀ r : RuleName, r.optionFormat.RoundTrips) ∧
      OptionFormat.RoundTrips ⟨ElementBan.schema, ElementBan.toJson⟩ ∧
      OptionFormat.RoundTrips ⟨PropBan.schema, PropBan.toJson⟩ := by
  refine ⟨fun r => .of_restores ?_, .of_restores ElementBan.restores, .of_restores PropBan.restores⟩
  have spacing : ∀ name, (SpacingOptions.schema name).read.Restores SpacingOptions.toJson := by
    intro name
    have given : ∀ usage, Usage.toJson usage ≠ .null := by
      intro usage
      cases usage <;> nofun
    exact Schema.restores_single SpacingOptions.spacing rfl (Usage.restores.optional given) fun _ => rfl
  cases r with
  | jsxBanElements =>
    exact Schema.restores_single BanElementsOptions.bans rfl ElementBan.restores.list fun _ => rfl
  | jsxBanProps =>
    exact Schema.restores_single BanPropsOptions.props rfl PropBan.restores.list fun _ => rfl
  | jsxBooleanValue =>
    exact Schema.restores_single BooleanValueOptions.value rfl Usage.restores fun _ => rfl
  | jsxCurlyBracePresence =>
    exact Schema.restores_single BracePresenceOptions.props rfl Usage.restores fun _ => rfl
  | jsxCurlySpacing => exact spacing _
  | jsxEqualsSpacing => exact spacing _
  | jsxPreferFragment =>
    exact Schema.restores_single PreferFragmentOptions.noSyntaxSugar rfl (fun _ => rfl) fun _ => rfl
  | jsxSortProps => exact SortPropsOptions.restores
  | _ => exact fun _ => rfl

/-- Options to sort props by kind, with the fields in an array and a kind as the key of an object. -/
def orderInArray : Json :=
  .array [.bool true, .array [.string "spread", .object [("longhand", .null)]]]

theorem options_roundTrip_of_orderInArray :
    let f := RuleName.jsxSortProps.optionFormat
    f.schema.read orderInArray = .ok ⟨true, some [.spread, .longhand]⟩ ∧
      ∃ written, f.normalize orderInArray = .ok written ∧
        f.schema.read written = .ok ⟨true, some [.spread, .longhand]⟩ ∧
        f.normalize written = .ok written :=
  ⟨rfl, (options_roundTrip.1 .jsxSortProps).normal orderInArray _ rfl⟩

end JsxCheck
