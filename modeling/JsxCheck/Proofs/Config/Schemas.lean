import JsxCheck.Proofs.Config.RoundTrip
import JsxCheck.Proofs.Config.Settings
import JsxCheck.Proofs.Json.Admits
import JsxCheck.Rule.Metadata

/-!
Options that the schemas of the rules admit.

A reader honours a schema when it reads every value that the schema admits. This passes from values to
lists and records. `set_of_optionSchema` says what it means for the settings of rules: options admitted
by the schema of a rule are refused only when a ban of elements is not given by a pattern, whichever texts
are patterns.
-/
namespace JsxCheck

open Json

/-! ### Values -/

namespace OptionReader

variable {α : Type} {read : OptionReader α} {schema : Json}

/-- Every value that the schema admits is read. -/
def Honours (read : OptionReader α) (schema : Json) : Prop :=
  ∀ value, schema.Admits value → ∃ a, read value = .ok a

theorem honours_boolean : boolean.Honours (RuleName.typeSchema "boolean") := by
  intro value admitted
  have typed := admitted.hasType rfl
  cases value <;> simp [HasType] at typed
  exact ⟨_, rfl⟩

theorem honours_string : string.Honours (RuleName.typeSchema "string") := by
  intro value admitted
  have typed := admitted.hasType rfl
  cases value <;> simp [HasType] at typed
  exact ⟨_, rfl⟩

theorem honours_variant {variants : List (String × α)} {names : List String}
    (known : ∀ name ∈ names, ∃ a, variantOf variants name = .ok a) :
    (variant variants).Honours (RuleName.enumSchema names) := by
  intro value admitted
  obtain ⟨name, listed, rfl⟩ := List.mem_map.mp (admitted.mem_enum rfl)
  exact known name listed

/-- A schema may leave out that null stands for no value. -/
theorem Honours.optional (honours : read.Honours schema) : (optional read).Honours schema := by
  intro value admitted
  obtain ⟨a, isRead⟩ := honours value admitted
  cases value with
  | null => exact ⟨none, rfl⟩
  | _ => exact ⟨some a, by simp only [OptionReader.optional, isRead, Except.map]⟩

theorem exists_mapM {items : List Json} (each : ∀ item ∈ items, ∃ a, read item = .ok a) :
    ∃ values, items.mapM read = .ok values := by
  induction items with
  | nil => exact ⟨[], rfl⟩
  | cons item items ih =>
    obtain ⟨a, isRead⟩ := each item List.mem_cons_self
    obtain ⟨values, areRead⟩ := ih fun other later => each other (List.mem_cons_of_mem _ later)
    refine ⟨a :: values, ?_⟩
    rw [List.mapM_cons, isRead, areRead]
    rfl

theorem Honours.list {written : List (String × Json)}
    (typed : lastWritten? written "type" = some (.string "array"))
    (each : lastWritten? written "items" = some schema) (honours : read.Honours schema) :
    (list read).Honours (.ofFields written) := by
  intro value admitted
  have isArray := admitted.hasType typed
  cases value <;> simp [HasType] at isArray
  exact exists_mapM fun item inside => honours item (admitted.item each inside)

end OptionReader

/-! ### Records -/

def Field.Honours {σ : Type} (field : Field σ) (schema : Json) : Prop :=
  ∀ value, schema.Admits value → ∀ record, ∃ next, field.read value record = .ok next

theorem Field.honours_of {σ α : Type} {name : String} {required : Bool} {read : OptionReader α}
    {put : α → σ → σ} {schema : Json} (honours : read.Honours schema) :
    (Field.of name required read put).Honours schema := by
  intro value admitted record
  obtain ⟨a, isRead⟩ := honours value admitted
  exact ⟨put a record, by simp only [Field.of, isRead, Except.map]⟩

namespace Schema

variable {σ : Type} {schema : Schema σ}

theorem exists_readEntries {entries : List (String × Json)} (isOpen : schema.closed = false)
    (each : ∀ key value, (key, value) ∈ entries → ∀ field ∈ schema.fields, field.name = key →
      ∀ record, ∃ next, field.read value record = .ok next) (record : σ) :
    ∃ final, schema.readEntries entries record = .ok final := by
  induction entries generalizing record with
  | nil => exact ⟨record, rfl⟩
  | cons entry rest ih =>
    obtain ⟨key, value⟩ := entry
    have others := ih fun key value later => each key value (List.mem_cons_of_mem _ later)
    rw [readEntries]
    split
    · rename_i field found
      obtain ⟨next, isRead⟩ := each key value List.mem_cons_self field
        (List.mem_of_find?_eq_some found) (by simpa using List.find?_some found) record
      obtain ⟨final, areRead⟩ := others next
      exact ⟨final, by rw [isRead]; exact areRead⟩
    · -- A key of no field is passed over.
      rw [isOpen]
      exact others record

/-- A record is read from every object that its schema admits when the schema has a property for each
field, which the field honours, and asks for the fields that must be given. -/
theorem honours {written properties : List (String × Json)} (isOpen : schema.closed = false)
    (typed : lastWritten? written "type" = some (.string "object"))
    (described : lastWritten? written "properties" = some (.ofFields properties))
    (fields : ∀ field ∈ schema.fields, ∃ sub, lastWritten? properties field.name = some sub ∧
      field.Honours sub)
    (required : ∀ field ∈ schema.fields, field.required = true → ∃ keys,
      lastWritten? written "required" = some (.array keys) ∧ .string field.name ∈ keys) :
    schema.read.Honours (.ofFields written) := by
  intro value admitted
  obtain ⟨entries, rfl⟩ := (admitted.hasType typed).eq_object
  have each : ∀ key value, (key, value) ∈ entries → ∀ field ∈ schema.fields, field.name = key →
      ∀ record, ∃ next, field.read value record = .ok next := by
    rintro key value inside field listed rfl
    obtain ⟨sub, property, honours⟩ := fields field listed
    exact honours value (admitted.property described property inside)
  have complete : schema.missing? entries = none := by
    refine List.find?_eq_none.mpr fun field listed absent => ?_
    obtain ⟨must, absent⟩ := Bool.and_eq_true_iff.mp absent
    obtain ⟨keys, asked, named⟩ := required field listed must
    obtain ⟨x, given⟩ := admitted.hasKeys asked entries rfl field.name named
    simp only [Bool.not_eq_true', List.any_eq_false] at absent
    exact absent _ given (beq_self_eq_true _)
  obtain ⟨record, isRead⟩ := exists_readEntries isOpen each schema.start
  exact ⟨record, read_object_iff.mpr ⟨isRead, complete⟩⟩

theorem honours_single {α : Type} {name : String} {read : OptionReader α} {put : α → σ → σ} {sub : Json}
    (only : schema.fields = [.of name false read put]) (isOpen : schema.closed = false)
    (honours : read.Honours sub) : schema.read.Honours (RuleName.objectSchema [(name, sub)] []) := by
  refine Schema.honours isOpen rfl rfl ?_ ?_
  · rw [only, List.forall_mem_singleton]
    exact ⟨sub, by simp [lastWritten?, Field.of], Field.honours_of honours⟩
  · rw [only, List.forall_mem_singleton]
    intro must
    cases must

theorem honours_ban {key : String} {put : String → σ → σ} {put' : Option String → σ → σ}
    (fields : schema.fields = [.of key true .string put, .of "message" false (.optional .string) put'])
    (isOpen : schema.closed = false) (other : "message" ≠ key) :
    schema.read.Honours (RuleName.objectSchema
      [(key, RuleName.typeSchema "string"), ("message", RuleName.typeSchema "string")]
      [("required", .array [.string key])]) := by
  refine Schema.honours isOpen rfl rfl ?_ ?_
  · rw [fields, List.forall_mem_cons, List.forall_mem_singleton]
    refine ⟨⟨_, ?_, Field.honours_of OptionReader.honours_string⟩, _, rfl,
      Field.honours_of OptionReader.honours_string.optional⟩
    simp [lastWritten?, Field.of, other]
  · rw [fields, List.forall_mem_cons, List.forall_mem_singleton]
    refine ⟨fun _ => ⟨_, rfl, List.mem_singleton_self _⟩, fun must => ?_⟩
    cases must

end Schema

/-! ### Options -/

theorem Usage.honours : Usage.read.Honours (RuleName.enumSchema ["always", "never"]) := by
  refine OptionReader.honours_variant fun name listed => ?_
  simp only [List.mem_cons, List.not_mem_nil, or_false] at listed
  rcases listed with rfl | rfl
  · exact ⟨.always, rfl⟩
  · exact ⟨.never, rfl⟩

theorem PropKind.honours :
    PropKind.read.Honours (RuleName.enumSchema ["spread", "shorthand", "longhand"]) := by
  refine OptionReader.honours_variant fun name listed => ?_
  simp only [List.mem_cons, List.not_mem_nil, or_false] at listed
  rcases listed with rfl | rfl | rfl
  · exact ⟨.spread, rfl⟩
  · exact ⟨.shorthand, rfl⟩
  · exact ⟨.longhand, rfl⟩

open OptionReader in
/-- A rule reads all options that its schema admits. -/
theorem RuleName.honours_optionSchema (r : RuleName) (described : r.optionSchema ≠ .null) :
    r.readOptions.Honours r.optionSchema := by
  cases r with
  | jsxBanElements =>
    exact Schema.honours_single rfl rfl (.list rfl rfl (Schema.honours_ban rfl rfl (by decide)))
  | jsxBanProps =>
    exact Schema.honours_single rfl rfl (.list rfl rfl (Schema.honours_ban rfl rfl (by decide)))
  | jsxBooleanValue => exact Schema.honours_single rfl rfl Usage.honours
  | jsxCurlyBracePresence => exact Schema.honours_single rfl rfl Usage.honours
  | jsxCurlySpacing => exact Schema.honours_single rfl rfl Usage.honours.optional
  | jsxEqualsSpacing => exact Schema.honours_single rfl rfl Usage.honours.optional
  | jsxPreferFragment => exact Schema.honours_single rfl rfl honours_boolean
  | jsxSortProps =>
    refine Schema.honours rfl rfl rfl ?_ ?_
    · refine List.forall_mem_cons.mpr ⟨⟨_, rfl, Field.honours_of honours_boolean⟩, ?_⟩
      exact List.forall_mem_singleton.mpr
        ⟨_, rfl, Field.honours_of (Honours.list rfl rfl PropKind.honours).optional⟩
    · exact List.forall_mem_cons.mpr ⟨nofun, List.forall_mem_singleton.mpr nofun⟩
  | _ => exact absurd rfl described

/-! ### Patterns of bans -/

theorem OptionReader.bind_eq_ok {α β : Type} {x : Except OptionError α} {f : α → Except OptionError β}
    {b : β} (done : (x >>= f) = .ok b) : ∃ a, x = .ok a ∧ f a = .ok b := by
  cases x with
  | error e => cases done
  | ok a => exact ⟨a, rfl, done⟩

theorem OptionReader.map_eq_ok {α β : Type} {x : Except OptionError α} {f : α → β} {b : β}
    (done : x.map f = .ok b) : ∃ a, x = .ok a ∧ f a = b := by
  cases x with
  | error e => cases done
  | ok a => exact ⟨a, rfl, Except.ok.inj done⟩

namespace Schema

variable {σ : Type} {schema : Schema σ} {entries : List (String × Json)} {record final : σ}
  {P : σ → Prop}

/-- An entry is read into the field of its name, and passed where there is none. -/
theorem readEntries_cons {key : String} {value : Json}
    (read : schema.readEntries ((key, value) :: entries) record = .ok final) :
    (∃ field ∈ schema.fields, field.name = key ∧ ∃ next, field.read value record = .ok next ∧
        schema.readEntries entries next = .ok final) ∨
      (∀ field ∈ schema.fields, field.name ≠ key) ∧
        schema.readEntries entries record = .ok final := by
  rw [readEntries] at read
  split at read
  · rename_i field found
    obtain ⟨next, isRead, read⟩ := OptionReader.bind_eq_ok read
    exact Or.inl ⟨field, List.mem_of_find?_eq_some found, by simpa using List.find?_some found,
      next, isRead, read⟩
  · rename_i unknown
    split at read
    · cases read
    · exact Or.inr ⟨by simpa using unknown, read⟩

/-- What holds of a record before its entries are read, and is kept by each, holds behind them. -/
theorem readEntries_invariant (read : schema.readEntries entries record = .ok final)
    (start : P record)
    (step : ∀ key value, (key, value) ∈ entries → ∀ field ∈ schema.fields, field.name = key →
      ∀ before after, P before → field.read value before = .ok after → P after) : P final := by
  induction entries generalizing record with
  | nil => exact Except.ok.inj read ▸ start
  | cons entry rest ih =>
    obtain ⟨key, value⟩ := entry
    have later := fun key value (inside : (key, value) ∈ rest) =>
      step key value (List.mem_cons_of_mem _ inside)
    rcases readEntries_cons read with ⟨field, listed, named, next, isRead, read⟩ | ⟨_, read⟩
    · have kept := step key value List.mem_cons_self field listed named record next start isRead
      exact ih read kept later
    · exact ih read start later

/-- What reading the entry of a field brings about, and every other entry keeps, holds behind entries that
give the field. -/
theorem readEntries_establishes {field : Field σ}
    (read : schema.readEntries entries record = .ok final) (listed : field ∈ schema.fields)
    (given : ∃ value, (field.name, value) ∈ entries)
    (step : ∀ key value, (key, value) ∈ entries → ∀ other ∈ schema.fields, other.name = key →
      ∀ before after, key = field.name ∨ P before → other.read value before = .ok after →
        P after) : P final := by
  obtain ⟨x, given⟩ := given
  induction entries generalizing record with
  | nil => cases given
  | cons entry rest ih =>
    obtain ⟨key, value⟩ := entry
    have later := fun key value (inside : (key, value) ∈ rest) =>
      step key value (List.mem_cons_of_mem _ inside)
    by_cases here : key = field.name
    · rcases readEntries_cons read with ⟨other, known, named, next, isRead, read⟩ | ⟨unknown, _⟩
      · have made := step key value List.mem_cons_self other known named record next (Or.inl here) isRead
        -- The rest of the entries keep what this one brought about.
        refine readEntries_invariant read made ?_
        intro key value inside other known named before after holds
        exact later key value inside other known named before after (Or.inr holds)
      · exact absurd here.symm (unknown field listed)
    · have behind : (field.name, x) ∈ rest := by
        rcases List.mem_cons.mp given with same | behind
        · exact absurd (congrArg Prod.fst same).symm here
        · exact behind
      rcases readEntries_cons read with ⟨_, _, _, next, _, read⟩ | ⟨_, read⟩
      · exact ih read later behind
      · exact ih read later behind

/-- An object that is read gives every field that must be given. -/
theorem exists_entry_of_read {field : Field σ} (read : schema.read (.object entries) = .ok record)
    (listed : field ∈ schema.fields) (required : field.required = true) :
    ∃ value, (field.name, value) ∈ entries := by
  have complete := List.find?_eq_none.mp (read_object_iff.mp read).2 field listed
  simpa [required] using complete

end Schema

theorem OptionReader.mem_of_mapM {α : Type} {read : OptionReader α} {items : List Json} {values : List α}
    (done : items.mapM read = .ok values) {a : α} (listed : a ∈ values) :
    ∃ item ∈ items, read item = .ok a := by
  induction items generalizing values with
  | nil =>
    cases done
    cases listed
  | cons item items ih =>
    rw [List.mapM_cons] at done
    obtain ⟨first, isRead, done⟩ := bind_eq_ok done
    obtain ⟨others, areRead, done⟩ := bind_eq_ok done
    cases done
    rcases List.mem_cons.mp listed with rfl | later
    · exact ⟨item, List.mem_cons_self, isRead⟩
    · obtain ⟨other, inside, isRead⟩ := ih areRead later
      exact ⟨other, List.mem_cons_of_mem _ inside, isRead⟩

/-- A ban read from an object has a pattern that the object gives. -/
theorem ElementBan.pattern_of_read {entries : List (String × Json)} {ban : ElementBan}
    (read : ElementBan.schema.read (.object entries) = .ok ban) :
    ("pattern", .string ban.pattern) ∈ entries := by
  -- Entries of the pattern write it, and those of the message leave it alone.
  refine Schema.readEntries_establishes (Schema.read_object_iff.mp read).1 List.mem_cons_self
    (Schema.exists_entry_of_read read List.mem_cons_self rfl)
    (P := fun ban => ("pattern", .string ban.pattern) ∈ entries) ?_
  rintro key value inside field listed rfl before after known isRead
  change field ∈ [_, _] at listed
  rcases List.mem_pair.mp listed with rfl | rfl
  · obtain ⟨text, isText, rfl⟩ := OptionReader.map_eq_ok isRead
    cases value <;> cases isText
    exact inside
  · obtain ⟨_, _, rfl⟩ := OptionReader.map_eq_ok isRead
    exact known.resolve_left (by decide)

/-- The bans read from an object are read from the items of an array in it. -/
theorem BanElementsOptions.item_of_read {entries : List (String × Json)} {options : BanElementsOptions}
    (read : BanElementsOptions.schema.read (.object entries) = .ok options) :
    ∀ ban ∈ options.bans, ∃ items, ("bans", .array items) ∈ entries ∧
      ∃ item ∈ items, ElementBan.schema.read item = .ok ban := by
  refine Schema.readEntries_invariant (Schema.read_object_iff.mp read).1 nofun
    (P := fun options => ∀ ban ∈ options.bans, ∃ items, ("bans", .array items) ∈ entries ∧
      ∃ item ∈ items, ElementBan.schema.read item = .ok ban) ?_
  rintro key value inside field listed rfl _ _ _ isRead ban member
  obtain rfl := List.mem_singleton.mp listed
  obtain ⟨bans, areRead, rfl⟩ := OptionReader.map_eq_ok isRead
  cases value with
  | array items => exact ⟨items, inside, OptionReader.mem_of_mapM areRead member⟩
  | _ => cases areRead

/-- A ban in the value is given by the text. -/
def Json.BansBy (value : Json) (pattern : String) : Prop :=
  ∃ items, ("bans", .array items) ∈ value.entries ∧
    ∃ item ∈ items, ("pattern", .string pattern) ∈ item.entries

/-- A bad pattern among the options of a rule is one that a ban was given by. -/
theorem RuleName.bansBy_of_badPattern? {isPattern : String → Bool} {r : RuleName}
    {entries : List (String × Json)} {options : r.Options} {pattern : String}
    (admitted : r.optionSchema.Admits (.object entries))
    (read : r.readOptions (.object entries) = .ok options)
    (bad : r.badPattern? isPattern options = some pattern) :
    r = .jsxBanElements ∧ Json.BansBy (.object entries) pattern ∧ isPattern pattern = false := by
  cases r with
  | jsxBanElements =>
    obtain ⟨ban, found, rfl⟩ := Option.map_eq_some_iff.mp bad
    have refused : isPattern ban.pattern = false := by simpa using List.find?_some found
    obtain ⟨items, listed, item, inside, isRead⟩ :=
      BanElementsOptions.item_of_read read ban (List.mem_of_find?_eq_some found)
    have isBan := (admitted.property rfl rfl listed).item rfl inside
    obtain ⟨parts, rfl⟩ := (isBan.hasType rfl).eq_object
    exact ⟨rfl, ⟨items, listed, _, inside, ElementBan.pattern_of_read isRead⟩, refused⟩
  | _ => cases bad

theorem Config.setWith_text (isPattern : String → Bool) (c : Config) (r : RuleName) (value : Json) :
    c.setWith isPattern r.text value = (r.readSetting isPattern value).map (c.put r) := by
  unfold setWith enterWith
  rw [RuleName.ofText?_text]
  cases read : r.readSetting isPattern value <;> simp only [read] <;> rfl

theorem RuleName.object_of_optionSchema {r : RuleName} {value : Json} (described : r.optionSchema ≠ .null)
    (admitted : r.optionSchema.Admits value) : ∃ entries, value = .object entries := by
  cases r with
  | jsxBanElements | jsxBanProps | jsxBooleanValue | jsxCurlyBracePresence | jsxCurlySpacing
  | jsxEqualsSpacing | jsxPreferFragment | jsxSortProps => exact (admitted.hasType rfl).eq_object
  | _ => exact absurd rfl described

/-- Options that the schema of a rule admits are read and set, whichever texts are patterns. The one
exception is a ban of elements that is given by something other than a pattern. -/
theorem Config.set_of_optionSchema (isPattern : String → Bool) (c : Config) {r : RuleName}
    (described : r.optionSchema ≠ .null) {value : Json} (admitted : r.optionSchema.Admits value) :
    (∃ options, r.readOptions value = .ok options ∧
      c.setWith isPattern r.text value = .ok (c.put r (some options))) ∨
    (r = .jsxBanElements ∧ ∃ pattern,
      c.setWith isPattern r.text value = .error (.invalidPattern pattern) ∧
        value.BansBy pattern ∧ isPattern pattern = false) := by
  obtain ⟨options, isRead⟩ := r.honours_optionSchema described value admitted
  obtain ⟨entries, rfl⟩ := RuleName.object_of_optionSchema described admitted
  cases bad : r.badPattern? isPattern options with
  | none =>
    have setting : r.readSetting isPattern (.object entries) = .ok (some options) := by
      simp only [RuleName.readSetting, isRead, bad]
    exact Or.inl ⟨options, isRead, by rw [setWith_text, setting]; rfl⟩
  | some pattern =>
    have setting : r.readSetting isPattern (.object entries) = .error (.invalidPattern pattern) := by
      simp only [RuleName.readSetting, isRead, bad]
    obtain ⟨isBans, given, refused⟩ := RuleName.bansBy_of_badPattern? admitted isRead bad
    exact Or.inr ⟨isBans, pattern, by rw [setWith_text, setting]; rfl, given, refused⟩

/-- Options with a ban by a text that is no pattern, with a message and a key of no field. -/
def brokenBan : Json :=
  .object [("bans", .array [
    .object [("extra", .null), ("message", .string "no"), ("pattern", .string "(")]])]

theorem admits_brokenBan : RuleName.jsxBanElements.optionSchema.Admits brokenBan := by
  have text : ∀ s, (RuleName.typeSchema "string").Admits (.string s) := by
    intro s
    simp [RuleName.typeSchema, admits_ofFields_iff, lastWritten?, IsOfType, HasType]
  have isBan : (RuleName.objectSchema
      [("pattern", RuleName.typeSchema "string"), ("message", RuleName.typeSchema "string")]
      [("required", .array [.string "pattern"])]).Admits
        (.object [("extra", .null), ("message", .string "no"), ("pattern", .string "(")]) := by
    refine admits_ofFields_iff.mpr ⟨?type, ?enum, ?required, ?items, ?properties⟩
    case enum | items => rintro _ ⟨⟩
    case type =>
      rintro _ ⟨⟩
      exact ⟨"object", Or.inl rfl, rfl⟩
    case required =>
      rintro _ ⟨⟩
      simp [HasKeys, items]
    case properties =>
      rintro _ ⟨⟩ key schema property x inside
      rw [mem_entries_ofFields] at property
      rcases List.mem_cons.mp inside with same | inside
      · cases same
        cases property
      · rcases List.mem_pair.mp inside with same | same <;> cases same <;> cases property
        · exact text "no"
        · exact text "("
  refine admits_ofFields_iff.mpr ⟨?type, ?enum, ?required, ?items, ?properties⟩
  case enum | required | items => rintro _ ⟨⟩
  case type =>
    rintro _ ⟨⟩
    exact ⟨"object", Or.inl rfl, rfl⟩
  case properties =>
    rintro _ ⟨⟩ key schema property x inside
    rw [mem_entries_ofFields] at property
    cases List.mem_singleton.mp inside
    cases property
    refine admits_ofFields_iff.mpr ⟨?type, ?enum, ?required, ?items, ?properties⟩
    case enum | required | properties => rintro _ ⟨⟩
    case type =>
      rintro _ ⟨⟩
      exact ⟨"array", Or.inl rfl, rfl⟩
    case items =>
      rintro _ ⟨⟩ item listed
      cases List.mem_singleton.mp listed
      exact isBan

theorem Config.set_of_optionSchema_of_brokenBan :
    RuleName.jsxBanElements.optionSchema ≠ .null ∧
      RuleName.jsxBanElements.optionSchema.Admits brokenBan ∧
      ∃ pattern, empty.set RuleName.jsxBanElements.text brokenBan = .error (.invalidPattern pattern) ∧
        brokenBan.BansBy pattern ∧ Pattern.parse? pattern = none := by
  have described : RuleName.jsxBanElements.optionSchema ≠ .null := nofun
  refine ⟨described, admits_brokenBan, ?_⟩
  rcases set_of_optionSchema Pattern.isSpelled empty described admits_brokenBan with
    ⟨_, _, accepted⟩ | ⟨_, pattern, refused, given, bad⟩
  · cases accepted
  · exact ⟨pattern, refused, given, Option.not_isSome_iff_eq_none.mp (Bool.eq_false_iff.mp bad)⟩

end JsxCheck
