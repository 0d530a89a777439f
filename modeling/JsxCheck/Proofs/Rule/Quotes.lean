import JsxCheck.Grammar.Program
import JsxCheck.Proofs.Grammar.Strings
import JsxCheck.Proofs.Rule.AtNodes
import JsxCheck.Rule.Attributes.Forms

/-!
Strings that are moved into braces or out of them.

A string in a tag stands for what is between its quotes, and a string in code for what its body spells.
A fix that moves a string keeps the way it is written, so it keeps the value exactly when the two
readings agree: a literal of code has no escape, the text of a template has no double quote, and the
text of an attribute has no backslash and no line break.
-/
namespace JsxCheck

open Grammar (IsStringLiteral)

/-! ### Strings of tags -/

def IsQuoted (quote : Char) (text value : String) : Prop :=
  text.toList = quote :: (value.toList ++ [quote]) ∧ quote ∉ value.toList

/-- A text is one string as tags have them: the value between two quotes of a kind that the value does
not have. -/
def IsTagString (text value : String) : Prop := IsQuoted '"' text value ∨ IsQuoted '\'' text value

instance (quote : Char) (text value : String) : Decidable (IsQuoted quote text value) :=
  inferInstanceAs (Decidable (_ ∧ _))

instance (text value : String) : Decidable (IsTagString text value) :=
  inferInstanceAs (Decidable (_ ∨ _))

theorem isTagString_iff {text value : String} :
    IsTagString text value ↔
      ∃ quote, (quote = '"' ∨ quote = '\'') ∧ IsQuoted quote text value := by
  constructor
  · rintro (double | single)
    · exact ⟨'"', Or.inl rfl, double⟩
    · exact ⟨'\'', Or.inr rfl, single⟩
  · rintro ⟨quote, rfl | rfl, quoted⟩
    · exact Or.inl quoted
    · exact Or.inr quoted

theorem quoted_inj {quote quote' : Char} {body body' : List Char}
    (same : quote :: (body ++ [quote]) = quote' :: (body' ++ [quote'])) :
    quote = quote' ∧ body = body' := by
  obtain ⟨rfl, rest⟩ := List.cons.inj same
  exact ⟨rfl, List.append_cancel_right rest⟩

/-- A literal of code means the same in a tag when it has no escape. -/
theorem IsTagString.of_literal_iff {text value : String} (literal : IsStringLiteral text value) :
    IsTagString text value ↔ '\\' ∉ text.toList := by
  obtain ⟨quote, body, quotes, form, spells⟩ := literal.exists_spells
  -- The quotes themselves are no backslashes.
  have outside : '\\' ∉ text.toList ↔ '\\' ∉ body := by
    rw [form]
    rcases quotes with rfl | rfl <;> simp
  rw [outside, isTagString_iff]
  constructor
  · rintro ⟨quote', _, same, _⟩
    obtain ⟨_, whole⟩ := quoted_inj (form.symm.trans same)
    exact spells.eq_iff.mp whole.symm
  · intro unescaped
    obtain ⟨whole, plain⟩ := spells.of_not_mem unescaped
    refine ⟨quote, quotes, by rw [form, whole], fun inside => ?_⟩
    rw [whole] at inside
    exact (plain quote inside).1 rfl

/-- Double quotes around a text make a string of it when it has none itself. -/
theorem IsTagString.of_quotes_iff {value : String} :
    IsTagString ("\"" ++ value ++ "\"") value ↔ '"' ∉ value.toList := by
  have form : ("\"" ++ value ++ "\"").toList = '"' :: (value.toList ++ ['"']) := by
    simp [String.toList_append]
  rw [isTagString_iff]
  constructor
  · rintro ⟨quote, _, same, absent⟩
    obtain ⟨rfl, _⟩ := quoted_inj (form.symm.trans same)
    exact absent
  · exact fun absent => ⟨'"', Or.inl rfl, form, absent⟩

/-- A string of a tag means the same in code when it has no backslash and stays on one line. -/
theorem IsTagString.isStringLiteral_iff {text value : String} (quoted : IsTagString text value) :
    IsStringLiteral text value ↔ ∀ c ∈ value.toList, c ≠ '\\' ∧ c ≠ '\n' ∧ c ≠ '\r' := by
  obtain ⟨quote, quotes, form, absent⟩ := isTagString_iff.mp quoted
  constructor
  · intro literal
    obtain ⟨quote', body, _, form', spells⟩ := literal.exists_spells
    obtain ⟨_, whole⟩ := quoted_inj (form.symm.trans form')
    have unescaped := spells.eq_iff.mp whole
    rw [whole]
    intro c inside
    exact ⟨fun same => unescaped (same ▸ inside), ((spells.of_not_mem unescaped).2 c inside).2⟩
  · intro plain
    refine Grammar.isStringLiteral_of_plain quotes form fun c inside => ⟨?_, plain c inside⟩
    rintro rfl
    exact absent inside

/-! ### Attributes and their strings -/

/-- The string an expression stands for: that of a literal, or of a template without expressions. -/
def Node.stringValue? : Node → Option String
  | .mk (.expr (.string value)) _ _ => some value
  | .mk (.expr .template) _ [.mk (.templateChunk cooked) _ _] => some cooked
  | _ => none

/-- What an attribute is given as a string that should be written the other way: where it stands, and
the string. -/
def Attribute.misbraced? (usage : Usage) (a : Attribute) : Option (Span × String) :=
  match usage with
  | .always => a.string?
  | .never => do return ((← a.container?).span, ← (← a.expression?).stringValue?)

/-- A text gives an attribute a string in the way that is asked for. -/
def Usage.Gives (usage : Usage) (text value : String) : Prop :=
  match usage with
  | .always => ∃ literal, text = "\x7b" ++ literal ++ "\x7d" ∧ IsStringLiteral literal value
  | .never => IsTagString text value

/-- The way a string is written in code means the same in a tag. -/
def Node.Movable (doc : Document) : Node → Prop
  | .mk (.expr (.string _)) span _ => '\\' ∉ (doc.text span).toList
  | .mk (.expr .template) _ [.mk (.templateChunk cooked) _ _] => '"' ∉ cooked.toList
  | _ => True

/-- The way a string is written means the same inside braces and outside. -/
def Attribute.Movable (usage : Usage) (doc : Document) (a : Attribute) : Prop :=
  match usage with
  | .always => ∀ written ∈ a.string?, ∀ c ∈ written.2.toList, c ≠ '\\' ∧ c ≠ '\n' ∧ c ≠ '\r'
  | .never => ∀ e ∈ a.expression?, e.Movable doc

def Node.literal? (n : Node) : Option String :=
  match n.expr? with
  | some (.string value) => some value
  | _ => none

/-- The strings of a tree are those its text has: literals in code, and quoted texts in tags. -/
structure Node.WellQuoted (source : Source) (root : Node) : Prop where
  literals : ∀ n ∈ root.preorder, ∀ value ∈ n.literal?, IsStringLiteral (source.slice n.span) value
  attributes : ∀ n ∈ root.preorder, ∀ o ∈ n.opening?, ∀ a ∈ o.attributes, ∀ written ∈ a.string?,
    IsTagString (source.slice written.1) written.2

instance (source : Source) (root : Node) : Decidable (root.WellQuoted source) :=
  decidable_of_iff
    ((∀ n ∈ root.preorder, ∀ value ∈ n.literal?, IsStringLiteral (source.slice n.span) value)
      ∧ ∀ n ∈ root.preorder, ∀ o ∈ n.opening?, ∀ a ∈ o.attributes, ∀ written ∈ a.string?,
        IsTagString (source.slice written.1) written.2)
    ⟨fun ⟨a, b⟩ => ⟨a, b⟩, fun ⟨a, b⟩ => ⟨a, b⟩⟩

variable {doc : Document}

namespace Usage

theorem gives_braces_iff {literal value : String} :
    always.Gives ("\x7b" ++ literal ++ "\x7d") value ↔ IsStringLiteral literal value := by
  constructor
  · rintro ⟨literal', same, is⟩
    have chars := congrArg String.toList same
    simp only [String.toList_append] at chars
    have inner := List.append_cancel_left (List.append_cancel_right chars)
    rwa [String.toList_inj.mp inner]
  · exact fun is => ⟨literal, rfl, is⟩

end Usage

namespace Rule

theorem unbraced?_eq_none {e : Node} (other : e.stringValue? = none) : unbraced? doc e = none := by
  unfold unbraced?
  split
  · cases other
  · cases other
  · rfl

/-- The text that an expression is replaced by keeps its string when the expression is movable. -/
theorem exists_unbraced {e : Node} {value : String} (stands : e.stringValue? = some value)
    (literal : ∀ value ∈ e.literal?, IsStringLiteral (doc.text e.span) value) :
    ∃ text, unbraced? doc e = some text ∧ (IsTagString text value ↔ e.Movable doc) := by
  revert stands literal
  fun_cases Node.stringValue? e with
  | case1 written span parts =>
    intro stands literal
    obtain rfl := Option.some.inj stands
    exact ⟨doc.text span, rfl, IsTagString.of_literal_iff (literal written rfl)⟩
  | case2 span cooked chunk parts =>
    intro stands _
    obtain rfl := Option.some.inj stands
    exact ⟨_, rfl, IsTagString.of_quotes_iff⟩
  | case3 => nofun

/-- A diagnostic stands at a string that is written the other way. It has one fix, which gives the
attribute the same string exactly when the string can be moved as it is written. -/
def Misbraced (usage : Usage) (doc : Document) (written : Attribute × Span × String) (d : Diagnostic) :
    Prop :=
  d.span = written.2.1 ∧ ∃ text, d.fixes = [⟨written.2.1, text, none⟩] ∧
    (usage.Gives text written.2.2 ↔ written.1.Movable usage doc)

theorem bracePresenceOf_always_spec {a : Attribute}
    (quoted : ∀ written ∈ a.string?, IsTagString (doc.text written.1) written.2) :
    List.Forall₂ (Misbraced .always doc) ((a.misbraced? .always).map (a, ·)).toList
      (bracePresenceOf .always doc a) := by
  unfold bracePresenceOf Attribute.misbraced?
  cases given : a.string? with
  | none => exact List.Forall₂.nil
  | some written =>
    obtain ⟨span, value⟩ := written
    refine List.Forall₂.cons ⟨rfl, _, rfl, ?_⟩ List.Forall₂.nil
    rw [Usage.gives_braces_iff, (quoted _ given).isStringLiteral_iff]
    simp only [Attribute.Movable, given, Option.mem_some, forall_eq']

theorem bracePresenceOf_never_spec {a : Attribute}
    (literal : ∀ e ∈ a.expression?, ∀ value ∈ e.literal?, IsStringLiteral (doc.text e.span) value) :
    List.Forall₂ (Misbraced .never doc) ((a.misbraced? .never).map (a, ·)).toList
      (bracePresenceOf .never doc a) := by
  unfold bracePresenceOf Attribute.misbraced?
  cases braces : a.container? with
  | none => exact List.Forall₂.nil
  | some container =>
    cases given : a.expression? with
    | none => exact List.Forall₂.nil
    | some e =>
      cases stands : e.stringValue? with
      | none =>
        rw [Option.bind_some, unbraced?_eq_none stands]
        simp only [Option.bind_eq_bind, Option.bind_some, stands, Option.bind_none, Option.map_none]
        exact List.Forall₂.nil
      | some value =>
        obtain ⟨text, unbraced, keeps⟩ := exists_unbraced stands (literal e given)
        simp only [Option.bind_eq_bind, Option.bind_some, unbraced, stands, Option.pure_def,
          Option.map_some]
        refine List.Forall₂.cons ⟨rfl, text, rfl, keeps.trans ?_⟩ List.Forall₂.nil
        simp only [Attribute.Movable, given, Option.mem_some, forall_eq']

/-- In every opening tag exactly the attributes whose strings are written the other way are reported, in
their order and each once. The one fix of a report replaces what the attribute is given, and it gives the
attribute the same string exactly when the string can be moved as it is written. -/
theorem bracePresence_keeps_string_iff {root n : Node} {o : Opening} (options : BracePresenceOptions)
    (quoted : root.WellQuoted doc.source) (inside : n ∈ root.preorder) (view : n.opening? = some o) :
    List.Forall₂ (Misbraced options.props doc)
      (o.attributes.filterMap fun a => (a.misbraced? options.props).map (a, ·))
      (bracePresence options doc o) := by
  -- Of each attribute at most one thing is said, so both lists are put together from the same parts.
  rw [List.filterMap_eq_flatMap_toList]
  refine List.rel_flatMap (R := fun a b => a = b ∧ a ∈ o.attributes)
    (List.forall₂_same.mpr fun a listed => ⟨rfl, listed⟩) ?_
  rintro a _ ⟨rfl, listed⟩
  cases options.props with
  | always => exact bracePresenceOf_always_spec (quoted.attributes n inside o view a listed)
  | never =>
    refine bracePresenceOf_never_spec fun e given => ?_
    exact quoted.literals e (Node.preorder_trans (Node.expression_mem_preorder view listed given) inside)

/-- A text with an escape in braces. -/
def escapedText : String := "<a b=\x7b\"c\\\\d\"\x7d e=\x7b'f'\x7d />;"

set_option maxRecDepth 100000 in
theorem bracePresence_keeps_string_iff_of_escapedText :
    ∃ program, Program.parse ⟨escapedText⟩ (FileName.dialect "a.tsx") = .ok program ∧
      program.root.WellQuoted ⟨escapedText⟩ ∧
      let doc := Document.ofText escapedText (FileName.dialect "a.tsx") (some "a.tsx") program.comments
      ∃ n ∈ program.root.preorder, ∃ o ∈ n.opening?,
        (bracePresence ⟨.never⟩ doc o).map (·.fixes) =
          [[⟨⟨5, 13⟩, "\"c\\\\d\"", none⟩], [⟨⟨16, 21⟩, "'f'", none⟩]] ∧
        ¬ Usage.never.Gives "\"c\\\\d\"" "c\\d" ∧ Usage.never.Gives "'f'" "f" ∧
        List.Forall₂ (Misbraced .never doc)
          (o.attributes.filterMap fun a => (a.misbraced? .never).map (a, ·))
          (bracePresence ⟨.never⟩ doc o) := by
  have parsed : ∃ program, Program.parse ⟨escapedText⟩ (FileName.dialect "a.tsx") = .ok program ∧
      program.root.WellQuoted ⟨escapedText⟩ ∧
      ∃ n ∈ program.root.preorder, ∃ o ∈ n.opening?,
        (bracePresence ⟨.never⟩ (.ofText escapedText (FileName.dialect "a.tsx") (some "a.tsx")
          program.comments) o).map (·.fixes) =
          [[⟨⟨5, 13⟩, "\"c\\\\d\"", none⟩], [⟨⟨16, 21⟩, "'f'", none⟩]] :=
    Program.exists_parse (by decide +kernel)
  obtain ⟨program, parse, quoted, n, inside, o, view, fixes⟩ := parsed
  exact ⟨program, parse, quoted, n, inside, o, view, fixes,
    show ¬ IsTagString _ _ by decide, show IsTagString _ _ by decide,
    bracePresence_keeps_string_iff ⟨.never⟩ quoted inside view⟩

end Rule

end JsxCheck
