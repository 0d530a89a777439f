import JsxCheck.Proofs.Syntax.Views
import JsxCheck.Rule.Children.Keys

/-!
Elements of lists and their keys.

What is asked for here is told of the tree itself: which callback a call of `map` is handed, what the
callback gives back, and what gives an element a key. The searches of the rule find just that.
-/
namespace JsxCheck

open Node

/-- What a spread spreads. -/
def AttributeItem.argument? : AttributeItem → Option Node
  | named _ => none
  | spread _ argument => some argument

namespace Node

/-- The first node of a list that has a property. -/
def IsFirst (p : Node → Prop) (nodes : List Node) (n : Node) : Prop :=
  p n ∧ ∃ before after, nodes = before ++ n :: after ∧ ∀ m ∈ before, ¬ p m

/-- What is called is a member `map`, and the node is the first argument. -/
def IsMapCallback (call callback : Node) : Prop :=
  ∃ callee rest, call.children = callee :: rest ∧ callee.kind = .expr .member ∧
    (∃ object name, callee.children = [object, name] ∧ name.kind = .name "map") ∧
    IsFirst (·.kind ≠ .typeArguments) rest callback

/-- The value is the body of a concise arrow, or it is the argument of the first `return` among the
statements of another function. -/
def Returns (function value : Node) : Prop :=
  ∃ body statement, IsFirst (·.kind = .functionBody) function.children body ∧
    ((function.kind = .expr (.arrow true) ∧ IsFirst (·.kind ≠ .directive) body.children statement ∧
        statement.kind = .expressionStatement ∧ statement.children = [value]) ∨
      ((function.kind = .expr (.arrow false) ∨ function.kind = .expr .function) ∧
        IsFirst (·.kind = .returnStatement) body.children statement ∧
        statement.children.head? = some value))

/-- The element has an attribute `key`, or it spreads an object literal that has a property with a certain
key. -/
def GivesKey (n : Node) (certain : Node → Prop) : Prop :=
  ∃ e, n.element? = some e ∧ ((∃ a ∈ e.opening.attributes, a.name = "key") ∨
    ∃ item ∈ e.opening.items, ∃ object ∈ item.argument?, object.kind = .expr .object ∧
      ∃ property ∈ object.children, (∃ form, property.kind = .property form) ∧
        ∃ key ∈ property.children.head?, certain key)

/-! ### The first of some nodes -/

variable {p : Node → Prop} {q : Node → Bool} {nodes : List Node} {n m : Node}

theorem find?_eq_some_iff_isFirst (same : ∀ m, q m = true ↔ p m) :
    nodes.find? q = some n ↔ IsFirst p nodes n := by
  simp only [List.find?_eq_some_iff_append, IsFirst, same, Bool.not_eq_true', ← Bool.not_eq_true]

theorem head?_filter_eq_some_iff_isFirst [DecidablePred p] :
    (nodes.filter fun m => p m).head? = some n ↔ IsFirst p nodes n := by
  rw [List.head?_filter]
  exact find?_eq_some_iff_isFirst fun m => decide_eq_true_iff

theorem isFirst_cons_of_pos (holds : p m) : IsFirst p (m :: nodes) n ↔ n = m := by
  constructor
  · rintro ⟨_, before, after, shape, none⟩
    cases before with
    | nil => exact (List.cons.inj shape).1.symm
    | cons first rest =>
      obtain ⟨rfl, _⟩ := List.cons.inj shape
      exact absurd holds (none m List.mem_cons_self)
  · rintro rfl
    exact ⟨holds, [], nodes, rfl, nofun⟩

theorem isFirst_cons_of_neg (fails : ¬ p m) : IsFirst p (m :: nodes) n ↔ IsFirst p nodes n := by
  constructor
  · rintro ⟨holds, before, after, shape, none⟩
    cases before with
    | nil =>
      obtain ⟨rfl, _⟩ := List.cons.inj shape
      exact absurd holds fails
    | cons first rest =>
      obtain ⟨rfl, behind⟩ := List.cons.inj shape
      exact ⟨holds, rest, after, behind, fun k listed => none k (List.mem_cons_of_mem _ listed)⟩
  · rintro ⟨holds, before, after, rfl, none⟩
    exact ⟨holds, m :: before, after, rfl, List.forall_mem_cons.mpr ⟨fails, none⟩⟩

theorem isFirst_filter_iff {r : Node → Prop} [DecidablePred r] (kept : ∀ m, p m → r m) :
    IsFirst p (nodes.filter fun m => r m) n ↔ IsFirst p nodes n := by
  induction nodes with
  | nil => rfl
  | cons m rest ih =>
    by_cases holds : p m
    · rw [List.filter_cons_of_pos (by simpa using kept m holds), isFirst_cons_of_pos holds,
        isFirst_cons_of_pos holds]
    · rw [isFirst_cons_of_neg holds, ← ih]
      by_cases stays : r m
      · rw [List.filter_cons_of_pos (by simpa using stays), isFirst_cons_of_neg holds]
      · rw [List.filter_cons_of_neg (by simpa using stays)]

theorem IsFirst.mem (first : IsFirst p nodes n) : n ∈ nodes := by
  obtain ⟨_, before, after, rfl, _⟩ := first
  exact List.mem_append_right _ List.mem_cons_self

/-! ### Where a callback and its value stand -/

theorem expr?_eq_some_iff {form : Expr} : n.expr? = some form ↔ n.kind = .expr form := by
  unfold expr?
  split <;> simp_all

theorem IsMapCallback.mem_tail {call callback : Node} (handed : call.IsMapCallback callback) :
    callback ∈ call.children.tail := by
  obtain ⟨callee, rest, parts, _, _, first⟩ := handed
  rw [parts]
  exact first.mem

theorem IsMapCallback.mem_preorder {call callback : Node} (handed : call.IsMapCallback callback) :
    callback ∈ call.preorder :=
  mem_preorder_of_child (List.mem_of_mem_tail handed.mem_tail)

/-- What a function gives back stands in a statement of its body. -/
theorem Returns.inside {function value : Node} (returned : function.Returns value) :
    ((∃ concise, function.kind = .expr (.arrow concise)) ∨ function.kind = .expr .function) ∧
      ∃ body ∈ function.children, body.kind = .functionBody ∧ ∃ s ∈ body.children,
        (s.kind = .expressionStatement ∨ s.kind = .returnStatement) ∧ value ∈ s.children := by
  obtain ⟨body, s, isBody, ⟨kind, first, isExpression, parts⟩ | ⟨kind, first, argument⟩⟩ := returned
  · exact ⟨Or.inl ⟨_, kind⟩, body, isBody.mem, isBody.1, s, first.mem, Or.inl isExpression,
      by rw [parts]; exact List.mem_singleton_self _⟩
  · exact ⟨kind.imp (⟨_, ·⟩) id, body, isBody.mem, isBody.1, s, first.mem, Or.inr first.1,
      List.mem_of_head? argument⟩

theorem Returns.mem_preorder {function value : Node} (returned : function.Returns value) :
    value ∈ function.preorder := by
  obtain ⟨_, body, isBody, _, s, isStatement, _, isValue⟩ := returned.inside
  exact preorder_trans (mem_preorder_of_child isValue) <|
    preorder_trans (mem_preorder_of_child isStatement) (mem_preorder_of_child isBody)

theorem Parenthesizes.mem_preorder {value : Node} (wrapped : value.Parenthesizes n) :
    n ∈ value.preorder := by
  induction wrapped with
  | bare n => exact self_mem_preorder n
  | around s _ ih => exact preorder_trans ih (mem_preorder_of_child List.mem_cons_self)

end Node

namespace Rule

namespace Keys

variable {function value : Node}

/-! ### What a callback gives back -/

theorem firstReturn?_eq_some_iff {statements : List Node} :
    firstReturn? statements = some value ↔
      ∃ s, IsFirst (·.kind = .returnStatement) statements s ∧ s.children.head? = some value := by
  induction statements with
  | nil =>
    refine iff_of_false nofun ?_
    rintro ⟨s, ⟨_, before, after, shape, _⟩, _⟩
    cases before <;> cases shape
  | cons s rest ih =>
    by_cases isReturn : s.kind = .returnStatement
    · simp only [isFirst_cons_of_pos (p := fun m : Node => m.kind = .returnStatement) isReturn,
        exists_eq_left]
      obtain ⟨kind, span, argument⟩ := s
      obtain rfl : kind = .returnStatement := isReturn
      rfl
    · simp only [isFirst_cons_of_neg (p := fun m : Node => m.kind = .returnStatement) isReturn, ← ih]
      rw [firstReturn?]
      rintro span argument rfl
      exact isReturn rfl

theorem bodyOf?_eq_some_iff {statements : List Node} :
    bodyOf? function = some statements ↔ ∃ body, IsFirst (·.kind = .functionBody) function.children body ∧
      statements = body.children.filter (·.kind ≠ .directive) := by
  rw [bodyOf?, List.findSome?_eq_some_iff]
  constructor
  · rintro ⟨before, body, after, shape, found, none⟩
    split at found
    · cases found
      refine ⟨_, ⟨rfl, before, after, shape, ?_⟩, List.filter_congr fun s _ => by split <;> simp_all⟩
      rintro ⟨kind, span, children⟩ listed rfl
      cases none _ listed
    · cases found
  · rintro ⟨⟨kind, span, children⟩, ⟨rfl, before, after, shape, none⟩, rfl⟩
    refine ⟨before, _, after, shape, ?_, ?_⟩
    · exact congrArg some (List.filter_congr fun s _ => by split <;> simp_all)
    · intro c listed
      have other : c.kind ≠ .functionBody := none c listed
      split
      · exact absurd rfl other
      · rfl

/-- Directives in front of the statements are no `return`. -/
theorem firstReturn?_filter_eq_some_iff {statements : List Node} :
    firstReturn? (statements.filter (·.kind ≠ .directive)) = some value ↔
      ∃ s, IsFirst (·.kind = .returnStatement) statements s ∧ s.children.head? = some value := by
  rw [firstReturn?_eq_some_iff]
  refine exists_congr fun s => and_congr_left' (isFirst_filter_iff fun m isReturn => ?_)
  rw [isReturn]
  decide

theorem returned?_eq_some_iff : returned? function = some value ↔ function.Returns value := by
  constructor
  · intro found
    obtain ⟨statements, inBody, found⟩ := Option.bind_eq_some_iff.mp found
    obtain ⟨body, isBody, rfl⟩ := bodyOf?_eq_some_iff.mp inBody
    -- By the form of the function: a concise arrow, an arrow with a block, and a function expression.
    split at found
    · rename_i concise
      split at found
      · rename_i span _ rest shape
        cases found
        have first : IsFirst (·.kind ≠ .directive) body.children
            (mk .expressionStatement span [value]) := by
          rw [← head?_filter_eq_some_iff_isFirst, shape]
          rfl
        exact ⟨body, _, isBody, Or.inl ⟨expr?_eq_some_iff.mp concise, first, rfl, rfl⟩⟩
      · cases found
    · rename_i block
      obtain ⟨s, first⟩ := firstReturn?_filter_eq_some_iff.mp found
      exact ⟨body, s, isBody, Or.inr ⟨Or.inl (expr?_eq_some_iff.mp block), first⟩⟩
    · rename_i expression
      obtain ⟨s, first⟩ := firstReturn?_filter_eq_some_iff.mp found
      exact ⟨body, s, isBody, Or.inr ⟨Or.inr (expr?_eq_some_iff.mp expression), first⟩⟩
    · cases found
  · rintro ⟨body, s, isBody, ⟨form, first, kind, parts⟩ | ⟨form, first⟩⟩
    · refine Option.bind_eq_some_iff.mpr ⟨_, bodyOf?_eq_some_iff.mpr ⟨body, isBody, rfl⟩, ?_⟩
      obtain ⟨rest, shape⟩ := List.head?_eq_some_iff.mp (head?_filter_eq_some_iff_isFirst.mpr first)
      rw [expr?_eq_some_iff.mpr form, shape]
      obtain ⟨_, span, _⟩ := s
      obtain rfl := kind
      obtain rfl := parts
      rfl
    · refine Option.bind_eq_some_iff.mpr ⟨_, bodyOf?_eq_some_iff.mpr ⟨body, isBody, rfl⟩, ?_⟩
      have found := firstReturn?_filter_eq_some_iff.mpr ⟨s, first⟩
      rcases form with form | form <;> rw [expr?_eq_some_iff.mpr form] <;> exact found

theorem mapArgument?_eq_some_iff {call callback : Node} :
    mapArgument? call = some callback ↔ call.IsMapCallback callback := by
  have arguments : ∀ {callee rest}, call.children = callee :: rest →
      (call.arguments.head? = some callback ↔ IsFirst (·.kind ≠ .typeArguments) rest callback) := by
    intro callee rest parts
    rw [Node.arguments, parts, List.tail_cons, List.head?_filter]
    refine find?_eq_some_iff_isFirst fun m => ?_
    unfold isTypeArguments
    split <;> simp_all
  unfold mapArgument? IsMapCallback
  constructor
  · intro found
    split at found
    · rename_i span object s parts callee
      obtain ⟨rest, shape⟩ := List.head?_eq_some_iff.mp callee
      exact ⟨_, rest, shape, rfl, ⟨object, _, rfl, rfl⟩, (arguments shape).mp found⟩
    · cases found
  · rintro ⟨⟨_, span, _⟩, rest, shape, kind, ⟨object, ⟨_, s, parts⟩, pair, name⟩, first⟩
    obtain rfl := kind
    obtain rfl := pair
    obtain rfl := name
    rw [callee?, shape]
    exact (arguments shape).mpr first

/-! ### Keys -/

theorem isKeyProperty_iff {n : Node} : isKeyProperty n = true ↔
    (∃ form, n.kind = .property form) ∧ ∃ key ∈ n.children.head?, key.kind = .name "key" := by
  unfold isKeyProperty
  split
  · simp [kind, children]
  · rename_i other
    refine iff_of_false Bool.false_ne_true ?_
    obtain ⟨k, span, parts⟩ := n
    rintro ⟨⟨form, isProperty⟩, ⟨_, s, cs⟩, first, name⟩
    obtain rfl : k = .property form := isProperty
    obtain rfl := name
    obtain ⟨rest, rfl⟩ := List.head?_eq_some_iff.mp first
    exact other form span _ s cs rest rfl

theorem isKeySpread_iff {item : AttributeItem} : isKeySpread item = true ↔
    ∃ object ∈ item.argument?, object.kind = .expr .object ∧
      ∃ property ∈ object.children, isKeyProperty property = true := by
  unfold isKeySpread
  split
  · simp [AttributeItem.argument?, kind, children]
  · rename_i other
    refine iff_of_false Bool.false_ne_true ?_
    rintro ⟨⟨_, s, properties⟩, spreads, kind, _⟩
    cases item with
    | named => cases spreads
    | spread span argument =>
      cases spreads
      cases kind
      exact other span s properties rfl

theorem hasKey_iff {n : Node} {e : Element} (view : n.element? = some e) :
    hasKey e.opening = true ↔ n.GivesKey (·.kind = .name "key") := by
  rw [hasKey, Bool.or_eq_true_iff, Opening.find?, List.find?_isSome, List.any_eq_true, GivesKey]
  simp only [view, Option.some.injEq, exists_eq_left', beq_iff_eq, isKeySpread_iff, isKeyProperty_iff]

theorem mem_missing_iff {n : Node} {e : Element} {d : Diagnostic} (view : n.element? = some e) :
    d ∈ missing n ↔ ¬ n.GivesKey (·.kind = .name "key") ∧
      d = RuleName.jsxKey.warning n.span "Missing \"key\" prop for element." := by
  rw [← hasKey_iff view, ← (element?_eq_some view).2.1, missing, view]
  dsimp only
  split <;> simp_all

end Keys

/-! ### What is said of a list -/

variable {d : Diagnostic}

theorem mem_keysOfArray_iff {array : Node} : d ∈ keysOfArray array ↔
    ∃ n ∈ array.children, n.kind = .expr .jsxElement ∧ d ∈ Keys.missing n := by
  simp only [keysOfArray, List.mem_flatMap, List.mem_filter, beq_iff_eq, expr?_eq_some_iff, and_assoc]

theorem mem_keyOfMapCall_iff {call : Node} : d ∈ keyOfMapCall call ↔
    ∃ callback value n, call.IsMapCallback callback ∧ callback.Returns value ∧
      value.Parenthesizes n ∧ n.kind = .expr .jsxElement ∧ d ∈ Keys.missing n := by
  unfold keyOfMapCall
  constructor
  · intro said
    split at said
    · rename_i value found
      obtain ⟨callback, handed, returned⟩ := Option.bind_eq_some_iff.mp found
      split at said
      · rename_i element
        exact ⟨callback, value, value.unwrapParens, Keys.mapArgument?_eq_some_iff.mp handed,
          Keys.returned?_eq_some_iff.mp returned, parenthesizes_unwrapParens value,
          expr?_eq_some_iff.mp (beq_iff_eq.mp element), said⟩
      · cases said
    · cases said
  · rintro ⟨callback, value, n, handed, returned, wrapped, kind, said⟩
    have found : (Keys.mapArgument? call).bind Keys.returned? = some value :=
      Option.bind_eq_some_iff.mpr ⟨callback, Keys.mapArgument?_eq_some_iff.mpr handed,
        Keys.returned?_eq_some_iff.mpr returned⟩
    have element := expr?_eq_some_iff.mpr kind
    have bare : value.unwrapParens = n := wrapped.unwrapParens_eq (by rw [element]; decide)
    rw [found]
    dsimp only
    rw [bare, element, if_pos (beq_self_eq_true _)]
    exact said

end Rule

end JsxCheck
