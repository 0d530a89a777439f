import JsxCheck.Rule.Name
import JsxCheck.Source.Document
import JsxCheck.Syntax.Element

/-!
Values that are made anew on every render: functions, bound functions, arrays, objects, elements.

The narrow rules look at the value of an attribute itself; the wide ones search the whole value,
and the values written out in spreads.
-/
namespace JsxCheck.Rule

/-- Every attribute value, without parentheses, that satisfies a predicate. -/
def valuesThat (p : Node → Bool) (o : Opening) : List Node :=
  (o.attributes.filterMap fun a => a.expression?.map Node.unwrapParens).filter p

/-- The outermost expressions that satisfy a predicate, in all values handed to properties other
than those of the attributes left out. -/
def searchedValues (p : Node → Bool) (leaveOut : Attribute → Bool) (o : Opening) : List Node :=
  o.values.flatMap fun (owner, value) => if owner.any leaveOut then [] else value.matching p

/-- A diagnostic at each node. -/
def warnAt (r : RuleName) (message : String) (nodes : List Node) : List Diagnostic :=
  nodes.map fun n => r.warning n.span message

def isArray (n : Node) : Bool := n.expr? == some .array

def isObject (n : Node) : Bool := n.expr? == some .object

def isElement (n : Node) : Bool := n.expr? == some .jsxElement

/-- A call whose text holds the given words. -/
def isCallWith (doc : Document) (words : String) (n : Node) : Bool :=
  n.expr? == some .call && containsText (doc.text n.span) words

def noArrayLiteralProps (o : Opening) : List Diagnostic :=
  warnAt .jsxNoArrayLiteralProps
    ("Array literal properties are forbidden in JSX attributes due to their rendering "
      ++ "performance impact")
    (valuesThat isArray o)

def noLambda (o : Opening) : List Diagnostic :=
  warnAt .jsxNoLambda
    "Lambdas are forbidden in JSX attributes due to their rendering performance impact"
    (valuesThat Node.isFunctionLike o)

def bindMessage : String :=
  "Binds are forbidden in JSX attributes due to their rendering performance impact"

/-- Calls that bind `this`, as the whole value of an attribute. -/
def noBind (doc : Document) (o : Opening) : List Diagnostic :=
  warnAt .jsxNoBind bindMessage
    ((o.attributes.filterMap Attribute.expression?).filter (isCallWith doc ".bind(this)"))

/-- Calls that bind anything, anywhere in a value. -/
def noBindProps (doc : Document) (o : Opening) : List Diagnostic :=
  warnAt .jsxNoBindProps bindMessage
    (searchedValues (isCallWith doc ".bind(") (fun _ => false) o)

def noJsxLiteralProps (o : Opening) : List Diagnostic :=
  warnAt .jsxNoJsxLiteralProps
    ("JSX literal properties are forbidden in JSX attributes due to their rendering "
      ++ "performance impact")
    (searchedValues isElement (fun _ => false) o)

/-- Functions anywhere in a value. The value of `ref` is no property, so a new function there
renders nothing again. -/
def noLambdaProps (o : Opening) : List Diagnostic :=
  warnAt .jsxNoLambdaProps
    ("Lambda expressions in JSX create new references on every render and can cause unnecessary "
      ++ "rerenders (jsx-no-lambda-props)")
    (searchedValues Node.isFunctionLike (·.name == "ref") o)

def noObjectLiteralProps (o : Opening) : List Diagnostic :=
  warnAt .jsxNoObjectLiteralProps
    ("Object literal properties are forbidden in JSX attributes due to their rendering "
      ++ "performance impact")
    (searchedValues isObject (fun _ => false) o)

end JsxCheck.Rule
