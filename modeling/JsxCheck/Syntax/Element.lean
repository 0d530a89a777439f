import JsxCheck.Syntax.Tag
import JsxCheck.Syntax.Walk
import JsxCheck.Source.Text
import JsxCheck.Text.Blank

/-!
Elements, their attributes and their children.
-/
namespace JsxCheck

/-- `name`, `name="text"`, `name={value}` or `name=<element />`. -/
structure Attribute where
  span : Span
  /-- The name as it is written, `ns:name` for a name with a namespace. -/
  name : String
  nameSpan : Span
  value : Option Node
  deriving Inhabited

namespace Attribute

/-- The braces of `name={…}`. -/
def container? (a : Attribute) : Option Node := do
  match ← a.value with
  | .mk .jsxContainer s cs => some (.mk .jsxContainer s cs)
  | _ => none

/-- The expression of `name={value}`. -/
def expression? (a : Attribute) : Option Node := do
  match ← a.value with
  | .mk .jsxContainer _ [e] => if e.isExpr then some e else none
  | _ => none

/-- The literal of `name="text"`, with the text it stands for. -/
def string? (a : Attribute) : Option (Span × String) := do
  match ← a.value with
  | .mk (.exprPart (.string text)) s _ => some (s, text)
  | _ => none

/-- Where the attribute is given a string: the literal of `name="x"`, or the braces of `name={"x"}`
and of a template in braces. -/
def stringSpan? (a : Attribute) : Option Span :=
  match a.string?, a.container?, a.expression? with
  | some (span, _), _, _ => some span
  | none, some container, some e =>
    match e.expr? with
    | some (.string _) | some .template => some container.span
    | _ => none
  | _, _, _ => none

end Attribute

/-- What stands in an opening tag after its name. -/
inductive AttributeItem where
  | named (attr : Attribute)
  /-- `{...argument}` -/
  | spread (span : Span) (argument : Node)
  deriving Inhabited

namespace AttributeItem

def span : AttributeItem → Span
  | named a => a.span
  | spread s _ => s

def attribute? : AttributeItem → Option Attribute
  | named a => some a
  | spread _ _ => none

/-- The expressions an item hands to properties: the one in braces with its attribute, or the values
written out in a spread, which belong to none. -/
def values : AttributeItem → List (Option Attribute × Node)
  | named a => a.expression?.toList.map (some a, ·)
  | spread _ argument => argument.propertyValues.map (none, ·)

end AttributeItem

structure Opening where
  span : Span
  name : Node
  items : List AttributeItem
  deriving Inhabited

namespace Opening

def tagName (o : Opening) : String := o.name.tagName

def attributes (o : Opening) : List Attribute := o.items.filterMap AttributeItem.attribute?

def find? (o : Opening) (name : String) : Option Attribute :=
  o.attributes.find? (·.name == name)

/-- The expressions handed to properties by all items. -/
def values (o : Opening) : List (Option Attribute × Node) := o.items.flatMap AttributeItem.values

end Opening

/-- `<tag …>children</tag>` or `<tag … />`. -/
structure Element where
  span : Span
  opening : Opening
  children : List Node
  closing : Option Node
  deriving Inhabited

namespace Element

def tagName (e : Element) : String := e.opening.tagName

def isSelfClosing (e : Element) : Bool := e.closing.isNone

/-- The tag of a fragment written by name. -/
def isFragmentName (name : String) : Bool := name == "Fragment" || name == "React.Fragment"

def isFragment (e : Element) : Bool := isFragmentName e.tagName

end Element

namespace Node

/-- The node is text of white space only. -/
def isBlankText (source : Source) : Node → Bool
  | mk .jsxText s _ => JsxCheck.isBlankText (source.slice s)
  | _ => false

def attributeItem? : Node → Option AttributeItem
  | mk .jsxAttribute s (name :: value) =>
    some (.named ⟨s, name.tagName, name.span, value.head?⟩)
  | mk .jsxSpreadAttribute s [argument] => some (.spread s argument)
  | _ => none

def opening? : Node → Option Opening
  | mk .jsxOpening s (name :: rest) => some ⟨s, name, rest.filterMap attributeItem?⟩
  | _ => none

/-- The closing tag among the parts of an element after its opening tag. -/
def isClosing : Node → Bool
  | mk .jsxClosing _ _ => true
  | _ => false

/-- The node stands around the children of an element or a fragment and is none of them. -/
def isTag (n : Node) : Bool :=
  match n.kind with
  | .jsxOpening | .jsxClosing | .jsxFragmentOpening | .jsxFragmentClosing => true
  | _ => false

/-- An element, wherever it stands. -/
def isJsxElement (n : Node) : Bool := n.form? == some .jsxElement

def element? (n : Node) : Option Element :=
  match n.form?, n.children with
  | some .jsxElement, first :: rest => do
    let opening ← first.opening?
    some ⟨n.span, opening, rest.filter (!·.isClosing), rest.find? isClosing⟩
  | _, _ => none

/-- The children of `<>…</>`. -/
def fragmentChildren? (n : Node) : Option (List Node) :=
  match n.form? with
  | some .jsxFragment =>
    some (n.children.filter fun child =>
      match child.kind with
      | .jsxFragmentOpening | .jsxFragmentClosing => false
      | _ => true)
  | _ => none

end Node

end JsxCheck
