import JsxCheck.Rule.Attributes.Bans
import JsxCheck.Rule.Attributes.Forms
import JsxCheck.Rule.Attributes.FreshValues
import JsxCheck.Rule.Attributes.Order
import JsxCheck.Rule.Attributes.StringRefs
import JsxCheck.Rule.Attributes.Translation
import JsxCheck.Rule.Children.Fragments
import JsxCheck.Rule.Children.Keys
import JsxCheck.Rule.Components.Identifiers
import JsxCheck.Rule.Components.PrimitiveProps
import JsxCheck.Rule.Components.PropInterfaces
import JsxCheck.Rule.Components.State
import JsxCheck.Rule.Layout.Alignment
import JsxCheck.Rule.Layout.BraceSpacing
import JsxCheck.Rule.Layout.EqualsSpacing
import JsxCheck.Rule.Layout.NonBreakingSpace
import JsxCheck.Rule.Layout.TrailingSlash
import JsxCheck.Rule.Layout.Wrapping
import JsxCheck.Syntax.Visit
import JsxCheck.Text.Collation

/-!
What each rule has to say about one node.

A rule looks at the kinds of nodes it is about and says nothing about others. The rules that need to
know what names refer to say nothing here; they have a pass of their own.
-/
namespace JsxCheck

namespace Visit

def onOpening (check : Opening → List Diagnostic) (v : Visit) : List Diagnostic :=
  match v.node.opening? with
  | some opening => check opening
  | none => []

def onElement (check : Element → List Diagnostic) (v : Visit) : List Diagnostic :=
  match v.node.element? with
  | some element => check element
  | none => []

def onForm (form : Expr) (check : Node → List Diagnostic) (v : Visit) : List Diagnostic :=
  if v.node.form? = some form then check v.node else []

/-- Checks braces around a value, and spreads, by their spans and what stands in them. -/
def onBraces (container spread : Span → Node → List Diagnostic) (v : Visit) : List Diagnostic :=
  match v.node with
  | .mk .jsxContainer span [content] => container span content
  | .mk .jsxSpreadAttribute span [argument] => spread span argument
  | .mk .jsxSpreadChild span [argument] => spread span argument
  | _ => []

def onContainer (check : Node → List Diagnostic) (v : Visit) : List Diagnostic :=
  match v.node.kind with
  | .jsxContainer => check v.node
  | _ => []

def onText (check : Span → List Diagnostic) (v : Visit) : List Diagnostic :=
  match v.node.kind with
  | .jsxText => check v.node.span
  | _ => []

def onFragment (check : Span → List Node → List Diagnostic) (v : Visit) : List Diagnostic :=
  match v.node.fragmentChildren? with
  | some children => check v.node.span children
  | none => []

end Visit

/-- What a rule with some options says about a node of a document, which stands at a position. -/
def RuleName.check (r : RuleName) (options : r.Options) (doc : Document) (v : Visit)
    (position : Position) : List Diagnostic :=
  match r, options with
  | .componentNoProptypes, _ => Rule.noProptypes v.node
  | .jsxAlignment, _ => v.onElement (Rule.alignment doc)
  | .jsxBanElements, options => v.onOpening (Rule.banElements options doc)
  | .jsxBanProps, options => v.onOpening (Rule.banProps options)
  | .jsxBooleanValue, options => v.onOpening (Rule.booleanValue options)
  | .jsxCurlyBracePresence, options => v.onOpening (Rule.bracePresence options doc)
  | .jsxCurlySpacing, options =>
    v.onBraces (Rule.braceSpacing options doc) (Rule.spreadSpacing options doc)
  | .jsxEqualsSpacing, options => v.onOpening (Rule.equalsSpacing options doc)
  | .jsxKey, _ => v.onForm .array Rule.keysOfArray ++ v.onForm .call Rule.keyOfMapCall
  | .jsxNamedPropInterface, _ => Rule.namedPropInterface doc v.node
  | .jsxNoArrayLiteralProps, _ => v.onOpening Rule.noArrayLiteralProps
  | .jsxNoBind, _ => v.onOpening (Rule.noBind doc)
  | .jsxNoBindProps, _ => v.onOpening (Rule.noBindProps doc)
  | .jsxNoJsxLiteralProps, _ => v.onOpening Rule.noJsxLiteralProps
  | .jsxNoLambda, _ => v.onOpening Rule.noLambda
  | .jsxNoLambdaProps, _ => v.onOpening Rule.noLambdaProps
  | .jsxNoMethodRef, _ => []
  | .jsxNoMultilineJs, _ => v.onContainer (Rule.noMultilineJs doc)
  | .jsxNoObjectLiteralProps, _ => v.onOpening Rule.noObjectLiteralProps
  | .jsxNoStringRef, _ => v.onOpening (Rule.stringRef .jsxNoStringRef)
  | .jsxPreferFragment, options => v.onElement (Rule.preferFragment options)
  | .jsxPropSorting, _ => Rule.propSorting (Collation.order (some Collation.compare)) doc v.node
  | .jsxSelfClose, _ => v.onElement (Rule.selfClose doc)
  | .jsxSortProps, options => v.onOpening (Rule.sortProps options)
  | .jsxSpaceBeforeTrailingSlash, _ => v.onElement (Rule.spaceBeforeTrailingSlash doc)
  | .jsxUseTranslationFunction, _ =>
    v.onOpening Rule.translatedAttributes ++ v.onElement (Rule.translatedChildren doc)
  | .jsxWhitespaceLiteral, _ => v.onText (Rule.whitespaceLiteral doc)
  | .jsxWrapMulitlines, _ => v.onElement fun e => Rule.wrapMulitlines doc e position
  | .jsxWrapMultiline, _ => v.onElement fun e => Rule.wrapMultiline doc e position
  | .noAccessStateInSetstate, _ => v.onForm .call (Rule.noAccessState doc)
  | .noStringRef, _ => v.onOpening (Rule.stringRef .noStringRef)
  | .reactComponentClassesShouldImplementScu, _ => Rule.implementScu doc v.node
  | .reactNoUnnecessaryFragment, _ =>
    v.onElement (Rule.noUnnecessaryFragmentElement doc)
      ++ v.onFragment (Rule.noUnnecessaryFragment doc)
  | .reactPureComponentsHavePrimitiveAttributes, _ => Rule.primitiveAttributes doc v.node
  | .reactPureComponentsHaveSimpleAttributes, _ => []

end JsxCheck
