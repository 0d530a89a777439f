import JsxCheck.Diagnostic

/-!
The rules by name.
-/
namespace JsxCheck

inductive RuleName where
  | componentNoProptypes
  | jsxAlignment
  | jsxBanElements
  | jsxBanProps
  | jsxBooleanValue
  | jsxCurlyBracePresence
  | jsxCurlySpacing
  | jsxEqualsSpacing
  | jsxKey
  | jsxNamedPropInterface
  | jsxNoArrayLiteralProps
  | jsxNoBind
  | jsxNoBindProps
  | jsxNoJsxLiteralProps
  | jsxNoLambda
  | jsxNoLambdaProps
  | jsxNoMethodRef
  | jsxNoMultilineJs
  | jsxNoObjectLiteralProps
  | jsxNoStringRef
  | jsxPreferFragment
  | jsxPropSorting
  | jsxSelfClose
  | jsxSortProps
  | jsxSpaceBeforeTrailingSlash
  | jsxUseTranslationFunction
  | jsxWhitespaceLiteral
  | jsxWrapMulitlines
  | jsxWrapMultiline
  | noAccessStateInSetstate
  | noStringRef
  | reactComponentClassesShouldImplementScu
  | reactNoUnnecessaryFragment
  | reactPureComponentsHavePrimitiveAttributes
  | reactPureComponentsHaveSimpleAttributes
  deriving DecidableEq, Inhabited, Repr

namespace RuleName

/-- The name by which a rule is configured and reported. -/
def text : RuleName → String
  | componentNoProptypes => "component-no-proptypes"
  | jsxAlignment => "jsx-alignment"
  | jsxBanElements => "jsx-ban-elements"
  | jsxBanProps => "jsx-ban-props"
  | jsxBooleanValue => "jsx-boolean-value"
  | jsxCurlyBracePresence => "jsx-curly-brace-presence"
  | jsxCurlySpacing => "jsx-curly-spacing"
  | jsxEqualsSpacing => "jsx-equals-spacing"
  | jsxKey => "jsx-key"
  | jsxNamedPropInterface => "jsx-named-prop-interface"
  | jsxNoArrayLiteralProps => "jsx-no-array-literal-props"
  | jsxNoBind => "jsx-no-bind"
  | jsxNoBindProps => "jsx-no-bind-props"
  | jsxNoJsxLiteralProps => "jsx-no-jsx-literal-props"
  | jsxNoLambda => "jsx-no-lambda"
  | jsxNoLambdaProps => "jsx-no-lambda-props"
  | jsxNoMethodRef => "jsx-no-method-ref"
  | jsxNoMultilineJs => "jsx-no-multiline-js"
  | jsxNoObjectLiteralProps => "jsx-no-object-literal-props"
  | jsxNoStringRef => "jsx-no-string-ref"
  | jsxPreferFragment => "jsx-prefer-fragment"
  | jsxPropSorting => "jsx-prop-sorting"
  | jsxSelfClose => "jsx-self-close"
  | jsxSortProps => "jsx-sort-props"
  | jsxSpaceBeforeTrailingSlash => "jsx-space-before-trailing-slash"
  | jsxUseTranslationFunction => "jsx-use-translation-function"
  | jsxWhitespaceLiteral => "jsx-whitespace-literal"
  | jsxWrapMulitlines => "jsx-wrap-mulitlines"
  | jsxWrapMultiline => "jsx-wrap-multiline"
  | noAccessStateInSetstate => "no-access-state-in-setstate"
  | noStringRef => "no-string-ref"
  | reactComponentClassesShouldImplementScu => "react-component-classes-should-implement-scu"
  | reactNoUnnecessaryFragment => "react-no-unnecessary-fragment"
  | reactPureComponentsHavePrimitiveAttributes => "react-pure-components-have-primitive-attributes"
  | reactPureComponentsHaveSimpleAttributes => "react-pure-components-have-simple-attributes"

/-- Every rule, in increasing order of its name. -/
def all : List RuleName := [
  .componentNoProptypes, .jsxAlignment, .jsxBanElements, .jsxBanProps, .jsxBooleanValue,
  .jsxCurlyBracePresence, .jsxCurlySpacing, .jsxEqualsSpacing, .jsxKey, .jsxNamedPropInterface,
  .jsxNoArrayLiteralProps, .jsxNoBind, .jsxNoBindProps, .jsxNoJsxLiteralProps, .jsxNoLambda,
  .jsxNoLambdaProps, .jsxNoMethodRef, .jsxNoMultilineJs, .jsxNoObjectLiteralProps,
  .jsxNoStringRef, .jsxPreferFragment, .jsxPropSorting, .jsxSelfClose, .jsxSortProps,
  .jsxSpaceBeforeTrailingSlash, .jsxUseTranslationFunction, .jsxWhitespaceLiteral,
  .jsxWrapMulitlines, .jsxWrapMultiline, .noAccessStateInSetstate, .noStringRef,
  .reactComponentClassesShouldImplementScu, .reactNoUnnecessaryFragment,
  .reactPureComponentsHavePrimitiveAttributes, .reactPureComponentsHaveSimpleAttributes]

theorem mem_all (r : RuleName) : r ∈ all := by cases r <;> decide

def ofText? (name : String) : Option RuleName := all.find? (·.text == name)

theorem ofText?_text (r : RuleName) : ofText? r.text = some r := by cases r <;> decide

theorem text_injective {r s : RuleName} (h : r.text = s.text) : r = s := by
  have same := (ofText?_text r).symm.trans (h ▸ ofText?_text s)
  exact Option.some.inj same

/-- What a rule reports: a warning under its name. -/
def warning (r : RuleName) (span : Span) (message : String) : Diagnostic :=
  { rule := r.text, span, message }

end RuleName

end JsxCheck
