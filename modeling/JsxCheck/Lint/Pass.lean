import JsxCheck.Config.Basic
import JsxCheck.Lint.Check
import JsxCheck.Lint.Walk
import JsxCheck.Report

/-!
The pass over a program that hands every node to every rule that runs.

Nodes are visited in pre-order, so what is said about a node comes before what is said about the
nodes inside it. Among what is said about one node, the rules follow each other in a fixed order.
-/
namespace JsxCheck

/-- The order in which rules speak about a node. -/
def RuleName.speakingOrder : List RuleName := [
  .jsxBanElements, .jsxBanProps, .jsxBooleanValue, .jsxCurlyBracePresence, .jsxEqualsSpacing,
  .jsxNoArrayLiteralProps, .jsxNoBind, .jsxNoBindProps, .jsxNoJsxLiteralProps, .jsxNoLambda,
  .jsxNoLambdaProps, .jsxNoObjectLiteralProps, .jsxNoStringRef, .noStringRef, .jsxSortProps,
  .jsxAlignment, .jsxSelfClose, .jsxSpaceBeforeTrailingSlash, .jsxPreferFragment,
  .reactNoUnnecessaryFragment, .jsxUseTranslationFunction, .jsxWrapMulitlines, .jsxWrapMultiline,
  .jsxCurlySpacing, .jsxNoMultilineJs, .jsxWhitespaceLiteral, .jsxKey, .noAccessStateInSetstate,
  .reactComponentClassesShouldImplementScu, .jsxNamedPropInterface, .jsxPropSorting,
  .reactPureComponentsHavePrimitiveAttributes, .componentNoProptypes]

/-- What the rules of a configuration say about one node. -/
def Config.checkVisit (c : Config) (doc : Document) (v : Visit) (position : Position) :
    List Diagnostic :=
  RuleName.speakingOrder.flatMap fun r =>
    match c.setting r with
    | some options => r.check options doc v position
    | none => []

/-- What the rules of a configuration say about the nodes of a program. -/
def Config.check (c : Config) (doc : Document) (root : Node) : Report :=
  ⟨Walk.findings (c.checkVisit doc) root⟩

end JsxCheck
