import JsxCheck.Source.Span

/-!
Programs as trees.

A program is a rose tree: every node has a kind, a span, and children in the order in which they
are visited. What a node of some kind holds is read out by the views in the modules beside this
one, so that walks over the whole tree need one case only.
-/
namespace JsxCheck

/-- How a method of a class or an object is declared. -/
inductive MethodForm where
  | method | getter | setter | constructor
  deriving DecidableEq, Inhabited

/-- How a property of an object literal is written. -/
structure PropertyForm where
  /-- `get` or `set` stands in front. -/
  isAccessor : Bool
  /-- Written `key() { }`. -/
  isMethod : Bool
  /-- Written `{ key }`. -/
  isShorthand : Bool
  deriving DecidableEq, Inhabited

/-- The word that opens a declaration of variables. -/
inductive VariableWord where
  | varWord | letWord | constWord | usingWord
  deriving DecidableEq, Inhabited

/-- Constructs of the expression grammar. -/
inductive Expr where
  | identifier (name : String)
  | this | super
  | null | boolean (value : Bool) | number | bigint | regexp | string (value : String)
  | template | taggedTemplate
  | array | object
  | function
  | arrow (concise : Bool)
  | classExpr
  | member | computedMember | privateMember
  | call | newCall | importCall | metaProperty
  | chain
  | unary | update | binary
  | logical (coalesces : Bool)
  | privateIn | conditional | assignment | sequence
  | await | yield
  | parenthesized
  | jsxElement | jsxFragment
  | asType | satisfiesType | typeAssertion | nonNull | instantiation
  deriving DecidableEq, Inhabited

/-- What a node is. -/
inductive Kind where
  /-- An expression that stands where an expression is asked for. -/
  | expr (form : Expr)
  /-- A construct of the expression grammar in another place: the target of an assignment, the
  outermost link of an optional chain, a child or an unbraced attribute value in JSX, a name in a
  type. -/
  | exprPart (form : Expr)
  -- names
  | name (text : String)
  | binding (text : String)
  | jsxName (text : String)
  | privateName (text : String)
  -- parts of expressions
  | elision | spread
  | property (form : PropertyForm)
  | templateChunk (cooked : String)
  -- functions
  | functionDeclaration | parameters | parameter | restParameter | thisParameter | functionBody
  -- classes
  | classDeclaration | heritage | implementsClause | classBody
  | method (form : MethodForm) (isStatic : Bool)
  | field | accessorField | staticBlock | decorator
  -- patterns that declare
  | objectPattern | patternProperty | arrayPattern | defaultPattern | restPattern
  -- patterns that assign
  | objectTarget | targetProperty | targetShorthand | arrayTarget | defaultTarget | restTarget
  -- statements
  | program | directive | expressionStatement | block | emptyStatement | debuggerStatement
  | ifStatement | whileStatement | doStatement | forStatement | forInStatement | forOfStatement
  | switchStatement | switchCase | tryStatement | catchClause | catchParameter
  | returnStatement | throwStatement | breakStatement | continueStatement | labeledStatement
  | withStatement
  | variables (word : VariableWord) | declarator
  -- modules
  | importDeclaration | importSpecifier | importDefault | importNamespace | importAttribute
  | exportNamed | exportSpecifier | exportDefault | exportAll
  | importEquals | externalModule | exportAssignment | exportNamespace
  -- declarations of types
  | interfaceDeclaration | interfaceBody | typeAlias | enumDeclaration | enumBody | enumMember
  | namespaceDeclaration | namespaceBlock | globalBlock
  -- types
  | ascription | typeReference | qualifiedName | typeArguments | typeParameters | typeParameter
  | typeLiteral | propertySignature | methodSignature | callSignature | constructSignature
  | indexSignature
  | keywordType | literalType | templateType | arrayType | tupleType | tupleMember | optionalType
  | restType | unionType | intersectionType | functionType | constructorType | conditionalType
  | inferType | mappedType | indexedAccessType | operatorType | typeQuery | importType
  | parenthesizedType | predicateType | thisType
  -- JSX
  | jsxOpening | jsxClosing | jsxFragmentOpening | jsxFragmentClosing
  | jsxMember | jsxNamespaced | jsxAttribute | jsxSpreadAttribute | jsxContainer | jsxEmpty
  | jsxSpreadChild | jsxText
  deriving DecidableEq, Inhabited

inductive Node where
  | mk (kind : Kind) (span : Span) (children : List Node)
  deriving Inhabited

namespace Node

def kind : Node → Kind
  | mk k _ _ => k

def span : Node → Span
  | mk _ s _ => s

def children : Node → List Node
  | mk _ _ cs => cs

/-- The form of an expression that stands as an expression. -/
def expr? (n : Node) : Option Expr :=
  match n.kind with
  | .expr e => some e
  | _ => none

/-- The form of a construct of the expression grammar, wherever it stands. -/
def form? (n : Node) : Option Expr :=
  match n.kind with
  | .expr e | .exprPart e => some e
  | _ => none

def isExpr (n : Node) : Bool := n.expr?.isSome

/-- The same node, standing elsewhere than as an expression. -/
def toPart : Node → Node
  | mk (.expr e) s cs => mk (.exprPart e) s cs
  | n => n

end Node

end JsxCheck
