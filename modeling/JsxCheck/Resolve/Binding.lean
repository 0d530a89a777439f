import JsxCheck.Resolve.Scope

/-!
Bindings: the places at which names are introduced.
-/
namespace JsxCheck

/-- What a name can be declared as. -/
inductive DeclarationKind where
  | classKind | functionKind | variable | interface | typeAlias | enumeration
  deriving DecidableEq, Inhabited, Repr

def DeclarationKind.text : DeclarationKind → String
  | .classKind => "class"
  | .functionKind => "function"
  | .variable => "variable"
  | .interface => "interface"
  | .typeAlias => "alias"
  | .enumeration => "enum"

/-- A declaration and where it stands. -/
structure Declaration where
  kind : DeclarationKind
  visit : Visit
  deriving Inhabited

/-- A name introduced at some place. Parameters, imports, type parameters, namespaces and members of
enumerations are bound, and have no declaration. -/
structure Binding where
  name : String
  /-- The scope in which the name is bound. The function of an `if` without a block is in none. -/
  scope : Option Scope
  declaration : Option Declaration
  /-- The name can be used as a value. -/
  asValue : Bool
  /-- The name can be used as a type. -/
  asType : Bool
  deriving Inhabited

/-- What kind of declaration a node is. -/
def Node.declarationKind? (n : Node) : Option DeclarationKind :=
  match n.kind with
  | .classDeclaration | .expr .classExpr => some .classKind
  | .functionDeclaration | .expr .function | .exprPart .function => some .functionKind
  | .declarator => some .variable
  | .interfaceDeclaration => some .interface
  | .typeAlias => some .typeAlias
  | .enumDeclaration => some .enumeration
  | _ => none

/-- Nodes between a name in a pattern and what declares it. -/
def Node.isPattern (n : Node) : Bool :=
  match n.kind with
  | .objectPattern | .patternProperty | .arrayPattern | .defaultPattern | .restPattern => true
  | _ => false

namespace Binding

/-- What a node declares can be used as a value. -/
def bindsValue (owner : Node) : Bool :=
  match owner.kind with
  | .interfaceDeclaration | .typeAlias | .typeParameter => false
  | _ => true

/-- What a node declares can be used as a type. -/
def bindsType (owner : Node) : Bool :=
  match owner.kind with
  | .classDeclaration | .expr .classExpr | .interfaceDeclaration | .typeAlias | .enumDeclaration
  | .typeParameter | .importSpecifier | .importDefault | .importNamespace | .importEquals
  | .namespaceDeclaration => true
  | _ => false

/-- Declared by `var`. -/
def isHoisted (owner : Node) (above : List Node) : Bool :=
  match owner.kind, above.head?.map Node.kind with
  | .declarator, some (.variables .varWord) => true
  | _, _ => false

/-- The scope in which a name is bound, given what declares it and what is around that. -/
def scopeOf (v : Visit) (owner : Node) (above : List Node) : Option Scope :=
  if isHoisted owner above then v.scopes.find? Scope.holdsVariables
  else if owner.kind == .functionDeclaration && above.head?.any (·.kind == .ifStatement) then none
  else v.scopes.head?

/-- The binding that a visited node makes. -/
def ofVisit? (v : Visit) : Option Binding :=
  match v.node with
  | .mk (.binding name) _ _ =>
    match v.ancestors.dropWhile Node.isPattern with
    | owner :: above =>
      some {
        name
        scope := scopeOf v owner above
        declaration := owner.declarationKind?.map fun kind => ⟨kind, ⟨owner, above⟩⟩
        asValue := bindsValue owner
        asType := bindsType owner }
    | [] => none
  | .mk .enumMember _ (key :: _) =>
    key.keyName?.map fun name =>
      { name, scope := v.scopes.head?, declaration := none, asValue := true, asType := true }
  | _ => none

/-- The bindings of a program, in source order. -/
def ofProgram (root : Node) : List Binding := root.visits.filterMap ofVisit?

end Binding

end JsxCheck
