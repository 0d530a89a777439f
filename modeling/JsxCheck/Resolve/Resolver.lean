import JsxCheck.Resolve.Binding

/-!
What names refer to.

A reference is looked up in the scopes around it, from the innermost one outwards. Names bound more
than once in a scope are one name, declared where it is bound first. A bare name, without a place,
is looked up in the outermost scope and after that among all bindings.
-/
namespace JsxCheck

/-- How a reference uses a name. -/
inductive Use where
  | value | type | either
  deriving DecidableEq, Inhabited, Repr

/-- Nodes between the first part of a name with dots and what uses the name. -/
def Node.isNamePart (n : Node) : Bool :=
  match n.kind with
  | .qualifiedName | .expr .member => true
  | _ => false

/-- How a visited identifier uses its name. What is exported by name is exported as whatever it
is. -/
def Visit.use (v : Visit) : Use :=
  match v.ancestors.head?.map Node.kind with
  | some .exportSpecifier | some .exportDefault | some .exportAssignment => .either
  | _ =>
    match (v.ancestors.dropWhile Node.isNamePart).map Node.kind with
    | .typeReference :: _ | .implementsClause :: _ | .heritage :: .interfaceDeclaration :: _ => .type
    | _ => .value

/-- The bindings of a program, in source order. -/
structure Resolver where
  bindings : List Binding
  deriving Inhabited

namespace Resolver

def ofProgram (root : Node) : Resolver := ⟨Binding.ofProgram root⟩

/-- What a bare name is declared as. -/
def resolve (r : Resolver) (name : String) : Option Declaration := do
  let outermost := r.bindings.find? fun b => b.name == name && b.scope.any Scope.isOutermost
  let binding ← outermost <|> r.bindings.find? (·.name == name)
  binding.declaration

/-- The bindings of a name in a scope. -/
def inScope (r : Resolver) (name : String) (scope : Scope) : List Binding :=
  r.bindings.filter fun b => b.name == name && b.scope == some scope

/-- A binding that can be used in the given way. -/
def accepts (use : Use) (b : Binding) : Bool :=
  match use with
  | .value => b.asValue
  | .type => b.asType
  | .either => b.asValue || b.asType

/-- The first binding of a name in the innermost scope that binds it for the given use. -/
def lookUp (r : Resolver) (use : Use) (name : String) (scopes : List Scope) : Option Binding :=
  scopes.findSome? fun scope =>
    let found := r.inScope name scope
    if found.any (accepts use) then found.head? else none

/-- What a visited identifier is declared as. -/
def resolveReference (r : Resolver) (v : Visit) : Option Declaration :=
  match v.node.form? with
  | some (.identifier name) => do
    let binding ← r.lookUp v.use name v.scopes
    binding.declaration
  | _ => none

end Resolver

end JsxCheck
