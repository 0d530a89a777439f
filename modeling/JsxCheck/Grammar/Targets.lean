import JsxCheck.Grammar.Parser

/-!
Targets of assignments.

The left side of an assignment is first read as an expression and then turned into a target: a
name, a member, or an array or object literal read as a pattern.
-/
namespace JsxCheck.Grammar

/-- A target that is no pattern. Parentheses around it are dropped. -/
def simpleTarget? : Node → Option Node
  | .mk (.expr .parenthesized) _ [inner] => simpleTarget? inner
  | n =>
    match n.kind with
    | .expr (.identifier _) | .expr .member | .expr .computedMember | .expr .privateMember
    | .expr .asType | .expr .satisfiesType | .expr .typeAssertion | .expr .nonNull =>
      some n.toPart
    | _ => none

/-- An assignment inside a pattern: its left side is a target already, its right side the default. -/
def defaultTarget? : Node → Option Node
  | .mk (.expr .assignment) span parts => some (.mk .defaultTarget span parts)
  | _ => none

/-- A property that collects the rest, or that names its target in short. -/
def plainPropertyTarget? : Node → Option Node
  | .mk .spread span [inner] => do return .mk .restTarget span [← simpleTarget? inner]
  | .mk (.property form) span (_ :: value :: init) =>
    if form.isShorthand then some (.mk .targetShorthand span (value.toPart :: init)) else none
  | _ => none

/-- Only the last part of a pattern may collect the rest. -/
def restTargetIsLast : List Node → Bool
  | [] | [_] => true
  | n :: rest =>
    match n.kind with
    | .restTarget => false
    | _ => restTargetIsLast rest

mutual

/-- The target that an expression spells. -/
def target? : Node → Option Node
  | .mk (.expr .array) span items => do
    let parts ← elementTargets? items
    if restTargetIsLast parts then some (.mk .arrayTarget span parts) else none
  | .mk (.expr .object) span items => do
    let parts ← propertyTargets? items
    if restTargetIsLast parts then some (.mk .objectTarget span parts) else none
  | .mk kind span children => simpleTarget? (.mk kind span children)

def elementTargets? : List Node → Option (List Node)
  | [] => some []
  | .mk .elision span cs :: rest => do return .mk .elision span cs :: (← elementTargets? rest)
  | .mk .spread span [inner] :: rest => do
    return .mk .restTarget span [← target? inner] :: (← elementTargets? rest)
  | item :: rest => do
    let head ← (defaultTarget? item).or (target? item)
    return head :: (← elementTargets? rest)

def propertyTargets? : List Node → Option (List Node)
  | [] => some []
  | .mk (.property ⟨false, false, false⟩) span [key, value] :: rest => do
    let head ← (defaultTarget? value).or (target? value)
    return .mk .targetProperty span [key, head] :: (← propertyTargets? rest)
  | item :: rest => do return (← plainPropertyTarget? item) :: (← propertyTargets? rest)

end

mutual

/-- A rest in the tree starts at one of the offsets. -/
def hasRestAt (starts : List Nat) : Node → Bool
  | .mk .restTarget span children => starts.contains span.start || anyRestAt starts children
  | .mk _ _ children => anyRestAt starts children

def anyRestAt (starts : List Nat) : List Node → Bool
  | [] => false
  | n :: rest => hasRestAt starts n || anyRestAt starts rest

end

/-- Reads an expression as the target of an assignment. No comma may stand behind a rest. -/
def toTarget (n : Node) : Parser Node := do
  match target? n with
  | some target =>
    let commas := (← get).closingCommas
    if !commas.isEmpty && hasRestAt commas target then throw ⟨n.span.start, .misplaced "comma"⟩
    modify fun st => { st with openInits := st.openInits.filter (!n.span.contains ·) }
    return target
  | none => throw ⟨n.span.start, .invalidTarget⟩

/-- Reads an expression as a target that is no pattern. -/
def toSimpleTarget (n : Node) : Parser Node := do
  match simpleTarget? n with
  | some target => return target
  | none => throw ⟨n.span.start, .invalidTarget⟩

end JsxCheck.Grammar
