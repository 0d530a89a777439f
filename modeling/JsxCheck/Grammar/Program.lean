import JsxCheck.Grammar.Exports
import JsxCheck.Grammar.Statements

/-!
Whole programs.

`parse` ties the goals of the grammar together. Every token is consumed a bounded number of goals
below the goal it was first seen by, so a multiple of the length of the text is fuel enough.
-/
namespace JsxCheck

namespace Grammar

/-- One step of the grammar: what each goal is, in terms of all goals. -/
def step (goals : Goals) : Goals
  | .expression => commaExpression goals
  | .assignment arrowReturnType => assignmentExpression goals arrowReturnType
  | .unary => unaryExpression goals
  | .leftHandSide => leftHandSide goals
  | .statement => statement goals
  | .pattern => bindingPattern goals
  | .type => anyType goals
  | .jsx isChild => jsxElement goals isChild

/-- The goals with a bound on how deep they nest. -/
def goalsUpTo : (fuel : Nat) → Goals
  | 0 => fun _ => fail .tooDeep
  | fuel + 1 => step (fun goal => goalsUpTo fuel goal)

/-- Depth enough for a text of this many bytes. -/
def depthFor (size : Nat) : Nat := 16 * (size + 4)

/-- The offset after a line that tells the system how to run the file. -/
def hashbangStop (s : Source) : Nat :=
  if s.hasAt "#!" 0 then skipWhile s (!isLineTerminator ·) s.size 0 else 0

/-- A whole program. Where names cannot stand for types, a name is exported once. -/
def program : Parser Node := do
  let ctx ← read
  let statements ← bodyStatements (goalsUpTo (depthFor ctx.source.size))
  unless (← peekKind) == .endOfFile do unexpected
  unless ctx.dialect.typescript || (statements.flatMap exportedNames).Nodup do
    fail (.misplaced "export")
  match (← get).openInits with
  | [] => return .mk .program ⟨0, ctx.source.size⟩ statements
  | start :: _ => throw ⟨start, .misplaced "initializer"⟩

end Grammar

/-- A parsed text: its tree, and its comments in source order. -/
structure Program where
  root : Node
  comments : List Span
  deriving Inhabited

namespace Program

/-- Parses a text in a dialect. -/
def parse (source : Source) (dialect : Dialect) : Except Grammar.SyntaxError Program :=
  let (token, comments) := Grammar.nextToken source (Grammar.hashbangStop source)
  let ctx : Grammar.Context :=
    { source, dialect, inAsync := dialect.isModule, ambient := dialect.ambient }
  match Grammar.program ctx { token, prevStop := 0, comments } with
  | .ok (root, st) => .ok ⟨root, st.comments.reverse⟩
  | .error e => .error e

end Program

end JsxCheck
