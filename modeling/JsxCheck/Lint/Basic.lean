import JsxCheck.Grammar.Program
import JsxCheck.Lint.NamePass

/-!
Linting whole texts.
-/
namespace JsxCheck

namespace Config

/-- Both passes over a program, merged. -/
def checkBoth (c : Config) (doc : Document) (root : Node) : Report :=
  (c.check doc root).merge (c.checkResolved (.ofProgram root) doc root)

end Config

/-- The report on a text in a file that a parser reads. The name of the file tells the dialect, and
rules may look at it. Reports of both passes are merged only when a rule that resolves names runs. -/
def lintWith {ε : Type} (parse : Source → Dialect → Except ε Program) (text filename : String)
    (config : Config) : Except ε Report := do
  let dialect := FileName.dialect filename
  let program ← parse ⟨text⟩ dialect
  let doc := Document.ofText text dialect (some filename) program.comments
  if config.needsResolution then return config.checkBoth doc program.root
  else return config.check doc program.root

/-- The report on a text in a file. -/
def lint (text filename : String) (config : Config) : Except Grammar.SyntaxError Report :=
  lintWith Program.parse text filename config

end JsxCheck
