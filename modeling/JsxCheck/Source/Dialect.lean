/-!
Dialects of the language, and which one a file name asks for.
-/
namespace JsxCheck

structure Dialect where
  /-- Type annotations and declarations of types are part of the language. -/
  typescript : Bool
  /-- Elements are part of the language. -/
  jsx : Bool
  /-- Everything is a declaration without a body. -/
  ambient : Bool := false
  /-- The text is a module, so that `await` is a word of its own. -/
  isModule : Bool := true
  deriving DecidableEq, Inhabited

namespace Dialect

def tsx : Dialect := { typescript := true, jsx := true }
def ts : Dialect := { typescript := true, jsx := false }
def jsxOnly : Dialect := { typescript := false, jsx := true }
def js : Dialect := { typescript := false, jsx := false }

def isTsx (d : Dialect) : Bool := d.typescript && d.jsx

end Dialect

namespace FileName

/-- The characters after the last separator, and those before it. -/
def splitAtLast (sep : Char) (cs : List Char) : Option (List Char × List Char) :=
  if cs.contains sep then
    let tail := cs.reverse.takeWhile (· != sep)
    some ((cs.reverse.drop (tail.length + 1)).reverse, tail.reverse)
  else none

/-- The last component of a path. Empty components and single dots are passed over, and a path that
ends by going up names no file. -/
def lastComponent? (path : String) : Option (List Char) :=
  let components := path.toList.foldr
    (fun c acc =>
      match c, acc with
      | '/', _ => [] :: acc
      | c, piece :: rest => (c :: piece) :: rest
      | c, [] => [[c]])
    [[]]
  let named := components.filter fun piece => !piece.isEmpty && piece != ['.']
  match named.getLast? with
  | some name => if name == ['.', '.'] then none else some name
  | none => none

/-- The part after the last dot, unless that dot opens the name. -/
def extension? (path : String) : Option String := do
  let name ← lastComponent? path
  let (stem, ext) ← splitAtLast '.' name
  if stem.isEmpty then none else some (String.ofList ext)

/-- The name has a second extension `d` in front of its own, as files of declarations have. -/
def isDeclarationFile (path : String) : Bool :=
  match lastComponent? path with
  | some name =>
    match splitAtLast '.' name with
    | some (stem, _) => (splitAtLast '.' stem).any fun parts => parts.2 == ['d']
    | none => false
  | none => false

/-- The dialect of a file, by its extension; other files are read as TSX. -/
def dialect (path : String) : Dialect :=
  let ambient := isDeclarationFile path
  match extension? path with
  | some "js" | some "mjs" => .js
  | some "cjs" => { Dialect.js with isModule := false }
  | some "jsx" => .jsxOnly
  | some "ts" | some "mts" => { Dialect.ts with ambient }
  | some "cts" => { Dialect.ts with ambient, isModule := false }
  | _ => .tsx

end FileName

end JsxCheck
