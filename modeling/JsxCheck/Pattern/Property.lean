import JsxCheck.Pattern.CharSet
import JsxCheck.Text.Identifier
import JsxCheck.Text.Lowercase
import JsxCheck.Text.Property
import JsxCheck.Text.Script

/-!
Sets of characters that patterns call by name.

Names are compared without regard to case, blanks, hyphens and underscores, and a leading `is` does
not count.
-/
namespace JsxCheck.CharSet

/-- The form in which names are compared. -/
def looseName (name : List Char) : String :=
  let kept := (name.filter fun c => c != ' ' && c != '_' && c != '-' && c.toNat < 128).map Char.toLower
  match kept with
  | 'i' :: 's' :: rest => if rest.isEmpty then "is" else String.ofList rest
  | _ => String.ofList kept

def ofCategories (codes : List String) : CharSet := satisfying fun c => codes.contains (categoryOf c)

/-- Names of the general categories and of their unions. -/
def categoryNames : List (List String × List String) := [
  (["lu", "uppercaseletter"], ["Lu"]),
  (["ll", "lowercaseletter"], ["Ll"]),
  (["lt", "titlecaseletter"], ["Lt"]),
  (["lc", "casedletter"], ["Lu", "Ll", "Lt"]),
  (["lm", "modifierletter"], ["Lm"]),
  (["lo", "otherletter"], ["Lo"]),
  (["l", "letter"], ["Lu", "Ll", "Lt", "Lm", "Lo"]),
  (["mn", "nonspacingmark"], ["Mn"]),
  (["mc", "spacingmark"], ["Mc"]),
  (["me", "enclosingmark"], ["Me"]),
  (["m", "mark", "combiningmark"], ["Mn", "Mc", "Me"]),
  (["nd", "decimalnumber", "digit"], ["Nd"]),
  (["nl", "letternumber"], ["Nl"]),
  (["no", "othernumber"], ["No"]),
  (["n", "number"], ["Nd", "Nl", "No"]),
  (["pc", "connectorpunctuation"], ["Pc"]),
  (["pd", "dashpunctuation"], ["Pd"]),
  (["ps", "openpunctuation"], ["Ps"]),
  (["pe", "closepunctuation"], ["Pe"]),
  (["pi", "initialpunctuation"], ["Pi"]),
  (["pf", "finalpunctuation"], ["Pf"]),
  (["po", "otherpunctuation"], ["Po"]),
  (["p", "punctuation", "punct"], ["Pc", "Pd", "Ps", "Pe", "Pi", "Pf", "Po"]),
  (["sm", "mathsymbol"], ["Sm"]),
  (["sc", "currencysymbol"], ["Sc"]),
  (["sk", "modifiersymbol"], ["Sk"]),
  (["so", "othersymbol"], ["So"]),
  (["s", "symbol"], ["Sm", "Sc", "Sk", "So"]),
  (["zs", "spaceseparator"], ["Zs"]),
  (["zl", "lineseparator"], ["Zl"]),
  (["zp", "paragraphseparator"], ["Zp"]),
  (["z", "separator"], ["Zs", "Zl", "Zp"]),
  (["cc", "control", "cntrl"], ["Cc"]),
  (["cf", "format"], ["Cf"]),
  (["co", "privateuse"], ["Co"]),
  (["cn", "unassigned"], ["Cn"]),
  (["c", "other"], ["Cc", "Cf", "Co", "Cn"])]

/-- A general category, or one of the three sets named along with them. -/
def category? (name : String) : Option CharSet :=
  match name with
  | "any" => some any
  | "ascii" => some (range '\x00' '\x7F')
  | "assigned" => some (satisfying fun c => categoryOf c != "Cn")
  | _ => (categoryNames.find? (·.1.contains name)).map fun entry => ofCategories entry.2

def script? (name : String) : Option CharSet :=
  (scriptTable? name).map fun table => satisfying table.containsChar

/-- A property that a character has or has not. -/
def binary? (name : String) : Option CharSet :=
  match name with
  | "alphabetic" | "alpha" => some (satisfying isAlphabetic)
  | "lowercase" | "lower" => some (satisfying isLowercase)
  | "uppercase" | "upper" => some (satisfying isUppercase)
  | "whitespace" | "wspace" | "space" => some (satisfying isBlankChar)
  | "idstart" | "ids" => some (satisfying idStartTable.containsChar)
  | "idcontinue" | "idc" => some (satisfying idContinueTable.containsChar)
  | "cased" => some (satisfying casedTable.containsChar)
  | "caseignorable" | "ci" => some (satisfying caseIgnorableTable.containsChar)
  | "asciihexdigit" | "ahex" => some (ofRanges [('0', '9'), ('a', 'f'), ('A', 'F')])
  | "joincontrol" | "joinc" => some (range '\u200C' '\u200D')
  | "graphemeextend" | "grext" => some (satisfying extendsGrapheme)
  | _ => none

/-- The set of `\p{name}`. -/
def named? (name : List Char) : Option CharSet :=
  let name := looseName name
  binary? name <|> category? name <|> script? name

/-- The set of `\p{property=value}`. -/
def valued? (property value : List Char) : Option CharSet :=
  match looseName property with
  | "generalcategory" | "gc" => category? (looseName value)
  | "script" | "sc" | "scriptextensions" | "scx" => script? (looseName value)
  | _ => none

/-- The set of `[:name:]`. -/
def ascii? (name : String) : Option CharSet :=
  match name with
  | "alnum" => some (ofRanges [('0', '9'), ('A', 'Z'), ('a', 'z')])
  | "alpha" => some (ofRanges [('A', 'Z'), ('a', 'z')])
  | "ascii" => some (range '\x00' '\x7F')
  | "blank" => some (ofRanges [('\t', '\t'), (' ', ' ')])
  | "cntrl" => some (ofRanges [('\x00', '\x1F'), ('\x7F', '\x7F')])
  | "digit" => some (range '0' '9')
  | "graph" => some (range '!' '~')
  | "lower" => some (range 'a' 'z')
  | "print" => some (range ' ' '~')
  | "punct" => some (ofRanges [('!', '/'), (':', '@'), ('[', '\x60'), ('\x7b', '~')])
  | "space" => some (ofRanges [('\t', '\r'), (' ', ' ')])
  | "upper" => some (range 'A' 'Z')
  | "word" => some (ofRanges [('0', '9'), ('A', 'Z'), ('_', '_'), ('a', 'z')])
  | "xdigit" => some (ofRanges [('0', '9'), ('A', 'F'), ('a', 'f')])
  | _ => none

/-- The set of `\d`, `\s` or `\w`. -/
def shorthand (ascii : Bool) (letter : Char) : CharSet :=
  match letter with
  | 'd' => if ascii then range '0' '9' else satisfying isDecimalDigit
  | 's' =>
    if ascii then ofRanges [('\t', '\r'), (' ', ' ')] else satisfying isBlankChar
  | _ => if ascii then satisfying isAsciiWordChar else satisfying isWordChar

end JsxCheck.CharSet
