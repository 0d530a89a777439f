import JsxCheck.Text.RangeTable

/-!
White space.

Two sets matter: the characters with the property `White_Space`, which make a JSX text blank, and
the characters that may stand between two tokens of a program.
-/
namespace JsxCheck

/-- Characters with the property `White_Space`. -/
def isBlankChar (c : Char) : Bool :=
  (9 ≤ c.toNat && c.toNat ≤ 13) || c == ' ' || c.toNat == 0x85 || c.toNat == 0xA0
    || c.toNat == 0x1680 || (0x2000 ≤ c.toNat && c.toNat ≤ 0x200A)
    || c.toNat == 0x2028 || c.toNat == 0x2029 || c.toNat == 0x202F || c.toNat == 0x205F
    || c.toNat == 0x3000

/-- Nothing but white space. -/
def isBlankText (text : String) : Bool := text.toList.all isBlankChar

/-- Characters that end a line of a program. -/
def isLineTerminator (c : Char) : Bool :=
  c == '\n' || c == '\r' || c.toNat == 0x2028 || c.toNat == 0x2029

/-- Characters that may separate tokens within a line. -/
def isTokenSpace (c : Char) : Bool :=
  c == ' ' || c == '\t' || c.toNat == 0x0B || c.toNat == 0x0C || c.toNat == 0x85
    || c.toNat == 0xA0 || c.toNat == 0x1680 || (0x2000 ≤ c.toNat && c.toNat ≤ 0x200B)
    || c.toNat == 0x202F || c.toNat == 0x205F || c.toNat == 0x3000 || c.toNat == 0xFEFF

end JsxCheck
