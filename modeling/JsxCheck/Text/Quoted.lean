import JsxCheck.Text.Property

/-!
Texts in double quotes, as messages show them.

Quotes, backslashes and control characters are escaped, and so is what has no visible form of its
own; all else is written as it is.
-/
namespace JsxCheck

/-- One character between double quotes. -/
def quotedChar (c : Char) : List Char :=
  if c == '\x00' then ['\\', '0']
  else if c == '\t' then ['\\', 't']
  else if c == '\r' then ['\\', 'r']
  else if c == '\n' then ['\\', 'n']
  else if c == '\\' then ['\\', '\\']
  else if c == '"' then ['\\', '"']
  else if extendsGrapheme c || !isPrintable c then
    ['\\', 'u', '\x7b'] ++ Nat.toDigits 16 c.toNat ++ ['\x7d']
  else [c]

def quoted (text : String) : String :=
  String.ofList ('"' :: text.toList.flatMap quotedChar ++ ['"'])

end JsxCheck
