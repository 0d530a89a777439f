import JsxCheck.Grammar.Escape
import JsxCheck.Text.Blank
import JsxCheck.Text.Identifier

/-!
Tokens of programs.

What a stretch of text is as a token depends on where it stands: a slash opens a regular expression
or divides, and inside a JSX element text is no code. So there is one reader for tokens of code,
and one for each of the places that reads text differently.
-/
namespace JsxCheck.Grammar

inductive TokenKind where
  | endOfFile
  /-- A keyword or an identifier, with escapes resolved. -/
  | word (text : String) (escaped : Bool)
  | punctuation (text : String)
  | number | bigint
  | string (value : String)
  /-- A piece of a template up to a substitution, or up to its end. The text is missing when an
  escape in it has no meaning. -/
  | template (cooked : Option String) (isLast : Bool)
  | regexp
  | privateName (text : String)
  | jsxText
  /-- Text that is no token. -/
  | invalid
  deriving DecidableEq, Inhabited

structure Token where
  kind : TokenKind
  span : Span
  /-- A line break stands between this token and the one before it. -/
  newlineBefore : Bool
  deriving Inhabited

/-- The first offset at or after `i` whose character fails the test. -/
def skipWhile (s : Source) (test : Char → Bool) : (fuel : Nat) → (i : Nat) → Nat
  | 0, i => i
  | fuel + 1, i =>
    match s.char? i with
    | some c => if test c then skipWhile s test fuel (i + c.utf8Size) else i
    | none => i

/-! ### White space and comments -/

/-- What stands in front of a token. -/
structure Trivia where
  stop : Nat
  newline : Bool
  comments : List Span
  /-- A comment runs to the end of the text. -/
  unclosed : Bool

/-- Passes over white space and comments; comments are gathered last first. -/
def skipTrivia (s : Source) : (fuel : Nat) → (i : Nat) → (newline : Bool) → (comments : List Span) →
    Trivia
  | 0, i, newline, comments => ⟨i, newline, comments, false⟩
  | fuel + 1, i, newline, comments =>
    match s.char? i with
    | none => ⟨i, newline, comments, false⟩
    | some c =>
      if isTokenSpace c then skipTrivia s fuel (i + c.utf8Size) newline comments
      else if isLineTerminator c then skipTrivia s fuel (i + c.utf8Size) true comments
      else if s.hasAt "//" i then
        let stop := skipWhile s (!isLineTerminator ·) s.size i
        skipTrivia s fuel stop newline (⟨i, stop⟩ :: comments)
      else if s.hasAt "/*" i then
        match s.find? "*/" (i + 2) s.size with
        | some close =>
          let breaks := ((s.slice? i close).getD "").toList.any isLineTerminator
          skipTrivia s fuel (close + 2) (newline || breaks) (⟨i, close + 2⟩ :: comments)
        | none => ⟨i, newline, comments, true⟩
      else ⟨i, newline, comments, false⟩

/-! ### Words -/

/-- Reads the characters of a word from `i` on, escapes included. -/
def readWordFrom (s : Source) : (fuel : Nat) → (i : Nat) → (text : List Char) → (escaped : Bool) →
    Option (List Char × Nat × Bool)
  | 0, i, text, escaped => some (text.reverse, i, escaped)
  | fuel + 1, i, text, escaped =>
    let allowed := if text.isEmpty then isIdentStart else isIdentPart
    match s.char? i with
    | none => some (text.reverse, i, escaped)
    | some c =>
      if allowed c then readWordFrom s fuel (i + c.utf8Size) (c :: text) escaped
      else if s.hasAt "\\u" i then
        match readUnicodeEscape? s (i + 2) with
        | some (u, stop) =>
          if allowed u then readWordFrom s fuel stop (u :: text) true else none
        | none => none
      else some (text.reverse, i, escaped)

/-- A word, with the offset after it. -/
def readWord? (s : Source) (i : Nat) : Option (String × Nat × Bool) :=
  match readWordFrom s (s.size + 1) i [] false with
  | some (text, stop, escaped) => if text.isEmpty then none else some (String.ofList text, stop, escaped)
  | none => none

/-! ### Numbers -/

/-- Digits with single underscores between them; gives the offset after them. -/
def readDigits? (s : Source) (isDigit : Char → Bool) (i : Nat) : Option Nat :=
  let stop := skipWhile s (fun c => isDigit c || c == '_') s.size i
  let text := ((s.slice? i stop).getD "").toList
  if text.isEmpty || text.head? == some '_' || text.getLast? == some '_'
      || (text.zip text.tail).any (fun p => p.1 == '_' && p.2 == '_') then none
  else some stop

def readOptionalDigits? (s : Source) (i : Nat) : Option Nat :=
  if (s.char? i).any (fun c => c.isDigit || c == '_') then readDigits? s Char.isDigit i else some i

def readExponent? (s : Source) (i : Nat) : Option Nat :=
  if (s.char? i).any (fun c => c == 'e' || c == 'E') then
    let sign := if (s.char? (i + 1)).any (fun c => c == '+' || c == '-') then 2 else 1
    readDigits? s Char.isDigit (i + sign)
  else some i

/-- A number with a base given by its second letter. -/
def readRadix? (s : Source) (i : Nat) : Option (TokenKind × Nat) :=
  let digits : Option Nat :=
    match s.char? (i + 1) with
    | some 'x' | some 'X' => readDigits? s (fun c => (hexDigit? c).isSome) (i + 2)
    | some 'o' | some 'O' => readDigits? s (fun c => (octalDigit? c).isSome) (i + 2)
    | some 'b' | some 'B' => readDigits? s (fun c => c == '0' || c == '1') (i + 2)
    | _ => none
  digits.map fun stop =>
    if s.char? stop == some 'n' then (.bigint, stop + 1) else (.number, stop)

/-- A number in base ten, or an old octal number. -/
def readDecimal? (s : Source) (i : Nat) : Option (TokenKind × Nat) := do
  let whole ← readOptionalDigits? s i
  if whole > i && s.char? whole == some 'n' then return (.bigint, whole + 1)
  let fraction ←
    if s.char? whole == some '.' then readOptionalDigits? s (whole + 1) else some whole
  let stop ← readExponent? s fraction
  return (.number, stop)

/-- A number; no letter or digit may follow it directly. -/
def readNumber (s : Source) (i : Nat) : TokenKind × Nat :=
  let isRadix := s.char? i == some '0' && (s.char? (i + 1)).any fun c => "xXoObB".toList.contains c
  match if isRadix then readRadix? s i else readDecimal? s i with
  | some (kind, stop) =>
    if (s.char? stop).any (fun c => isIdentPart c || c == '\\') then (.invalid, stop) else (kind, stop)
  | none => (.invalid, i + 1)

/-! ### Strings and templates -/

/-- The value of a string from after its opening quote, with the offset after its closing one. -/
def readStringFrom? (s : Source) (quote : Char) : (fuel : Nat) → (i : Nat) → (value : List Char) →
    Option (String × Nat)
  | 0, _, _ => none
  | fuel + 1, i, value =>
    match s.char? i with
    | none => none
    | some c =>
      if c == quote then some (String.ofList value.reverse, i + 1)
      else if c == '\\' then
        match readEscape? s true (i + 1) with
        | some (cs, stop) => readStringFrom? s quote fuel stop (cs.reverse ++ value)
        | none => none
      else if c == '\n' || c == '\r' then none
      else readStringFrom? s quote fuel (i + c.utf8Size) (c :: value)

/-- A piece of a template: its text, whether it is the last, and the offset after it. -/
def readTemplateFrom? (s : Source) : (fuel : Nat) → (i : Nat) → (cooked : Option (List Char)) →
    Option (Option String × Bool × Nat)
  | 0, _, _ => none
  | fuel + 1, i, cooked =>
    match s.char? i with
    | none => none
    | some c =>
      let done := cooked.map fun cs => String.ofList cs.reverse
      if c.toNat == 0x60 then some (done, true, i + 1)
      else if s.hasAt "$\x7b" i then some (done, false, i + 2)
      else if c == '\\' then
        match readEscape? s false (i + 1) with
        | some (cs, stop) => readTemplateFrom? s fuel stop (cooked.map (cs.reverse ++ ·))
        | none => readTemplateFrom? s fuel (i + 1 + ((s.char? (i + 1)).elim 0 Char.utf8Size)) none
      else if c == '\r' then
        let stop := if s.char? (i + 1) == some '\n' then i + 2 else i + 1
        readTemplateFrom? s fuel stop (cooked.map ('\n' :: ·))
      else readTemplateFrom? s fuel (i + c.utf8Size) (cooked.map (c :: ·))

/-- The piece of a template that starts after the backtick or brace at `i - 1`. -/
def readTemplate (s : Source) (i : Nat) : TokenKind × Nat :=
  match readTemplateFrom? s (s.size + 1) i (some []) with
  | some (cooked, isLast, stop) => (.template cooked isLast, stop)
  | none => (.invalid, s.size)

/-! ### Regular expressions -/

/-- The offset after the slash that closes a regular expression. -/
def readRegexpBody? (s : Source) : (fuel : Nat) → (i : Nat) → (inClass : Bool) → Option Nat
  | 0, _, _ => none
  | fuel + 1, i, inClass =>
    match s.char? i with
    | none => none
    | some c =>
      let after := i + c.utf8Size
      if isLineTerminator c then none
      else if c == '\\' then
        match s.char? after with
        | some d => if isLineTerminator d then none else readRegexpBody? s fuel (after + d.utf8Size) inClass
        | none => none
      else if c == '[' then readRegexpBody? s fuel after true
      else if c == ']' then readRegexpBody? s fuel after false
      else if c == '/' && !inClass then some after
      else readRegexpBody? s fuel after inClass

/-- Each flag is known and given once, and `u` and `v` are not both given. -/
def validFlags (flags : List Char) : Bool :=
  flags.all ("dgimsuvy".toList.contains ·) && flags.eraseDups.length == flags.length
    && !(flags.contains 'u' && flags.contains 'v')

/-- The regular expression whose opening slash is at `i`. -/
def readRegexp (s : Source) (i : Nat) : TokenKind × Nat :=
  match readRegexpBody? s (s.size + 1) (i + 1) false with
  | some close =>
    let stop := skipWhile s isIdentPart s.size close
    if validFlags ((s.slice? close stop).getD "").toList then (.regexp, stop) else (.invalid, stop)
  | none => (.invalid, i + 1)

/-! ### Tokens of code -/

/-- Punctuation, longer marks before their beginnings. A closing angle bracket is read alone, since
only an expression may join it to what follows. -/
def punctuationMarks : List String :=
  [">", "...", "===", "!==", "**=", "<<=", "&&=", "||=", "??=",
    "=>", "==", "!=", "<=", "++", "--", "**", "<<", "&&", "||", "??", "?.",
    "+=", "-=", "*=", "/=", "%=", "&=", "|=", "^=",
    "\x7b", "\x7d", "(", ")", "[", "]", ";", ",", "<", "+", "-", "*", "/", "%", "&", "|", "^",
    "!", "~", "?", ":", "=", ".", "@"]

/-- Punctuation at an offset. A question mark in front of a decimal fraction stands alone. -/
def readPunctuation (s : Source) (i : Nat) : TokenKind × Nat :=
  match punctuationMarks.find? fun mark =>
      s.hasAt mark i && !(mark == "?." && (s.char? (i + 2)).any Char.isDigit) with
  | some mark => (.punctuation mark, i + mark.utf8ByteSize)
  | none => (.invalid, i + 1)

/-- The token of code that starts at an offset, and the offset after it. -/
def readCode (s : Source) (i : Nat) : TokenKind × Nat :=
  match s.char? i with
  | none => (.endOfFile, i)
  | some c =>
    if isIdentStart c || c == '\\' then
      match readWord? s i with
      | some (text, stop, escaped) => (.word text escaped, stop)
      | none => (.invalid, i + 1)
    else if c.isDigit || (c == '.' && (s.char? (i + 1)).any Char.isDigit) then readNumber s i
    else if c == '"' || c == '\'' then
      match readStringFrom? s c (s.size + 1) (i + 1) [] with
      | some (value, stop) => (.string value, stop)
      | none => (.invalid, i + 1)
    else if c.toNat == 0x60 then readTemplate s (i + 1)
    else if c == '#' then
      match readWord? s (i + 1) with
      | some (text, stop, _) => (.privateName text, stop)
      | none => (.invalid, i + 1)
    else readPunctuation s i

/-- The next token of code after an offset, and the comments in front of it, last first. -/
def nextToken (s : Source) (i : Nat) : Token × List Span :=
  let trivia := skipTrivia s (s.size + 1) i false []
  if trivia.unclosed then (⟨.invalid, ⟨trivia.stop, s.size⟩, trivia.newline⟩, trivia.comments)
  else
    let (kind, stop) := readCode s trivia.stop
    (⟨kind, ⟨trivia.stop, stop⟩, trivia.newline⟩, trivia.comments)

/-! ### Tokens of JSX -/

/-- The next token between the tags of an element: an opening brace or angle bracket, or text. -/
def nextChildToken (s : Source) (i : Nat) : Token :=
  match s.char? i with
  | none => ⟨.endOfFile, ⟨i, i⟩, false⟩
  | some '{' => ⟨.punctuation "\x7b", ⟨i, i + 1⟩, false⟩
  | some '<' => ⟨.punctuation "<", ⟨i, i + 1⟩, false⟩
  | some _ =>
    let stop := skipWhile s (fun c => !(c == '{' || c == '<' || c == '>' || c == '}')) s.size i
    if (s.char? stop).any (fun c => c == '>' || c == '}') then ⟨.invalid, ⟨stop, stop + 1⟩, false⟩
    else ⟨.jsxText, ⟨i, stop⟩, false⟩

/-- The token after the equals sign of an attribute: strings there hold no escapes. -/
def nextAttributeToken (s : Source) (i : Nat) : Token × List Span :=
  let trivia := skipTrivia s (s.size + 1) i false []
  match s.char? trivia.stop with
  | some c =>
    if c == '"' || c == '\'' then
      let close := skipWhile s (· != c) s.size (trivia.stop + 1)
      if close < s.size then
        let value := (s.slice? (trivia.stop + 1) close).getD ""
        (⟨.string value, ⟨trivia.stop, close + 1⟩, trivia.newline⟩, trivia.comments)
      else (⟨.invalid, ⟨trivia.stop, s.size⟩, trivia.newline⟩, trivia.comments)
    else nextToken s i
  | none => nextToken s i

/-- The end of a JSX name that begins with the word ending at `i`: hyphens join further words. -/
def jsxNameStop (s : Source) (i : Nat) : Nat :=
  if s.char? i == some '-' then skipWhile s (fun c => c == '-' || isIdentPart c) s.size i else i

/-- The longest mark that starts with the closing angle bracket at `i`, for use in expressions. -/
def greaterMark (s : Source) (i : Nat) : String :=
  ([">>>=", ">>>", ">>=", ">>", ">="].find? fun mark => s.hasAt mark i).getD ">"

end JsxCheck.Grammar
