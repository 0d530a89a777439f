import JsxCheck.Pattern.Basic
import JsxCheck.Pattern.Property

/-!
Reading patterns from text.

Groups, alternatives, repetitions, sets with their operations, named sets, assertions and inline
flags are understood. Looking ahead or behind and referring back to groups are not part of the
language, and a text that asks for them is no pattern.
-/
namespace JsxCheck.Pattern

/-- The flags in effect at a place of a pattern. -/
structure Flags where
  ignoreCase : Bool := false
  multiLine : Bool := false
  dotMatchesAll : Bool := false
  unicode : Bool := true
  crlf : Bool := false
  /-- White space and comments do not count. -/
  verbose : Bool := false
  deriving DecidableEq, Inhabited

/-- Passes over white space and comments. -/
def skipVerbose : (inComment : Bool) → List Char → List Char
  | _, [] => []
  | inComment, c :: rest =>
    if inComment then skipVerbose (c != '\n') rest
    else if isBlankChar c then skipVerbose false rest
    else if c == '#' then skipVerbose true rest
    else c :: rest

/-- The next character that counts. -/
def skipSpace (flags : Flags) (cs : List Char) : List Char :=
  if flags.verbose then skipVerbose false cs else cs

/-- What a pattern is built from, before repetition. -/
inductive Atom where
  | literal (c : Char)
  | set (set : CharSet)
  | assertion (assertion : Assertion)
  deriving Inhabited

/-- The character with a code point, if there is one. -/
def scalar? (n : Nat) : Option Char :=
  if n < 0xD800 || (0xDFFF < n && n < 0x110000) then some (Char.ofNat n) else none

/-- Exactly `n` hexadecimal digits. -/
def readHexDigits (flags : Flags) : (n : Nat) → List Char → Option (List Char × List Char)
  | 0, cs => some ([], cs)
  | n + 1, cs =>
    match skipSpace flags cs with
    | c :: rest =>
      if (hexDigit? c).isSome then do
        let (digits, rest) ← readHexDigits flags n rest
        some (c :: digits, rest)
      else none
    | [] => none

/-- What stands up to a closing brace, and what follows it. -/
def readBraced (flags : Flags) (cs : List Char) : Option (List Char × List Char) :=
  match cs.dropWhile (· != '\x7d') with
  | [] => none
  | _ :: rest =>
    let body := cs.takeWhile (· != '\x7d')
    some (if flags.verbose then body.filter (!isBlankChar ·) else body, rest)

/-- A code point: in braces, or with a fixed number of digits. -/
def readCodePoint (flags : Flags) (digits : Nat) (cs : List Char) : Option (Char × List Char) :=
  match skipSpace flags cs with
  | '\x7b' :: rest => do
    let (body, rest) ← readBraced flags rest
    if body.isEmpty || !body.all fun c => (hexDigit? c).isSome then none
    else some (← scalar? (hexNumber body), rest)
  | cs => do
    let (body, rest) ← readHexDigits flags digits cs
    some (← scalar? (hexNumber body), rest)

/-- The parts of a list around the first place at which a separator stands. -/
def splitAtFirst (sep : List Char) : List Char → Option (List Char × List Char)
  | [] => none
  | c :: rest =>
    if sep.isPrefixOf (c :: rest) then some ([], (c :: rest).drop sep.length)
    else (splitAtFirst sep rest).map fun (before, after) => (c :: before, after)

/-- The set that the words in `\p{…}` stand for. -/
def propertySet? (body : List Char) : Option CharSet :=
  match splitAtFirst ['!', '='] body with
  | some (property, value) => (CharSet.valued? property value).map .complement
  | none =>
    match splitAtFirst [':'] body <|> splitAtFirst ['='] body with
    | some (property, value) => CharSet.valued? property value
    | none => CharSet.named? body

/-- The set after `\p` or `\P`. -/
def readProperty (flags : Flags) (negated : Bool) (cs : List Char) : Option (CharSet × List Char) :=
  if flags.unicode then do
    let (body, rest) ← match skipSpace flags cs with
      | '\x7b' :: rest => readBraced flags rest
      | '\\' :: _ => none
      | c :: rest => some ([c], rest)
      | [] => none
    let set ← propertySet? body
    some ((set.foldedIf flags.ignoreCase false).negatedIf negated, rest)
  else none

/-- Characters that mean something in a pattern and stand for themselves after a backslash, along
with all of ASCII but letters, digits and angle brackets. -/
def isEscapable (c : Char) : Bool := c.toNat < 128 && !c.isAlphanum && c != '<' && c != '>'

/-- Letters that name boundaries of words in braces after `\b`. -/
def wordBoundary? (ascii : Bool) (name : String) : Option Assertion :=
  match name with
  | "start" => some (.wordStart ascii)
  | "end" => some (.wordEnd ascii)
  | "start-half" => some (.wordStartHalf ascii)
  | "end-half" => some (.wordEndHalf ascii)
  | _ => none

/-- What follows `\b`. Braces that hold a count belong to a repetition. -/
def readWordBoundary (flags : Flags) (cs : List Char) : Option (Assertion × List Char) :=
  let isNameChar := fun c : Char => c.isAlpha || c == '-'
  match cs with
  | '\x7b' :: rest =>
    match skipSpace flags rest with
    | [] => none
    | first :: more =>
      if isNameChar first then do
        let (body, rest) ← readBraced flags (first :: more)
        some (← wordBoundary? (!flags.unicode) (String.ofList body), rest)
      else some (.wordBoundary (!flags.unicode), cs)
  | _ => some (.wordBoundary (!flags.unicode), cs)

def readEscape (flags : Flags) : List Char → Option (Atom × List Char)
  | [] => none
  | c :: rest =>
    let literal (value : Char) : Option (Atom × List Char) := some (.literal value, rest)
    let assertion (a : Assertion) : Option (Atom × List Char) := some (.assertion a, rest)
    let ascii := !flags.unicode
    match c with
    | 'x' => (readCodePoint flags 2 rest).map fun (c, rest) => (.literal c, rest)
    | 'u' => (readCodePoint flags 4 rest).map fun (c, rest) => (.literal c, rest)
    | 'U' => (readCodePoint flags 8 rest).map fun (c, rest) => (.literal c, rest)
    | 'p' => (readProperty flags false rest).map fun (s, rest) => (.set s, rest)
    | 'P' => (readProperty flags true rest).map fun (s, rest) => (.set s, rest)
    | 'd' | 's' | 'w' => some (.set (.shorthand ascii c), rest)
    | 'D' | 'S' | 'W' => some (.set (.complement (.shorthand ascii c.toLower)), rest)
    | 'a' => literal '\x07'
    | 'f' => literal '\x0C'
    | 't' => literal '\t'
    | 'n' => literal '\n'
    | 'r' => literal '\r'
    | 'v' => literal '\x0B'
    | 'A' => assertion .textStart
    | 'z' => assertion .textEnd
    | 'b' => (readWordBoundary flags rest).map fun (a, rest) => (.assertion a, rest)
    | 'B' => assertion (.notWordBoundary ascii)
    | '<' => assertion (.wordStart ascii)
    | '>' => assertion (.wordEnd ascii)
    | _ => if isEscapable c then literal c else none

/-! ### Sets in brackets -/

/-- Operations between the sets in a pair of brackets. All bind alike, to the left. -/
inductive SetOperation where
  | intersection | difference | symmetricDifference
  deriving DecidableEq, Inhabited

/-- The operand before an operation that waits for its second one. -/
abbrev Pending := Option (SetOperation × CharSet)

/-- Joins a set with the operand that waits for it. -/
def completeSet (flags : Flags) (pending : Pending) (set : CharSet) : CharSet :=
  let fold := CharSet.foldedIf flags.ignoreCase (!flags.unicode)
  match pending with
  | none => set
  | some (.intersection, left) => .intersection (fold left) (fold set)
  | some (.difference, left) => .difference (fold left) (fold set)
  | some (.symmetricDifference, left) => .symmetricDifference (fold left) (fold set)

/-- `[:name:]` or `[:^name:]`, given what follows the bracket. -/
def readAsciiClass (flags : Flags) : List Char → Option (CharSet × List Char)
  | ':' :: rest =>
    let (negated, rest) := match rest with
      | '^' :: rest => (true, rest)
      | _ => (false, rest)
    let name := rest.takeWhile (· != ':')
    match rest.drop name.length with
    | ':' :: ']' :: rest => do
      let set ← CharSet.ascii? (String.ofList name)
      some ((set.foldedIf flags.ignoreCase (!flags.unicode)).negatedIf negated, rest)
    | _ => none
  | _ => none

/-- One character or escape of a set. -/
def readSetItem (flags : Flags) : List Char → Option (Atom × List Char)
  | [] => none
  | '\\' :: rest => readEscape flags rest
  | c :: rest => some (.literal c, rest)

/-- A literal may stand in a set: where bytes are meant, only one of ASCII. -/
def literalInSet? (flags : Flags) (c : Char) : Option Char :=
  if flags.unicode || c.toNat < 128 then some c else none

/-- A range, a character or a named set. -/
def readSetRange (flags : Flags) (cs : List Char) : Option (CharSet × List Char) := do
  let (low, rest) ← readSetItem flags cs
  let rest := skipSpace flags rest
  if rest.isEmpty then none
  let alone : Option (CharSet × List Char) :=
    match low with
    | .literal c => (literalInSet? flags c).map fun c => (.single c, rest)
    | .set s => some (s, rest)
    | .assertion _ => none
  match rest with
  | '-' :: more =>
    match skipSpace flags more with
    | ']' :: _ | '-' :: _ => alone
    | [] => none
    | more => do
      let (high, rest) ← readSetItem flags more
      match low, high with
      | .literal low, .literal high => do
        let low ← literalInSet? flags low
        let high ← literalInSet? flags high
        if low ≤ high then some (.range low high, rest) else none
      | _, _ => none
  | _ => alone

/-- Hyphens at the start of a set stand for themselves. -/
def leadingHyphens (flags : Flags) : (fuel : Nat) → (count : Nat) → List Char → Nat × List Char
  | 0, count, cs => (count, cs)
  | fuel + 1, count, cs =>
    match cs with
    | '-' :: rest => leadingHyphens flags fuel (count + 1) (skipSpace flags rest)
    | _ => (count, cs)

/-- How a set begins: whether it is negated, and what stands for itself at its start. -/
def openSet (flags : Flags) (cs : List Char) : Bool × CharSet × List Char :=
  let cs := skipSpace flags cs
  let (negated, cs) := match cs with
    | '^' :: rest => (true, skipSpace flags rest)
    | _ => (false, cs)
  let (hyphens, cs) := leadingHyphens flags cs.length 0 cs
  if hyphens > 0 then (negated, .single '-', cs)
  else
    match cs with
    | ']' :: rest => (negated, .single ']', skipSpace flags rest)
    | _ => (negated, .nothing, cs)

/-- The rest of a set in brackets, given what it holds so far. -/
def readSet (flags : Flags) : (fuel depth : Nat) → (negated : Bool) → Pending → CharSet →
    List Char → Option (CharSet × List Char)
  | 0, _, _, _, _, _ => none
  | fuel + 1, depth, negated, pending, set, cs =>
    let operate (operation : SetOperation) (rest : List Char) :=
      readSet flags fuel depth negated (some (operation, completeSet flags pending set)) .nothing rest
    match skipSpace flags cs with
    | [] => none
    | ']' :: rest =>
      let whole := completeSet flags pending set
      some ((whole.foldedIf flags.ignoreCase (!flags.unicode)).negatedIf negated, rest)
    | '&' :: '&' :: rest => operate .intersection rest
    | '-' :: '-' :: rest => operate .difference rest
    | '~' :: '~' :: rest => operate .symmetricDifference rest
    | '[' :: rest =>
      match readAsciiClass flags rest with
      | some (inner, rest) => readSet flags fuel depth negated pending (.union set inner) rest
      | none =>
        if depth = 0 then none
        else do
          let (innerNegated, start, rest) := openSet flags rest
          let (inner, rest) ← readSet flags fuel (depth - 1) innerNegated none start rest
          readSet flags fuel depth negated pending (.union set inner) rest
    | cs => do
      let (inner, rest) ← readSetRange flags cs
      readSet flags fuel depth negated pending (.union set inner) rest

/-- How deep groups and sets may nest. -/
def nestLimit : Nat := 250

/-- A set in brackets, given what follows the first one. Where bytes are meant, a set must not hold
parts of characters. -/
def readBracketed (flags : Flags) (cs : List Char) : Option (CharSet × List Char) := do
  let (negated, start, rest) := openSet flags cs
  let (set, rest) ← readSet flags (cs.length + 1) (nestLimit - 1) negated none start rest
  if flags.unicode || !set.contains '\u0080' then some (set, rest) else none

/-! ### Flags -/

def setFlag? (flags : Flags) (value : Bool) : Char → Option Flags
  | 'i' => some { flags with ignoreCase := value }
  | 'm' => some { flags with multiLine := value }
  | 's' => some { flags with dotMatchesAll := value }
  | 'U' => some flags
  | 'u' => some { flags with unicode := value }
  | 'R' => some { flags with crlf := value }
  | 'x' => some { flags with verbose := value }
  | _ => none

/-- Flags up to a colon or a closing parenthesis, which is left in place. A flag and the sign that
negates may each stand once, and the sign is followed by a flag. -/
def readFlags : (flags : Flags) → (value : Bool) → (seen : List Char) → List Char →
    Option (Flags × List Char × List Char)
  | _, _, _, [] => none
  | flags, value, seen, c :: rest =>
    if c == ':' || c == ')' then
      if seen.head? == some '-' then none else some (flags, seen, c :: rest)
    else if seen.contains c then none
    else if c == '-' then readFlags flags false (c :: seen) rest
    else
      match setFlag? flags value c with
      | some flags => readFlags flags value (c :: seen) rest
      | none => none

/-! ### Repetition -/

/-- A decimal number with blanks around it. -/
def readDecimal (flags : Flags) (cs : List Char) : Option (Nat × List Char) :=
  let cs := cs.dropWhile isBlankChar
  let digits := cs.takeWhile Char.isDigit
  let value := digits.foldl (fun n c => 10 * n + (c.toNat - 48)) 0
  if digits.isEmpty || value ≥ 4294967296 then none
  else some (value, (skipSpace flags (cs.drop digits.length)).dropWhile isBlankChar)

/-- What follows the opening brace of a count, up to and with the closing one. -/
def readCount (flags : Flags) (cs : List Char) : Option ((Nat × Option Nat) × List Char) := do
  let (least, rest) ← readDecimal flags (skipSpace flags cs)
  let (most, rest) ← match rest with
    | ',' :: rest =>
      match skipSpace flags rest with
      | '\x7d' :: rest => some (none, '\x7d' :: rest)
      | rest => do
        let (most, rest) ← readDecimal flags rest
        some (some most, rest)
    | rest => some (some least, rest)
  match rest with
  | '\x7d' :: rest => if most.all (least ≤ ·) then some ((least, most), rest) else none
  | _ => none

/-- A question mark after a repetition asks for few rounds, which changes nothing in whether there
is a match. -/
def skipLazy : List Char → List Char
  | '?' :: rest => rest
  | cs => cs

/-! ### Groups -/

/-- Characters of a group's name. -/
def isNameChar (isFirst : Bool) (c : Char) : Bool :=
  if isFirst then c == '_' || isAlphabetic c
  else c == '_' || c == '.' || c == '[' || c == ']' || isAlphanumeric c

/-- A group's name, up to and with its closing bracket. -/
def readName (cs : List Char) : Option (List Char × List Char) :=
  match cs.takeWhile (· != '>'), cs.dropWhile (· != '>') with
  | first :: others, _ :: rest =>
    if isNameChar true first && others.all (isNameChar false) then some (first :: others, rest)
    else none
  | _, _ => none

inductive GroupStart where
  /-- `(?flags)`, which holds from here to the end of the group around it. -/
  | switch (flags : Flags)
  | group (flags : Flags) (names : List (List Char))
  deriving Inhabited

/-- What follows an opening parenthesis, given the names of groups so far. -/
def readGroupStart (flags : Flags) (names : List (List Char)) (cs : List Char) :
    Option (GroupStart × List Char) :=
  let named (rest : List Char) : Option (GroupStart × List Char) := do
    let (name, rest) ← readName rest
    if names.contains name then none else some (.group flags (name :: names), rest)
  match skipSpace flags cs with
  | '?' :: '=' :: _ | '?' :: '!' :: _ | '?' :: '<' :: '=' :: _ | '?' :: '<' :: '!' :: _ => none
  | '?' :: 'P' :: '<' :: rest => named rest
  | '?' :: '<' :: rest => named rest
  | '?' :: rest => do
    let (inner, seen, rest) ← readFlags flags true [] rest
    match rest with
    | ')' :: rest => if seen.isEmpty then none else some (.switch inner, rest)
    | _ :: rest => some (.group inner names, rest)
    | [] => none
  | cs => some (.group flags names, cs)

def ofAtom? (flags : Flags) : Atom → Option Pattern
  | .literal c => some (.one ((CharSet.single c).foldedIf flags.ignoreCase (!flags.unicode)))
  | .set s => if flags.unicode || !s.contains '\u0080' then some (.one s) else none
  | .assertion a => some (.assertion a)

/-- The pattern of a dot. Where bytes are meant it could match a part of a character. -/
def dot? (flags : Flags) : Option Pattern :=
  if flags.unicode then
    if flags.dotMatchesAll then some (.one .any)
    else if flags.crlf then some (.one (.complement (.ofRanges [('\n', '\n'), ('\r', '\r')])))
    else some (.one (.complement (.single '\n')))
  else none

/-- Repeats the last item, which must be there and be no switch of flags. -/
def repeatLast? (items : List (Option Pattern)) (least : Nat) (most : Option Nat) :
    Option (List (Option Pattern)) :=
  match items with
  | some last :: before => some (some (.repetition last least most) :: before)
  | _ => none

/-- The items of a branch in order; `items` holds the last first. -/
def branch (items : List (Option Pattern)) : Pattern := ofSequence (items.reverse.filterMap id)

/-- Reads up to the end of a group, whose parenthesis is left in place, or of the text. -/
def readBody : (fuel depth : Nat) → Flags → (names : List (List Char)) →
    (branches : List Pattern) → (items : List (Option Pattern)) → List Char →
    Option (Pattern × List (List Char) × List Char)
  | 0, _, _, _, _, _, _ => none
  | fuel + 1, depth, flags, names, branches, items, cs =>
    let continueWith (item : Pattern) (rest : List Char) :=
      readBody fuel depth flags names branches (some item :: items) rest
    let repeatWith (least : Nat) (most : Option Nat) (rest : List Char) := do
      let items ← repeatLast? items least most
      readBody fuel depth flags names branches items (skipLazy rest)
    let finish (rest : List Char) :=
      some (ofAlternatives ((branch items :: branches).reverse), names, rest)
    match skipSpace flags cs with
    | [] => finish []
    | ')' :: rest => finish (')' :: rest)
    | '|' :: rest => readBody fuel depth flags names (branch items :: branches) [] rest
    | '(' :: rest =>
      if depth = 0 then none
      else do
        let (start, rest) ← readGroupStart flags names rest
        match start with
        | .switch flags => readBody fuel depth flags names branches (none :: items) rest
        | .group inner innerNames => do
          let (body, names, rest) ← readBody fuel (depth - 1) inner innerNames [] [] rest
          match rest with
          | ')' :: rest => readBody fuel depth flags names branches (some body :: items) rest
          | _ => none
    | '[' :: rest => do
      let (set, rest) ← readBracketed flags rest
      continueWith (.one set) rest
    | '?' :: rest => repeatWith 0 (some 1) rest
    | '*' :: rest => repeatWith 0 none rest
    | '+' :: rest => repeatWith 1 none rest
    | '\x7b' :: rest => do
      let ((least, most), rest) ← readCount flags rest
      repeatWith least most (skipSpace flags rest)
    | '\\' :: rest => do
      let (atom, rest) ← readEscape flags rest
      continueWith (← ofAtom? flags atom) rest
    | '.' :: rest => do continueWith (← dot? flags) rest
    | '^' :: rest =>
      continueWith (.assertion (if flags.multiLine then .lineStart flags.crlf else .textStart)) rest
    | '$' :: rest =>
      continueWith (.assertion (if flags.multiLine then .lineEnd flags.crlf else .textEnd)) rest
    | c :: rest => do continueWith (← ofAtom? flags (.literal c)) rest

/-- How large a pattern may grow when its repetitions are written out. -/
def sizeLimit : Nat := 327680

/-- The pattern that a text spells, if it spells one. -/
def parse? (text : String) : Option Pattern :=
  let cs := text.toList
  match readBody (cs.length + 1) nestLimit {} [] [] [] cs with
  | some (pattern, _, []) => if pattern.size ≤ sizeLimit then some pattern else none
  | _ => none

/-- The text spells a pattern. -/
def isSpelled (text : String) : Bool := (parse? text).isSome

end JsxCheck.Pattern
