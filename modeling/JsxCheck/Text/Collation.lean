import JsxCheck.Text.Category
import JsxCheck.Text.Collation.Weights
import JsxCheck.Text.Decomposition

/-!
The order of texts for people: the root collation, with three levels.

Texts are compared by their letters first, by their accents next and by the forms of their letters
last; a difference on one level counts only when there is none on the levels before it. White space
and punctuation come before symbols, these before digits, and digits before letters. A letter and
its capital differ in form, the small letter first.
-/
namespace JsxCheck.Collation

/-- Pairs of characters that sort as one character does. -/
def joined? : Char → Char → Option Char
  | 'l', '·' => some 'ŀ'
  | 'L', '·' => some 'Ŀ'
  | 'и', '\u0306' => some 'й'
  | 'И', '\u0306' => some 'Й'
  | '\u0627', '\u0653' => some '\u0622'
  | '\u0627', '\u0654' => some '\u0623'
  | '\u0648', '\u0654' => some '\u0624'
  | '\u0627', '\u0655' => some '\u0625'
  | '\u064A', '\u0654' => some '\u0626'
  | _, _ => none

/-- Vowels that are written in front of the consonant behind which they sort. -/
def sortsBehind (vowel consonant : Char) : Bool :=
  let isVowel (places : List Nat) := places.contains vowel.toNat
  let isConsonant (first last : Nat) := first ≤ consonant.toNat && consonant.toNat ≤ last
  (isVowel [0xE40, 0xE41, 0xE42, 0xE43, 0xE44] && isConsonant 0xE01 0xE2E)
    || (isVowel [0xEC0, 0xEC1, 0xEC2, 0xEC3, 0xEC4]
      && (isConsonant 0xE81 0xEAE || isConsonant 0xEDC 0xEDF))
    || (isVowel [0x19B5, 0x19B6, 0x19B7, 0x19BA] && isConsonant 0x1980 0x19AB)
    || (isVowel [0xAAB5, 0xAAB6, 0xAAB9, 0xAABB, 0xAABC] && isConsonant 0xAA80 0xAAAF)

/-- Ideographs of the first blocks, which come before all others. -/
def isCoreIdeograph (c : Char) : Bool :=
  (0x4E00 ≤ c.toNat && c.toNat ≤ 0x9FFF)
    || [0xFA0E, 0xFA0F, 0xFA11, 0xFA13, 0xFA14, 0xFA1F, 0xFA21, 0xFA23, 0xFA24, 0xFA27, 0xFA28,
      0xFA29].contains c.toNat

/-- Ideographs of the later blocks. -/
def isOtherIdeograph (c : Char) : Bool :=
  (0x3400 ≤ c.toNat && c.toNat ≤ 0x4DBF) || (0x20000 ≤ c.toNat && c.toNat ≤ 0x323AF)

/-- The last place of the symbols that are no currency. -/
def lastSymbolPlace : Nat := 0x34F

/-- The last place of the letters that have an entry. -/
def lastLetterPlace : Nat := 0x768

/-- The place of a character that has no entry: symbols after other symbols, letters after other
letters, then ideographs, then what is not assigned, each in order of code points. -/
def impliedPrimary (c : Char) : Nat :=
  let place :=
    if isCoreIdeograph c then lastLetterPlace + 2
    else if isOtherIdeograph c then lastLetterPlace + 3
    else
      match (categoryOf c).toList.head? with
      | some 'P' | some 'S' => lastSymbolPlace
      | some 'C' => lastLetterPlace + 4
      | _ => lastLetterPlace + 1
  placeWidth * place + c.toNat

/-- The elements of one character. -/
def elementsOf (c : Char) : List Element :=
  if ignoredTable.containsChar c then []
  else
    match weights? c with
    | some elements => elements
    | none =>
      if categoryOf c == "Cc" || categoryOf c == "Cf" then []
      else [⟨impliedPrimary c, plainSecondary, plainTertiary⟩]

/-- The elements of a text that is taken apart. -/
def elements : List Char → List Element
  | [] => []
  | [c] => elementsOf c
  | c :: d :: rest =>
    match joined? c d with
    | some one => elementsOf one ++ elements rest
    | none =>
      if sortsBehind c d then elementsOf d ++ elementsOf c ++ elements rest
      else elementsOf c ++ elements (d :: rest)

/-- Compares weights one by one; where one list ends, it is the smaller. -/
def compareWeights : List Nat → List Nat → Ordering
  | [], [] => .eq
  | [], _ :: _ => .lt
  | _ :: _, [] => .gt
  | a :: as, b :: bs => if a < b then .lt else if b < a then .gt else compareWeights as bs

/-- The weights of a text on one level. -/
def level (weight : Element → Nat) (es : List Element) : List Nat := (es.map weight).filter (· != 0)

/-- Compares elements level by level. -/
def compareElements (a b : List Element) : Ordering :=
  (compareWeights (level Element.primary a) (level Element.primary b)).then
    ((compareWeights (level Element.secondary a) (level Element.secondary b)).then
      (compareWeights (level Element.tertiary a) (level Element.tertiary b)))

/-- The order of two texts. -/
def compare (a b : String) : Ordering :=
  compareElements (elements (decompose a.toList)) (elements (decompose b.toList))

/-- The order that a collator gives to texts, and that of their characters where there is none. -/
def order (collator? : Option (String → String → Ordering)) (a b : String) : Ordering :=
  match collator? with
  | some collator => collator a b
  | none => Ord.compare a b

end JsxCheck.Collation
