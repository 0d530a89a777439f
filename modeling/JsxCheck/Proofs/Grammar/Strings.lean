import JsxCheck.Grammar.Token
import JsxCheck.Proofs.Source.Characters

/-!
String literals and their values.

The body of a literal spells its value: characters stand for themselves, and an escape stands for one
character or none. So a literal is as long as its value and its quotes exactly when it has no escape,
and then the value is what stands between the quotes.
-/
namespace JsxCheck.Grammar

/-- The characters between the quotes of a string literal, and those of its value. -/
inductive Spells (quote : Char) : List Char → List Char → Prop where
  | nil : Spells quote [] []
  | plain {c : Char} {body value : List Char} :
      c ≠ quote ∧ c ≠ '\\' ∧ c ≠ '\n' ∧ c ≠ '\r' → Spells quote body value →
        Spells quote (c :: body) (c :: value)
  | escape {written stands body value : List Char} :
      written ≠ [] → stands.length ≤ 1 → Spells quote body value →
        Spells quote ('\\' :: (written ++ body)) (stands ++ value)

namespace Spells

variable {quote : Char} {body value : List Char}

theorem length_le (spells : Spells quote body value) : value.length ≤ body.length := by
  induction spells with
  | nil => exact Nat.le_refl _
  | plain _ _ ih => exact Nat.succ_le_succ ih
  | escape _ short _ ih =>
    rw [List.length_append, List.length_cons, List.length_append]
    omega

theorem length_lt (spells : Spells quote body value) (escaped : '\\' ∈ body) :
    value.length < body.length := by
  induction spells with
  | nil => cases escaped
  | plain other _ ih =>
    rcases List.mem_cons.mp escaped with here | later
    · exact absurd here.symm other.2.1
    · exact Nat.succ_lt_succ (ih later)
  | escape written short rest _ =>
    have some := List.length_pos_iff.mpr written
    have bound := rest.length_le
    rw [List.length_append, List.length_cons, List.length_append]
    omega

/-- Without an escape a value is spelled by itself. -/
theorem of_not_mem (spells : Spells quote body value) (unescaped : '\\' ∉ body) :
    value = body ∧ ∀ c ∈ body, c ≠ quote ∧ c ≠ '\n' ∧ c ≠ '\r' := by
  induction spells with
  | nil => exact ⟨rfl, nofun⟩
  | plain other _ ih =>
    obtain ⟨same, plain⟩ := ih fun later => unescaped (List.mem_cons_of_mem _ later)
    refine ⟨by rw [same], List.forall_mem_cons.mpr ⟨⟨other.1, other.2.2⟩, plain⟩⟩
  | escape => exact absurd List.mem_cons_self unescaped

theorem eq_iff (spells : Spells quote body value) : value = body ↔ '\\' ∉ body := by
  refine ⟨fun same escaped => ?_, fun unescaped => (spells.of_not_mem unescaped).1⟩
  have shorter := spells.length_lt escaped
  rw [same] at shorter
  exact Nat.lt_irrefl _ shorter

end Spells

/-! ### Escapes -/

section Escapes

variable {s : Source} {i : Nat}

theorem utf8Size_eq_one {c : Char} (ascii : c.toNat < 128) : c.utf8Size = 1 := by
  rw [Char.utf8Size_eq_one_iff, UInt32.le_iff_toNat_le]
  show c.toNat ≤ 127
  omega

theorem isBoundary_succ {c : Char} (here : s.char? i = some c) (ascii : c.toNat < 128) :
    s.isBoundary (i + 1) = true := (Source.isBoundary_succ_iff here).mpr (utf8Size_eq_one ascii)

theorem toNat_lt_of_hexDigit? {c : Char} {d : Nat} (digit : hexDigit? c = some d) :
    c.toNat < 128 := by
  have below : ∀ e : Char, e.toNat < 128 → c ≤ e → c.toNat < 128 := by
    intro e small le
    have order : c.toNat ≤ e.toNat := le
    omega
  unfold hexDigit? at digit
  split at digit
  · rename_i range
    exact below '9' (by decide) range.2
  · split at digit
    · rename_i range
      exact below 'f' (by decide) range.2
    · split at digit
      · rename_i range
        exact below 'F' (by decide) range.2
      · cases digit

theorem toNat_lt_of_octalDigit? {c : Char} {d : Nat} (digit : octalDigit? c = some d) :
    c.toNat < 128 := by
  unfold octalDigit? at digit
  split at digit
  · rename_i range
    have order : c.toNat ≤ 55 := range.2
    omega
  · cases digit

theorem readHexDigits_isBoundary {count value n stop total : Nat} (starts : s.isBoundary i = true)
    (read : readHexDigits s count i value = (n, stop, total)) :
    s.isBoundary stop = true ∧ i ≤ stop := by
  induction count generalizing i value n total with
  | zero =>
    obtain ⟨_, rfl, _⟩ : 0 = n ∧ i = stop ∧ value = total := by simpa [readHexDigits] using read
    exact ⟨starts, Nat.le_refl _⟩
  | succ count ih =>
    rw [readHexDigits] at read
    split at read
    · rename_i d digit
      obtain ⟨c, here, hex⟩ := Option.bind_eq_some_iff.mp digit
      cases rest : readHexDigits s count (i + 1) (16 * value + d) with
      | mk k later =>
        obtain ⟨after, sum⟩ := later
        rw [rest] at read
        obtain ⟨_, rfl, _⟩ : k + 1 = n ∧ after = stop ∧ sum = total := by simpa using read
        obtain ⟨cut, order⟩ := ih (isBoundary_succ here (toNat_lt_of_hexDigit? hex)) rest
        exact ⟨cut, by omega⟩
    · obtain ⟨_, rfl, _⟩ : 0 = n ∧ i = stop ∧ value = total := by simpa using read
      exact ⟨starts, Nat.le_refl _⟩

theorem readHex?_isBoundary {count value stop : Nat} (starts : s.isBoundary i = true)
    (read : readHex? s count i = some (value, stop)) : s.isBoundary stop = true ∧ i ≤ stop := by
  unfold readHex? at read
  cases digits : readHexDigits s count i 0 with
  | mk n later =>
    obtain ⟨after, total⟩ := later
    rw [digits] at read
    dsimp only at read
    split at read
    · cases read
      exact readHexDigits_isBoundary starts digits
    · cases read

theorem readCodePoint?_isBoundary {value stop : Nat} (starts : s.isBoundary i = true)
    (read : readCodePoint? s i = some (value, stop)) : s.isBoundary stop = true ∧ i ≤ stop := by
  unfold readCodePoint? at read
  split at read
  · rename_i brace
    have behind := isBoundary_succ (beq_iff_eq.mp brace) (by decide)
    cases digits : readHexDigits s s.size (i + 1) 0 with
    | mk n later =>
      obtain ⟨after, total⟩ := later
      rw [digits] at read
      dsimp only at read
      split at read
      · rename_i closed
        simp only [Bool.and_eq_true, beq_iff_eq] at closed
        cases read
        obtain ⟨_, order⟩ := readHexDigits_isBoundary behind digits
        exact ⟨isBoundary_succ closed.2 (by decide), by omega⟩
      · cases read
  · exact readHex?_isBoundary starts read

theorem readUnicodeEscape?_isBoundary {c : Char} {stop : Nat} (starts : s.isBoundary i = true)
    (read : readUnicodeEscape? s i = some (c, stop)) : s.isBoundary stop = true ∧ i ≤ stop := by
  obtain ⟨⟨high, middle⟩, first, read⟩ := Option.bind_eq_some_iff.mp read
  obtain ⟨cut, order⟩ := readCodePoint?_isBoundary starts first
  dsimp only at read
  split at read
  · rename_i surrogate
    simp only [Bool.and_eq_true] at surrogate
    have behind := (Source.isBoundary_of_hasAt surrogate.2 (k := 1) (b := 117) (by decide)
      (by decide)).2
    split at read
    · rename_i low after second
      obtain ⟨cut', order'⟩ := readCodePoint?_isBoundary behind second
      split at read
      · obtain ⟨_, rfl⟩ := Prod.mk.inj (Option.some.inj read)
        exact ⟨cut', by omega⟩
      · obtain ⟨_, rfl⟩ := Prod.mk.inj (Option.some.inj read)
        exact ⟨cut, order⟩
    · obtain ⟨_, rfl⟩ := Prod.mk.inj (Option.some.inj read)
      exact ⟨cut, order⟩
  · obtain ⟨_, rfl⟩ := Prod.mk.inj (Option.some.inj read)
    exact ⟨cut, order⟩

theorem readOctal_isBoundary {count value : Nat} (starts : s.isBoundary i = true) :
    s.isBoundary (readOctal s count i value).2 = true ∧ i ≤ (readOctal s count i value).2 := by
  induction count generalizing i value with
  | zero => exact ⟨starts, Nat.le_refl _⟩
  | succ count ih =>
    rw [readOctal]
    split
    · rename_i d digit
      obtain ⟨c, here, octal⟩ := Option.bind_eq_some_iff.mp digit
      split
      · have behind := isBoundary_succ here (toNat_lt_of_octalDigit? octal)
        obtain ⟨cut, order⟩ := @ih (i + 1) (8 * value + d) behind
        exact ⟨cut, by omega⟩
      · exact ⟨starts, Nat.le_refl _⟩
    · exact ⟨starts, Nat.le_refl _⟩

theorem readEscape?_spec {octal : Bool} {stands : List Char} {stop : Nat}
    (read : readEscape? s octal i = some (stands, stop)) :
    s.isBoundary stop = true ∧ i < stop ∧ stands.length ≤ 1 := by
  obtain ⟨c, here, read⟩ := Option.bind_eq_some_iff.mp read
  have behind := Source.isBoundary_add_utf8Size here
  have size := c.utf8Size_pos
  -- Most escapes are one character long and stand for one character, or join two lines.
  have single : ∀ e : List Char, e.length ≤ 1 → some (e, i + c.utf8Size) = some (stands, stop) →
      s.isBoundary stop = true ∧ i < stop ∧ stands.length ≤ 1 := by
    intro e short same
    cases same
    exact ⟨behind, by omega, short⟩
  dsimp only at read
  split at read
  · exact single _ (Nat.le_refl _) read
  · split at read
    · obtain ⟨⟨value, after⟩, hex, read⟩ := Option.bind_eq_some_iff.mp read
      cases read
      obtain ⟨cut, order⟩ := readHex?_isBoundary behind hex
      exact ⟨cut, by omega, Nat.le_refl _⟩
    · split at read
      · obtain ⟨⟨u, after⟩, unicode, read⟩ := Option.bind_eq_some_iff.mp read
        cases read
        obtain ⟨cut, order⟩ := readUnicodeEscape?_isBoundary behind unicode
        exact ⟨cut, by omega, Nat.le_refl _⟩
      · split at read
        · -- A carriage return may take a line feed with it.
          split at read
          · rename_i feed
            cases read
            exact ⟨isBoundary_succ (beq_iff_eq.mp feed) (by decide), by omega, Nat.zero_le _⟩
          · exact single _ (Nat.zero_le _) read
        · split at read
          · exact single _ (Nat.zero_le _) read
          · split at read
            · split at read
              · exact single _ (Nat.le_refl _) read
              · split at read
                · cases read
                · split at read
                  · cases read
                    obtain ⟨cut, order⟩ := readOctal_isBoundary behind
                    exact ⟨cut, by omega, Nat.le_refl _⟩
                  · exact single _ (Nat.le_refl _) read
            · exact single _ (Nat.le_refl _) read

end Escapes

/-! ### Literals -/

section Literals

variable {s : Source} {quote : Char}

/-- What is read as a string spells its value, up to a quote. -/
theorem spells_of_readStringFrom? {fuel stop : Nat} {l r before : List Char} {value : String}
    (split : s.text.toList = l ++ r)
    (read : readStringFrom? s quote fuel (String.utf8Len l) before = some (value, stop)) :
    ∃ body rest added, r = body ++ quote :: rest ∧ Spells quote body added ∧
      value.toList = before.reverse ++ added ∧ stop = String.utf8Len (l ++ body) + 1 := by
  -- Each step moves what it reads from the rest `r` of the text to its front `l`.
  induction fuel generalizing l r before with
  | zero => cases read
  | succ fuel ih =>
    rw [readStringFrom?] at read
    cases r with
    | nil =>
      rw [Source.char?_of_end (by rw [split, List.append_nil])] at read
      cases read
    | cons c r =>
      rw [Source.char?_of_split split] at read
      dsimp only at read
      split at read
      · rename_i closes
        cases read
        obtain rfl : c = quote := beq_iff_eq.mp closes
        exact ⟨[], r, [], rfl, .nil, by simp, by simp⟩
      · rename_i inside
        split at read
        · rename_i isEscape
          obtain rfl : c = '\\' := beq_iff_eq.mp isEscape
          split at read
          · rename_i stands after escape
            obtain ⟨cut, order, short⟩ := readEscape?_spec escape
            have moved : s.text.toList = (l ++ ['\\']) ++ r := by rw [split, List.append_assoc]; rfl
            have slash : String.utf8Len (l ++ ['\\']) = String.utf8Len l + 1 := by
              rw [String.utf8Len_append]
              rfl
            -- Behind the escape the text can be cut, so it takes up whole characters.
            obtain ⟨written, back, rfl, reach⟩ := Source.exists_split_after moved cut (by omega)
            have some : written ≠ [] := by
              rintro rfl
              rw [List.append_nil] at reach
              omega
            rw [← reach] at read
            obtain ⟨body, rest, added, rfl, spells, sum, ends⟩ :=
              ih (r := back) (by rw [moved, List.append_assoc _ written]) read
            refine ⟨'\\' :: (written ++ body), rest, stands ++ added, ?_, .escape some short spells,
              ?_, ?_⟩
            · simp
            · rw [sum]
              simp
            · rw [ends]
              simp
          · cases read
        · rename_i unescaped
          split at read
          · cases read
          · rename_i sameLine
            have reach : String.utf8Len l + c.utf8Size = String.utf8Len (l ++ [c]) := by
              rw [String.utf8Len_append, String.utf8Len_cons, String.utf8Len_nil, Nat.zero_add]
            rw [reach] at read
            obtain ⟨body, rest, added, rfl, spells, sum, ends⟩ :=
              ih (l := l ++ [c]) (by rw [split, List.append_assoc]; rfl) read
            refine ⟨c :: body, rest, c :: added, rfl, .plain ?_ spells, ?_, ?_⟩
            · simp only [Bool.or_eq_true, beq_iff_eq, not_or] at inside unescaped sameLine
              exact ⟨inside, unescaped, sameLine⟩
            · rw [sum]
              simp
            · rw [ends]
              simp

theorem readStringFrom?_of_plain {fuel : Nat} {l body rest before : List Char}
    (split : s.text.toList = l ++ (body ++ quote :: rest))
    (plain : ∀ c ∈ body, c ≠ quote ∧ c ≠ '\\' ∧ c ≠ '\n' ∧ c ≠ '\r')
    (enough : String.utf8Len body < fuel) :
    readStringFrom? s quote fuel (String.utf8Len l) before =
      some (String.ofList (before.reverse ++ body), String.utf8Len (l ++ body) + 1) := by
  induction body generalizing fuel l before with
  | nil =>
    obtain ⟨fuel, rfl⟩ := Nat.exists_eq_add_one_of_ne_zero (Nat.ne_of_gt enough)
    rw [readStringFrom?, Source.char?_of_split split]
    simp
  | cons c body ih =>
    obtain ⟨fuel, rfl⟩ := Nat.exists_eq_add_one_of_ne_zero (Nat.ne_of_gt (Nat.zero_lt_of_lt enough))
    obtain ⟨⟨inside, unescaped, feed, return_⟩, plain⟩ := List.forall_mem_cons.mp plain
    have reach : String.utf8Len l + c.utf8Size = String.utf8Len (l ++ [c]) := by
      rw [String.utf8Len_append, String.utf8Len_cons, String.utf8Len_nil, Nat.zero_add]
    rw [readStringFrom?, Source.char?_of_split split]
    simp only [beq_iff_eq, inside, unescaped, feed, return_, if_false, Bool.or_eq_true, or_self]
    have positive := c.utf8Size_pos
    rw [String.utf8Len_cons] at enough
    rw [reach, ih (by rw [split, List.append_assoc]; rfl) plain (by omega)]
    simp

end Literals

/-- A text is one token: a string with a value. -/
def IsStringLiteral (text value : String) : Prop :=
  readCode ⟨text⟩ 0 = (.string value, text.utf8ByteSize)

instance (text value : String) : Decidable (IsStringLiteral text value) :=
  inferInstanceAs (Decidable (_ = _))

theorem readNumber_ne_string (s : Source) (i : Nat) (value : String) :
    (readNumber s i).1 ≠ .string value := by
  have radix : ∀ {kind stop}, readRadix? s i = some (kind, stop) → kind ≠ .string value := by
    intro kind stop read
    obtain ⟨digits, _, same⟩ := Option.map_eq_some_iff.mp read
    split at same <;> cases same <;> nofun
  have decimal : ∀ {kind stop}, readDecimal? s i = some (kind, stop) → kind ≠ .string value := by
    intro kind stop read
    obtain ⟨whole, _, read⟩ := Option.bind_eq_some_iff.mp read
    split at read
    · cases read
      nofun
    · dsimp only at read
      split at read <;>
      · obtain ⟨fraction, _, read⟩ := Option.bind_eq_some_iff.mp read
        obtain ⟨last, _, read⟩ := Option.bind_eq_some_iff.mp read
        cases read
        nofun
  unfold readNumber
  dsimp only
  split
  · rename_i kind stop read
    split
    · nofun
    · split at read
      · exact radix read
      · exact decimal read
  · nofun

/-- A literal is a quote, what spells its value, and the same quote. -/
theorem IsStringLiteral.exists_spells {text value : String} (literal : IsStringLiteral text value) :
    ∃ quote body, (quote = '"' ∨ quote = '\'') ∧ text.toList = quote :: (body ++ [quote]) ∧
      Spells quote body value.toList := by
  unfold IsStringLiteral readCode at literal
  split at literal
  · cases literal
  · rename_i c first
    obtain ⟨l, r, split, start⟩ := Source.char?_eq_some_iff.mp first
    obtain rfl : l = [] := by
      cases l with
      | nil => rfl
      | cons d l =>
        have size := d.utf8Size_pos
        rw [String.utf8Len_cons] at start
        omega
    split at literal
    · split at literal <;> cases literal
    · split at literal
      · exact absurd (congrArg Prod.fst literal) (readNumber_ne_string _ _ _)
      · split at literal
        · rename_i quoted
          split at literal
          · rename_i found stop read
            obtain ⟨same, ends⟩ := Prod.mk.inj literal
            obtain rfl : found = value := TokenKind.string.inj same
            have quotes : c = '"' ∨ c = '\'' := by simpa using quoted
            have width : c.utf8Size = 1 := by rcases quotes with rfl | rfl <;> rfl
            have opened : String.utf8Len [c] = 0 + 1 := by
              rw [String.utf8Len_cons, String.utf8Len_nil, width]
            rw [← opened] at read
            obtain ⟨body, rest, added, rfl, spells, sum, reach⟩ :=
              spells_of_readStringFrom? (l := [c]) split read
            -- The literal takes up the whole text, so nothing follows the closing quote.
            have whole : String.utf8Len text.toList = String.utf8Len ([c] ++ body) + 1 := by
              rw [String.utf8Len_toList, ← ends, reach]
            have none : rest = [] := by
              rw [show text.toList = ([c] ++ body) ++ c :: rest by rw [split]; simp,
                String.utf8Len_append, String.utf8Len_cons, width] at whole
              exact String.utf8Len_eq_zero.mp (by omega)
            refine ⟨c, body, quotes, by rw [split, none]; rfl, ?_⟩
            rw [sum]
            exact spells
          · cases literal
        · split at literal
          · unfold readTemplate at literal
            split at literal <;> cases literal
          · split at literal
            · split at literal <;> cases literal
            · unfold readPunctuation at literal
              split at literal <;> cases literal

/-- A value without a quote, a backslash or a line break is written as it is. -/
theorem isStringLiteral_of_plain {text value : String} {quote : Char}
    (quotes : quote = '"' ∨ quote = '\'') (form : text.toList = quote :: (value.toList ++ [quote]))
    (plain : ∀ c ∈ value.toList, c ≠ quote ∧ c ≠ '\\' ∧ c ≠ '\n' ∧ c ≠ '\r') :
    IsStringLiteral text value := by
  have width : quote.utf8Size = 1 := by rcases quotes with rfl | rfl <;> rfl
  have opened : String.utf8Len [quote] = 0 + 1 := by
    rw [String.utf8Len_cons, String.utf8Len_nil, width]
  have first : (Source.mk text).char? 0 = some quote := Source.char?_of_split (l := []) form
  have size : text.utf8ByteSize = String.utf8Len ([quote] ++ value.toList) + 1 := by
    rw [← String.utf8Len_toList text, form, ← List.cons_append, String.utf8Len_append, opened]
    rfl
  have read : readStringFrom? ⟨text⟩ quote ((Source.mk text).size + 1) (String.utf8Len [quote]) [] =
      some (String.ofList ([].reverse ++ value.toList),
        String.utf8Len ([quote] ++ value.toList) + 1) := by
    refine readStringFrom?_of_plain form plain ?_
    have inside : (Source.mk text).size = text.utf8ByteSize := rfl
    rw [String.utf8Len_append] at size
    omega
  rw [opened, List.reverse_nil, List.nil_append, String.ofList_toList, ← size] at read
  have word : (isIdentStart quote || quote == '\\') = false := by
    rcases quotes with rfl | rfl <;> decide
  have number : ∀ b, (quote.isDigit || (quote == '.' && b)) = false := by
    rcases quotes with rfl | rfl <;> decide
  have string : (quote == '"' || quote == '\'') = true := by rcases quotes with rfl | rfl <;> decide
  unfold IsStringLiteral readCode
  rw [first]
  simp only [word, number, string, Bool.false_eq_true, if_true, if_false]
  rw [read]

end JsxCheck.Grammar
