import Mathlib
import Emend.Pattern.Reading
import Emend.Pattern.Template

/-!
# Writing replacements

A replacement is meant as a list of tokens: letters, and references to capture groups.
Written with every dollar sign doubled and every reference in braces, it is read back as
just these.
-/

namespace Emend.Pattern

variable {c : Char} {rest text after : List Char}

structure GroupName where
  first : Char
  others : List Char
  begins : beginsName first = true
  continues : others.all continuesName = true

def GroupName.letters (name : GroupName) : List Char := name.first :: name.others

inductive Token where
  | text (letters : List Char)
  | numbered (index : Nat)
  | named (name : GroupName)

def doubled (letters : List Char) : List Char :=
  letters.flatMap fun c => if c = '$' then ['$', '$'] else [c]

namespace Token

def written : Token → List Char
  | .text letters => doubled letters
  | .numbered index => '$' :: '\x7b' :: (Nat.toDigits 10 index ++ ['\x7d'])
  | .named name => '$' :: '\x7b' :: (name.letters ++ ['\x7d'])

def pieces : Token → Template
  | .text letters => letters.map .char
  | .numbered index => [.numbered index]
  | .named name => [.named name.letters]

end Token

/-! ## Names -/

/-- Neither a digit nor a plus sign begins a name. -/
theorem not_beginsName_of_isDigit (hdigit : c.isDigit = true) : beginsName c = false := by
  have hbounds : 48 ≤ c.toNat ∧ c.toNat ≤ 57 := by
    rw [Char.isDigit, Bool.and_eq_true, decide_eq_true_eq, decide_eq_true_eq] at hdigit
    exact hdigit
  have hletter : isLetter c = false := by
    rw [isLetter, if_pos (by omega)]
    simp only [Char.isAlpha, Char.isUpper, Char.isLower, ↓Char.isValue, Char.reduceVal,
      ge_iff_le, UInt32.le_iff_toNat_le, UInt32.reduceToNat, Char.toNat_val, Bool.decide_and,
      Bool.or_eq_false_iff, Bool.and_eq_false_imp, decide_eq_true_eq, decide_eq_false_iff_not,
      not_le]
    omega
  rw [beginsName, hletter, Bool.or_false, decide_eq_false_iff_not]
  rintro rfl
  exact absurd hbounds (by decide)

theorem not_beginsName_plus : beginsName '+' = false := by decide

theorem not_continuesName_brace : continuesName '\x7d' = false := by decide

theorem beginsName_continues (hbegins : beginsName c = true) : continuesName c = true := by
  rw [beginsName, Bool.or_eq_true] at hbegins
  rw [continuesName]
  rcases hbegins with hline | hletter
  · simp [hline]
  · simp [hletter]

theorem GroupName.not_mem_brace (name : GroupName) : '\x7d' ∉ name.letters := by
  have hall : name.letters.all continuesName = true := by
    rw [letters, List.all_cons, beginsName_continues name.begins, name.continues]
    rfl
  intro hmem
  have hbrace := List.all_eq_true.mp hall _ hmem
  rw [not_continuesName_brace] at hbrace
  cases hbrace

namespace Template

/-! ## Reading replacements -/

/-- A letter other than a dollar sign stands for itself. -/
theorem ofChars_cons (hplain : c ≠ '$') : ofChars (c :: rest) = .char c :: ofChars rest := by
  rw [ofChars]
  · exact fun _ h => absurd h hplain
  · exact hplain

theorem ofChars_dollars : ofChars ('$' :: '$' :: rest) = .char '$' :: ofChars rest := by
  rw [ofChars]

theorem ofChars_reference (hsplit : splitReference? rest = some (text, after))
    (hfirst : rest.head? ≠ some '$') :
    ofChars ('$' :: rest) = reference text :: ofChars after := by
  rw [ofChars]
  · split
    · next h => simp_all
    · next h => simp_all
  · rintro _ rfl
    exact hfirst rfl

theorem ofChars_doubled (letters rest : List Char) :
    ofChars (doubled letters ++ rest) = letters.map .char ++ ofChars rest := by
  induction letters with
  | nil => rfl
  | cons c letters ih =>
    rw [doubled, List.flatMap_cons, List.append_assoc, List.map_cons, List.cons_append, ← ih]
    split_ifs with hdollar
    · rw [hdollar]
      exact ofChars_dollars
    · exact ofChars_cons hdollar

theorem splitReference?_braced (hbrace : '\x7d' ∉ text) (rest : List Char) :
    splitReference? ('\x7b' :: (text ++ '\x7d' :: rest)) = some (text, rest) := by
  have hall : ∀ c ∈ text, decide (c ≠ '\x7d') = true := by
    intro c hc
    exact decide_eq_true (ne_of_mem_of_not_mem hc hbrace)
  rw [splitReference?, List.takeWhile_append_of_pos hall, List.dropWhile_append_of_pos hall]
  simp

theorem ofChars_braced (hbrace : '\x7d' ∉ text) (rest : List Char) :
    ofChars ('$' :: '\x7b' :: (text ++ '\x7d' :: rest)) = reference text :: ofChars rest :=
  ofChars_reference (splitReference?_braced hbrace rest) (by simp)

/-! ## References -/

theorem number?_toDigits (index : Nat) : number? (Nat.toDigits 10 index) = some index := by
  have hdigits : (Nat.toDigits 10 index).all Char.isDigit = true :=
    List.all_eq_true.mpr fun c hc => Nat.isDigit_of_mem_toDigits (by decide) (by decide) hc
  have hvalue := Nat.ofDigitChars_toDigits (b := 10) (n := index) (by decide) (by decide)
  simp only [Nat.ofDigitChars, Nat.mul_comm 10] at hvalue
  rw [number?, if_neg (by simp [hdigits, Nat.toDigits_ne_nil]), hvalue]

theorem number?_of_not_digit (hfirst : c.isDigit = false) : number? (c :: rest) = none := by
  simp [number?, hfirst]

theorem reference_number (index : Nat) :
    reference (Nat.toDigits 10 index) = .numbered index := by
  have hnumber := number?_toDigits index
  cases hdigits : Nat.toDigits 10 index with
  | nil => exact absurd hdigits Nat.toDigits_ne_nil
  | cons first others =>
    have hfirst : first.isDigit = true :=
      Nat.isDigit_of_mem_toDigits (by decide) (by decide) (hdigits ▸ List.mem_cons_self)
    have hplus : first ≠ '+' := by
      rintro rfl
      cases hfirst
    rw [hdigits] at hnumber
    simp [reference, hnumber, hplus]

theorem reference_name (name : GroupName) : reference name.letters = .named name.letters := by
  have hdigit : name.first.isDigit = false := by
    by_contra hdigit
    have hbegins := not_beginsName_of_isDigit (by simpa using hdigit)
    rw [name.begins] at hbegins
    cases hbegins
  have hplus : name.first ≠ '+' := by
    intro hplus
    have hbegins := name.begins
    rw [hplus, not_beginsName_plus] at hbegins
    cases hbegins
  simp [reference, GroupName.letters, hplus, number?_of_not_digit hdigit]

/-! ## Tokens -/

/-- A token that is written is read as its pieces. -/
theorem ofChars_written (token : Token) (rest : List Char) :
    ofChars (token.written ++ rest) = token.pieces ++ ofChars rest := by
  cases token with
  | text letters => exact ofChars_doubled letters rest
  | numbered index =>
    have hbrace : '\x7d' ∉ Nat.toDigits 10 index := fun hmem =>
      absurd (Nat.isDigit_of_mem_toDigits (by decide) (by decide) hmem) (by decide)
    have hread := ofChars_braced hbrace rest
    rw [reference_number] at hread
    simpa [Token.written, Token.pieces] using hread
  | named name =>
    have hread := ofChars_braced name.not_mem_brace rest
    rw [reference_name] at hread
    simpa [Token.written, Token.pieces] using hread

/-- What is written for some tokens is read back as these. -/
theorem ofChars_tokens (tokens : List Token) :
    ofChars (tokens.flatMap Token.written) = tokens.flatMap Token.pieces := by
  induction tokens with
  | nil => rw [List.flatMap_nil, ofChars, List.flatMap_nil]
  | cons token tokens ih => rw [List.flatMap_cons, ofChars_written, ih, List.flatMap_cons]

end Template

end Emend.Pattern
