import Mathlib.Data.Nat.Digits.Defs
import Emend.Proofs.Toml.Blank
import Emend.Toml.Document

/-!
# Written strings and keys

A basic string may be written in many ways: every character that is not escaped stands
for itself, and every character may be escaped by its code.  A key may be written
without marks if its signs allow it.
-/

namespace Emend.Toml

variable {c : Char} {cs done rest : List Char} {text : String} {key : String}

/-! ## Basic strings -/

def letterEscapes : List (Char × Char) :=
  [('\x08', 'b'), ('\t', 't'), ('\n', 'n'), ('\x0C', 'f'), ('\r', 'r'), ('\x1B', 'e'), ('"', '"'),
    ('\\', '\\')]

/-- The letters that announce the code of a character, with the number of its digits. -/
def codeEscapes : List (Char × Nat) := [('x', 2), ('u', 4), ('U', 8)]

def IsHex (digits : List Char) (code : Nat) : Prop :=
  ∃ values, List.Forall₂ (fun digit value => Hex.digit? digit = some value) digits values ∧
    Nat.ofDigits 16 values.reverse = code

inductive WritesChar (c : Char) : List Char → Prop
  | plain (htext : IsText c) (hmark : c ≠ '"') (hescape : c ≠ '\\') : WritesChar c [c]
  | letter {letter : Char} (hletter : (c, letter) ∈ letterEscapes) : WritesChar c ['\\', letter]
  | code {letter : Char} {digits : List Char} (hletter : (letter, digits.length) ∈ codeEscapes)
      (hdigits : IsHex digits c.toNat) :
    WritesChar c ('\\' :: letter :: digits)

inductive WritesText : List Char → List Char → Prop
  | nil : WritesText [] []
  | cons {c : Char} {written characters more : List Char} (hfirst : WritesChar c written)
      (hmore : WritesText characters more) :
    WritesText (c :: characters) (written ++ more)

inductive WritesString (text : String) : List Char → Prop
  | mk {inner : List Char} (hinner : WritesText text.toList inner) :
    WritesString text ('"' :: (inner ++ ['"']))

theorem charOfCode_toNat (c : Char) : Hex.charOfCode? c.toNat = some c := by
  have hvalid : c.toNat.isValidChar := c.valid
  unfold Hex.charOfCode?
  rw [dif_pos hvalid]
  rfl

theorem basicStep_letter {letter : Char} (hletter : (c, letter) ∈ letterEscapes)
    (rest : List Char) : basicStep false letter rest .escape = some (.go .plain (some c)) := by
  simp only [letterEscapes, List.mem_cons, Prod.mk.injEq, List.not_mem_nil, or_false] at hletter
  rcases hletter with ⟨rfl, rfl⟩ | ⟨rfl, rfl⟩ | ⟨rfl, rfl⟩ | ⟨rfl, rfl⟩ | ⟨rfl, rfl⟩ | ⟨rfl, rfl⟩ |
    ⟨rfl, rfl⟩ | ⟨rfl, rfl⟩ <;> rfl

theorem basicStep_code {letter : Char} {width : Nat} (hletter : (letter, width) ∈ codeEscapes)
    (rest : List Char) :
    0 < width ∧ basicStep false letter rest .escape = some (.go (.number width 0) none) := by
  simp only [codeEscapes, List.mem_cons, Prod.mk.injEq, List.not_mem_nil, or_false] at hletter
  rcases hletter with ⟨rfl, rfl⟩ | ⟨rfl, rfl⟩ | ⟨rfl, rfl⟩ <;> exact ⟨by decide, rfl⟩

abbrev readInner (state : BasicState) (done cs : List Char) : Option (String × List Char) :=
  readMarked (basicStep false) '"' state done cs

theorem readInner_go {state next : BasicState} {added : Option Char}
    (hstep : basicStep false c rest state = some (.go next added)) :
    readInner state done (c :: rest) = readInner next (added.toList ++ done) rest := by
  rw [readInner, readMarked, hstep]

/-- The digits of a code are read from the highest on. -/
theorem readInner_digits {digits : List Char} {values : List Nat} {code : Nat}
    (hvalues : List.Forall₂ (fun digit value => Hex.digit? digit = some value) digits values)
    (hpos : 0 < digits.length)
    (hcode : values.foldl (fun code digit => code * 16 + digit) code = c.toNat) :
    readInner (.number digits.length code) done (digits ++ rest) =
      readInner .plain (c :: done) rest := by
  induction hvalues generalizing code with
  | nil => simp at hpos
  | @cons digit value digits values hdigit hmore ih =>
    rw [List.foldl_cons] at hcode
    cases hmore with
    | nil =>
      have hstep : basicStep false digit rest (.number 1 code) = some (.go .plain (some c)) := by
        rw [List.foldl_nil] at hcode
        simp [basicStep, numberStep, hdigit, hcode, charOfCode_toNat]
      exact readInner_go hstep
    | @cons next nextValue digits values hnext hmore =>
      have hstep : basicStep false digit (next :: digits ++ rest)
          (.number (digits.length + 1 + 1) code) =
            some (.go (.number (digits.length + 1) (code * 16 + value)) none) := by
        simp [basicStep, numberStep, hdigit]
      exact (readInner_go hstep).trans (ih (by simp) hcode)

theorem foldl_eq_ofDigits (values : List Nat) :
    values.foldl (fun code digit => code * 16 + digit) 0 = Nat.ofDigits 16 values.reverse := by
  rw [Nat.ofDigits_eq_foldr, List.foldr_reverse]
  simp [Nat.add_comm, Nat.mul_comm]

/-- A written character is read as itself. -/
theorem readInner_char {written : List Char} (hwritten : WritesChar c written) :
    readInner .plain done (written ++ rest) = readInner .plain (c :: done) rest := by
  cases hwritten with
  | plain htext hmark hescape =>
    have hstep : basicStep false c rest .plain = some (.go .plain (some c)) := by
      simp [basicStep, basicPlainStep, plainStep, hmark, hescape, htext.isPlain_eq]
    exact readInner_go hstep
  | @letter letter hletter =>
    have hbackslash : basicStep false '\\' (letter :: rest) .plain = some (.go .escape none) := rfl
    exact (readInner_go hbackslash).trans (readInner_go (basicStep_letter hletter rest))
  | @code letter digits hletter hdigits =>
    obtain ⟨values, hvalues, hcode⟩ := hdigits
    obtain ⟨hpos, hstep⟩ := basicStep_code hletter (digits ++ rest)
    have hbackslash : basicStep false '\\' (letter :: (digits ++ rest)) .plain =
        some (.go .escape none) := rfl
    rw [← foldl_eq_ofDigits] at hcode
    calc readInner .plain done ('\\' :: letter :: (digits ++ rest))
        = readInner .escape done (letter :: (digits ++ rest)) := readInner_go hbackslash
      _ = readInner (.number digits.length 0) done (digits ++ rest) := readInner_go hstep
      _ = readInner .plain (c :: done) rest := readInner_digits hvalues hpos hcode

/-- A written text is read up to the mark behind it. -/
theorem readInner_text {characters written : List Char}
    (hwritten : WritesText characters written) :
    readInner .plain done (written ++ '"' :: rest) =
      some (String.ofList (done.reverse ++ characters), rest) := by
  induction hwritten generalizing done with
  | nil =>
    rw [List.nil_append, List.append_nil, readInner, readMarked]
    simp [basicStep, basicPlainStep, markStep]
  | cons hfirst hmore ih =>
    rw [List.append_assoc, readInner_char hfirst, ih]
    simp

/-- A basic string is read back, whatever follows. -/
theorem WritesString.read (hwritten : WritesString text cs) :
    readQuoted? (cs ++ rest) = some (text, rest) := by
  obtain ⟨hinner⟩ := hwritten
  rw [List.cons_append, List.append_assoc, List.singleton_append, readQuoted?, readBasic]
  exact (readInner_text hinner).trans (by simp)

theorem WritesText.head_ne {characters written : List Char}
    (hwritten : WritesText characters written) : written.head? ≠ some '"' := by
  cases hwritten with
  | nil => simp
  | cons hfirst hmore =>
    cases hfirst with
    | plain htext hmark hescape => simpa using hmark
    | letter hletter => simp
    | code hletter hdigits => simp

/-- Marks that are not tripled are those of a string of one line. -/
theorem readString_of_single (htwo : (cs.drop 1).take 2 ≠ ['"', '"'])
    (hmark : cs.head? = some '"') : readString? cs = readQuoted? cs := by
  unfold readString?
  split
  · exact absurd rfl htwo
  · cases hmark
  · rfl

/-- As a value it is read back too, but for a third mark behind an empty one. -/
theorem WritesString.readString (hwritten : WritesString text cs) (hrest : rest.head? ≠ some '"') :
    readString? (cs ++ rest) = some (text, rest) := by
  rw [← hwritten.read]
  obtain @⟨inner, hinner⟩ := hwritten
  refine readString_of_single ?_ rfl
  have hhead := hinner.head_ne
  cases inner with
  | nil =>
    cases rest with
    | nil => simp
    | cons c rest => simpa using hrest
  | cons c inner =>
    intro htwo
    simp_all

/-! ## Keys -/

/-- The ways to write a key without dots: bare, as a basic string or as a literal one. -/
inductive WritesKey (key : String) : List Char → Prop
  | bare (hne : key ≠ "")
      (hsigns : ∀ c ∈ key.toList, c.isAlphanum = true ∨ c = '_' ∨ c = '-') :
    WritesKey key key.toList
  | basic {written : List Char} (hwritten : WritesString key written) : WritesKey key written
  | literal (htext : ∀ c ∈ key.toList, IsText c ∧ c ≠ '\'') :
    WritesKey key ('\'' :: (key.toList ++ ['\'']))

abbrev readLiteralInner (done cs : List Char) : Option (String × List Char) :=
  readMarked (fun c rest _ => literalStep false c rest) '\'' () done cs

theorem readLiteralInner_text {characters : List Char}
    (htext : ∀ c ∈ characters, IsText c ∧ c ≠ '\'') :
    readLiteralInner done (characters ++ '\'' :: rest) =
      some (String.ofList (done.reverse ++ characters), rest) := by
  induction characters generalizing done with
  | nil =>
    rw [List.nil_append, List.append_nil, readLiteralInner, readMarked]
    simp [literalStep, markStep]
  | cons c characters ih =>
    obtain ⟨⟨hc, hmark⟩, hmore⟩ := List.forall_mem_cons.mp htext
    have hstep : literalStep false c (characters ++ '\'' :: rest) = some (.go () (some c)) := by
      simp [literalStep, plainStep, hmark, hc.isPlain_eq]
    rw [List.cons_append, readLiteralInner, readMarked, hstep]
    exact (ih hmore).trans (by simp)

theorem isBareKeySign_iff :
    isBareKeySign c = true ↔ c.isAlphanum = true ∨ c = '_' ∨ c = '-' := by
  simp [isBareKeySign, or_assoc]

theorem WritesKey.of_all (hne : key ≠ "") (hsigns : key.toList.all isBareKeySign = true) :
    WritesKey key key.toList :=
  .bare hne fun c hc => isBareKeySign_iff.mp (List.all_eq_true.mp hsigns c hc)

def EndsKey (rest : List Char) : Prop := ∀ c, rest.head? = some c → isBareKeySign c = false

theorem EndsKey.takeWhile_eq (hrest : EndsKey rest) : rest.takeWhile isBareKeySign = [] := by
  cases rest with
  | nil => rfl
  | cons c rest => simp [hrest c rfl]

theorem EndsKey.dropWhile_eq (hrest : EndsKey rest) : rest.dropWhile isBareKeySign = rest := by
  cases rest with
  | nil => rfl
  | cons c rest => simp [hrest c rfl]

theorem endsKey_append (hblanks : Blanks cs) (hsign : isBareKeySign c = false)
    (rest : List Char) : EndsKey (cs ++ c :: rest) := by
  intro first hfirst
  cases cs with
  | nil =>
    cases hfirst
    exact hsign
  | cons blank cs =>
    cases hfirst
    rcases hblanks first (List.mem_cons_self ..) with rfl | rfl <;> rfl

/-- A key begins with one of its signs or with a mark. -/
theorem WritesKey.exists_cons (hwritten : WritesKey key cs) :
    ∃ first more, cs = first :: more ∧
      (isBareKeySign first = true ∨ first = '"' ∨ first = '\'') := by
  cases hwritten with
  | bare hne hsigns =>
    have hnil : key.toList ≠ [] := by simpa using hne
    obtain ⟨first, more, hcs⟩ := List.exists_cons_of_ne_nil hnil
    exact ⟨first, more, hcs, .inl (isBareKeySign_iff.mpr (hsigns first (by simp [hcs])))⟩
  | basic hwritten =>
    obtain ⟨hinner⟩ := hwritten
    exact ⟨_, _, rfl, .inr (.inl rfl)⟩
  | literal htext => exact ⟨_, _, rfl, .inr (.inr rfl)⟩

theorem readQuoted_of_bare (hsign : isBareKeySign c = true) (rest : List Char) :
    readQuoted? (c :: rest) = none := by
  unfold readQuoted?
  split
  · next hmark =>
    cases hmark
    exact absurd hsign (by decide)
  · next hmark =>
    cases hmark
    exact absurd hsign (by decide)
  · rfl

/-- A written key is read up to its end. -/
theorem WritesKey.readSimpleKey (hwritten : WritesKey key cs) (hrest : EndsKey rest) :
    readSimpleKey (cs ++ rest) = some (key, rest) := by
  cases hwritten with
  | bare hne hsigns =>
    have hinside : ∀ c ∈ key.toList, isBareKeySign c = true :=
      fun c hc => isBareKeySign_iff.mpr (hsigns c hc)
    have hnil : key.toList ≠ [] := by simpa using hne
    have hunquoted : readQuoted? (key.toList ++ rest) = none := by
      obtain ⟨first, more, hcs⟩ := List.exists_cons_of_ne_nil hnil
      rw [hcs]
      exact readQuoted_of_bare (hinside first (by simp [hcs])) _
    have htake : (key.toList ++ rest).takeWhile isBareKeySign = key.toList := by
      rw [List.takeWhile_append_of_pos hinside, hrest.takeWhile_eq, List.append_nil]
    have hdrop : (key.toList ++ rest).dropWhile isBareKeySign = rest := by
      rw [List.dropWhile_append_of_pos hinside, hrest.dropWhile_eq]
    rw [Toml.readSimpleKey, hunquoted]
    simp [htake, hdrop, hne]
  | basic hwritten => rw [Toml.readSimpleKey, hwritten.read]
  | literal htext =>
    have hread : readQuoted? ('\'' :: (key.toList ++ ['\'']) ++ rest) = some (key, rest) := by
      rw [List.cons_append, List.append_assoc, List.singleton_append, readQuoted?, readLiteral]
      exact (readLiteralInner_text htext).trans (by simp)
    rw [Toml.readSimpleKey, hread]

theorem opens_of_key (hfirst : isBareKeySign c = true ∨ c = '"' ∨ c = '\'') :
    Opens c ∧ c ≠ '[' := by
  rcases hfirst with hsign | rfl | rfl
  · have hne {other : Char} (hother : isBareKeySign other = false) : c ≠ other := by
      rintro rfl
      rw [hsign] at hother
      cases hother
    exact ⟨⟨⟨hne rfl, hne rfl, hne rfl, hne rfl, hne rfl⟩, hne rfl, hne rfl, hne rfl⟩, hne rfl⟩
  · decide
  · decide

/-- A key is read up to the first sign behind it. -/
theorem WritesKey.readKeyFrom {before after : List Char} {sign : Char} (hwritten : WritesKey key cs)
    (hbefore : Blanks before) (hafter : Blanks after) (hsign : isBareKeySign sign = false)
    (hsign' : IsSign sign) (n : Nat) (rest : List Char) :
    readKeyFrom (n + 1) (before ++ (cs ++ (after ++ sign :: rest))) =
      if sign = '.' then (Toml.readKeyFrom n rest).map fun found => (key :: found.1, found.2)
      else some ([key], sign :: rest) := by
  obtain ⟨first, more, rfl, hfirst⟩ := hwritten.exists_cons
  have hskip : skipBlanks (before ++ (first :: more ++ (after ++ sign :: rest))) =
      first :: more ++ (after ++ sign :: rest) := by
    rw [skipBlanks_append hbefore]
    exact skipBlanks_cons (opens_of_key hfirst).1.1 _
  have hsimple := hwritten.readSimpleKey (endsKey_append hafter hsign rest)
  have hrest : skipBlanks (after ++ sign :: rest) = sign :: rest := by
    rw [skipBlanks_append hafter, skipBlanks_cons hsign']
  rw [Toml.readKeyFrom, hskip]
  simp only [hsimple, bind, Option.bind, hrest]
  split_ifs with hdot
  · subst hdot
    simp only
    cases Toml.readKeyFrom n rest <;> rfl
  · split
    · next hmark =>
      cases hmark
      exact absurd rfl hdot
    · rfl

/-- A key with dots that can be read has the key in front that it begins with. -/
theorem WritesKey.head_of_readKeyFrom {before writtenKey after : List Char} {sign : Char}
    (hkey : WritesKey key writtenKey) (hbefore : Blanks before) (hafter : Blanks after)
    (hsign : isBareKeySign sign = false ∧ IsSign sign) {n : Nat} {path : List String}
    (hread : Toml.readKeyFrom n (before ++ (writtenKey ++ (after ++ sign :: cs))) =
      some (path, rest)) : path.head? = some key := by
  cases n with
  | zero => cases hread
  | succ n =>
    rw [hkey.readKeyFrom hbefore hafter hsign.1 hsign.2] at hread
    split_ifs at hread
    · obtain ⟨found, -, hfound⟩ := Option.map_eq_some_iff.mp hread
      cases hfound
      rfl
    · cases hread
      rfl

end Emend.Toml
