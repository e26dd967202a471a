import Emend.Toml.Blank

/-!
# What is passed over

Between the signs of a document stand blanks, comments and line ends.  The grammar of
them is given on its own here, and the reader is shown to pass over all that it allows.
-/

namespace Emend.Toml

variable {c : Char} {cs rest : List Char} {inComment : Bool}

def Blanks (cs : List Char) : Prop := ∀ c ∈ cs, c = ' ' ∨ c = '\t'

inductive LineEnd : List Char → Prop
  | lineFeed : LineEnd ['\n']
  | carriageReturn : LineEnd ['\r', '\n']

/-- A character other than control characters, or a tab. -/
def IsText (c : Char) : Prop := c = '\t' ∨ 0x20 ≤ c.toNat ∧ c.toNat ≠ 0x7F

/-- What may stand at the end of a line, before its line end. -/
inductive Margin : List Char → Prop
  | blanks {before : List Char} (hblanks : Blanks before) : Margin before
  | comment {before text : List Char} (hblanks : Blanks before) (htext : ∀ c ∈ text, IsText c) :
    Margin (before ++ '#' :: text)

/-- What may stand before a sign: lines of blanks and comments, and then blanks. -/
inductive Filler : List Char → Prop
  | blanks {before : List Char} (hblanks : Blanks before) : Filler before
  | line {margin lineEnd more : List Char} (hmargin : Margin margin) (hend : LineEnd lineEnd)
      (hmore : Filler more) :
    Filler (margin ++ (lineEnd ++ more))

/-- A sign up to which everything is passed over. -/
def IsSign (c : Char) : Prop := c ≠ ' ' ∧ c ≠ '\t' ∧ c ≠ '\n' ∧ c ≠ '\r' ∧ c ≠ '#'

instance (c : Char) : Decidable (IsSign c) := inferInstanceAs (Decidable (_ ∧ _))

/-- A sign with which an item or a line may begin. -/
def Opens (c : Char) : Prop := IsSign c ∧ c ≠ ']' ∧ c ≠ '\x7d' ∧ c ≠ '\uFEFF'

instance (c : Char) : Decidable (Opens c) := inferInstanceAs (Decidable (_ ∧ _))

theorem Blanks.nil : Blanks [] := by
  simp [Blanks]

theorem Filler.nil : Filler [] := .blanks .nil

/-! ## Signs -/

theorem isBlank_iff : isBlank c = true ↔ c = ' ' ∨ c = '\t' := by
  simp [isBlank]

theorem IsSign.isBlank_eq (hsign : IsSign c) : isBlank c = false := by
  rw [← Bool.not_eq_true, isBlank_iff, not_or]
  exact ⟨hsign.1, hsign.2.1⟩

theorem IsText.isPlain_eq (htext : IsText c) : isPlain c = true := by
  rcases htext with rfl | ⟨hspace, hdelete⟩
  · rfl
  · have hne : c ≠ '\x7f' := by
      rintro rfl
      exact hdelete rfl
    simp [isPlain, hspace, hne]

theorem IsText.ne_lineEnd (htext : IsText c) : c ≠ '\n' ∧ c ≠ '\r' := by
  constructor <;>
  · rintro rfl
    rcases htext with htab | ⟨hspace, -⟩
    · exact absurd htab (by decide)
    · exact absurd hspace (by decide)

/-! ## Blanks -/

theorem skipBlanks_append (hblanks : Blanks cs) (rest : List Char) :
    skipBlanks (cs ++ rest) = skipBlanks rest :=
  List.dropWhile_append_of_pos fun c hc => isBlank_iff.mpr (hblanks c hc)

theorem skipBlanks_cons (hsign : IsSign c) (rest : List Char) :
    skipBlanks (c :: rest) = c :: rest := by
  simp [skipBlanks, hsign.isBlank_eq]

/-! ## Lines -/

/-- What is done with one character. -/
theorem skipLines_step (inComment : Bool) (c : Char) (rest : List Char) :
    skipLines inComment (c :: rest) =
      if c = '\n' then skipLines false rest
      else if c = '\r' then
        if rest.head? = some '\n' then skipLines false rest else none
      else if inComment then
        if isPlain c then skipLines true rest else none
      else if isBlank c then skipLines false rest
      else if c = '#' then skipLines true rest
      else some (c :: rest) := rfl

theorem skipLines_cons (hsign : IsSign c) (rest : List Char) :
    skipLines false (c :: rest) = some (c :: rest) := by
  have hblank := hsign.isBlank_eq
  obtain ⟨-, -, hfeed, hreturn, hhash⟩ := hsign
  simp [skipLines_step, hfeed, hreturn, hblank, hhash]

theorem skipLines_lineEnd (hend : LineEnd cs) (rest : List Char) :
    skipLines inComment (cs ++ rest) = skipLines false rest := by
  cases hend <;> simp [skipLines_step]

theorem skipLines_blanks (hblanks : Blanks cs) (rest : List Char) :
    skipLines false (cs ++ rest) = skipLines false rest := by
  induction cs with
  | nil => rfl
  | cons c cs ih =>
    obtain ⟨hc, hcs⟩ := List.forall_mem_cons.mp hblanks
    rw [List.cons_append, skipLines_step]
    have hfeed : c ≠ '\n' ∧ c ≠ '\r' := by rcases hc with rfl | rfl <;> decide
    simp [hfeed, isBlank_iff.mpr hc, ih hcs]

theorem skipLines_text (htext : ∀ c ∈ cs, IsText c) (rest : List Char) :
    skipLines true (cs ++ rest) = skipLines true rest := by
  induction cs with
  | nil => rfl
  | cons c cs ih =>
    obtain ⟨hc, hcs⟩ := List.forall_mem_cons.mp htext
    rw [List.cons_append, skipLines_step]
    simp [hc.ne_lineEnd, hc.isPlain_eq, ih hcs]

theorem skipLines_hash (rest : List Char) :
    skipLines false ('#' :: rest) = skipLines true rest := by
  simp [skipLines_step, isBlank]

/-- A margin leads to the end of its line. -/
theorem Margin.exists_skipLines (hmargin : Margin cs) :
    ∃ inComment, ∀ rest, skipLines false (cs ++ rest) = skipLines inComment rest := by
  cases hmargin with
  | blanks hblanks => exact ⟨false, skipLines_blanks hblanks⟩
  | @comment before text hblanks htext =>
    refine ⟨true, fun rest => ?_⟩
    rw [List.append_assoc, skipLines_blanks hblanks, List.cons_append, skipLines_hash,
      skipLines_text htext]

/-- What may stand before a sign is passed over. -/
theorem skipLines_append (hfiller : Filler cs) (rest : List Char) :
    skipLines false (cs ++ rest) = skipLines false rest := by
  induction hfiller with
  | blanks hblanks => exact skipLines_blanks hblanks rest
  | @line margin lineEnd more hmargin hend hmore ih =>
    obtain ⟨inComment, hskip⟩ := hmargin.exists_skipLines
    rw [List.append_assoc, hskip, List.append_assoc, skipLines_lineEnd hend, ih]

/-- What stands at the end of a document is passed over. -/
theorem skipLines_margin (hmargin : Margin cs) : skipLines false cs = some [] := by
  obtain ⟨inComment, hskip⟩ := hmargin.exists_skipLines
  rw [← List.append_nil cs, hskip]
  rfl

/-! ## The end of a line -/

/-- What is done with one character up to the end of its line. -/
theorem endLine_step (inComment : Bool) (c : Char) (rest : List Char) :
    endLine inComment (c :: rest) =
      if c = '\n' then some rest
      else if c = '\r' then
        if rest.head? = some '\n' then some (rest.drop 1) else none
      else if inComment then
        if isPlain c then endLine true rest else none
      else if isBlank c then endLine false rest
      else if c = '#' then endLine true rest
      else none := rfl

theorem endLine_lineEnd (hend : LineEnd cs) (rest : List Char) :
    endLine inComment (cs ++ rest) = some rest := by
  cases hend <;> simp [endLine_step]

theorem endLine_blanks (hblanks : Blanks cs) (rest : List Char) :
    endLine false (cs ++ rest) = endLine false rest := by
  induction cs with
  | nil => rfl
  | cons c cs ih =>
    obtain ⟨hc, hcs⟩ := List.forall_mem_cons.mp hblanks
    rw [List.cons_append, endLine_step]
    have hfeed : c ≠ '\n' ∧ c ≠ '\r' := by rcases hc with rfl | rfl <;> decide
    simp [hfeed, isBlank_iff.mpr hc, ih hcs]

theorem endLine_text (htext : ∀ c ∈ cs, IsText c) (rest : List Char) :
    endLine true (cs ++ rest) = endLine true rest := by
  induction cs with
  | nil => rfl
  | cons c cs ih =>
    obtain ⟨hc, hcs⟩ := List.forall_mem_cons.mp htext
    rw [List.cons_append, endLine_step]
    simp [hc.ne_lineEnd, hc.isPlain_eq, ih hcs]

theorem endLine_hash (rest : List Char) : endLine false ('#' :: rest) = endLine true rest := by
  simp [endLine_step, isBlank]

theorem Margin.exists_endLine (hmargin : Margin cs) :
    ∃ inComment, ∀ rest, endLine false (cs ++ rest) = endLine inComment rest := by
  cases hmargin with
  | blanks hblanks => exact ⟨false, endLine_blanks hblanks⟩
  | @comment before text hblanks htext =>
    refine ⟨true, fun rest => ?_⟩
    rw [List.append_assoc, endLine_blanks hblanks, List.cons_append, endLine_hash,
      endLine_text htext]

theorem endLine_append {margin lineEnd : List Char} (hmargin : Margin margin)
    (hend : LineEnd lineEnd) (rest : List Char) :
    endLine false (margin ++ (lineEnd ++ rest)) = some rest := by
  obtain ⟨inComment, hskip⟩ := hmargin.exists_endLine
  rw [hskip, endLine_lineEnd hend]

/-- The last line needs no line end. -/
theorem endLine_margin (hmargin : Margin cs) : endLine false cs = some [] := by
  obtain ⟨inComment, hskip⟩ := hmargin.exists_endLine
  rw [← List.append_nil cs, hskip]
  rfl

end Emend.Toml
