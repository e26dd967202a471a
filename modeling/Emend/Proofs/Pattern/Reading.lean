import Emend.Pattern

/-!
# Reading patterns step by step

A pattern is read by one sign after another.  Each kind of sign has a lemma about the
turn that reads it, and characters in a row are read as they stand.
-/

namespace Emend.Pattern

variable {level next : Level} {outer : List OpenGroup} {rest after word : List Char}
  {groups n : Nat} {names : List (String × Nat)} {c : Char} {part : Ast} {greedy : Bool}

def letter (c : Char) : Ast := .literal ⟨c, false⟩

theorem readFrom_letter (hplain : isMeta c = false) :
    readFrom (n + 1) level outer ⟨c :: rest, false, groups, names⟩ =
      readFrom n (level.push (letter c)) outer ⟨rest, false, groups, names⟩ := by
  simp [isMeta] at hplain
  simp [readFrom, skipIf, letter, hplain]

theorem readFrom_word (hplain : word.any isMeta = false) (n : Nat) :
    readFrom (word.length + n) level outer ⟨word ++ rest, false, groups, names⟩ =
      readFrom n { level with parts := (word.map letter).reverse ++ level.parts } outer
        ⟨rest, false, groups, names⟩ := by
  induction word generalizing level with
  | nil => rw [List.length_nil, Nat.zero_add]; rfl
  | cons c word ih =>
    rw [List.any_cons, Bool.or_eq_false_iff] at hplain
    rw [List.length_cons, Nat.add_right_comm, List.cons_append, readFrom_letter hplain.1,
      ih hplain.2]
    simp [Level.push]

theorem readFrom_escape (hescape : readEscape false rest = .ok (part, after)) :
    readFrom (n + 1) level outer ⟨'\\' :: rest, false, groups, names⟩ =
      readFrom n (level.push part) outer ⟨after, false, groups, names⟩ := by
  simp only [readFrom, skipIf, Bool.false_eq_true, if_false, hescape]
  rfl

/-- A plus or a star repeats what is before it without end. -/
theorem readFrom_loop {sign : Char} {least : Nat}
    (hsign : sign = '+' ∧ least = 1 ∨ sign = '*' ∧ least = 0)
    (hgreed : readGreed rest = (greedy, after))
    (hrepeat : level.repeatLast greedy least none = .ok next) :
    readFrom (n + 1) level outer ⟨sign :: rest, false, groups, names⟩ =
      readFrom n next outer ⟨after, false, groups, names⟩ := by
  rcases hsign with ⟨rfl, rfl⟩ | ⟨rfl, rfl⟩
  all_goals
    simp only [readFrom, skipIf, Bool.false_eq_true, if_false, hgreed, hrepeat]
    rfl

theorem readFrom_end :
    readFrom (n + 1) level [] ⟨[], false, groups, names⟩ = .ok ⟨level.close, groups, names⟩ := by
  simp [readFrom, skipIf]

theorem written_of_read {text : String} {written : Written}
    (hread : readFrom (text.toList.length + 1) .empty [] ⟨text.toList, false, 0, []⟩ = .ok written)
    (hdepth : written.ast.depth ≤ nestLimit) : Written.ofText text = .ok written := by
  simp only [Written.ofText, hread]
  exact if_neg (Nat.not_lt.mpr hdepth)

/-- A pattern that is read, has a meaning and fits compiles to it. -/
theorem ofText_of_written {text : String} {written : Written} {e : Expr} {flags : Flags}
    (hwritten : Written.ofText text = .ok written)
    (hmeaning : written.ast.meaning .initial = .ok (e, flags)) (hfits : e.fits = true) :
    Pattern.ofText text = .ok ⟨e, e.program, written.names, rfl⟩ := by
  simp only [Pattern.ofText, hwritten]
  change (written.ast.meaning .initial >>= _) = _
  rw [hmeaning]
  exact if_pos hfits

end Emend.Pattern
