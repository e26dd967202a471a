import Mathlib.Data.Nat.Init
import Emend.Proofs.Pattern.Splitting

/-!
# Replacing matches

Replacing the matches of an expression goes through the text from match to match.  If
every match takes a character, each one is the first from where the one before ended,
and behind the last there is no other.
-/

namespace Emend.Pattern

variable {e : Expr} {text : Text} {expand : Match → List Char}
  {letters rest : List Char} {start i : Nat} {lastStop : Option Nat}

/-- What is left of a text from a place on when all matches are replaced. -/
inductive Replaces (e : Expr) (expand : Match → List Char) (text : Text) : Nat → List Char → Prop
  | done {start : Nat} (hnone : ∀ i j, start ≤ i → i ≤ text.size → ¬e.Matches text i j) :
    Replaces e expand text start (text.toList.drop start)
  | next {start : Nat} {found : Match} {rest : List Char} (hfirst : Expr.First e text start found)
    (hrest : Replaces e expand text found.stop rest) :
    Replaces e expand text start
      ((text.extract start found.start).toList ++ (expand found ++ rest))

/-- Up to a place before which there is no match, a function that keeps the characters
keeps the text. -/
theorem eq_extract_append {f : Nat → List Char}
    (hkeep : ∀ i c, text[i]? = some c → (∀ j, ¬e.Matches text i j) → f i = c :: f (i + 1))
    {stop : Nat} (hle : start ≤ stop) (hsize : stop ≤ text.size)
    (hnone : ∀ i j, start ≤ i → i < stop → ¬e.Matches text i j) :
    f start = (text.extract start stop).toList ++ f stop := by
  induction stop, hle using Nat.le_induction with
  | base => simp
  | succ stop hle ih =>
    have hchar : text[stop]? = some text[stop] := Array.getElem?_eq_getElem hsize
    have hextract : (text.extract start (stop + 1)).toList =
        (text.extract start stop).toList ++ [text[stop]] := by
      rw [Array.toList_extract, Array.toList_extract, List.extract_eq_take_drop,
        List.extract_eq_take_drop, Nat.succ_sub hle, List.take_add_one, List.getElem?_drop,
        Nat.add_sub_cancel' hle, Array.getElem?_toList, hchar]
      rfl
    rw [ih (Nat.le_of_lt hsize) fun i j hfrom hto => hnone i j hfrom (Nat.lt_succ_of_lt hto),
      hkeep stop _ hchar fun j => hnone stop j hle (Nat.lt_succ_self stop), hextract,
      List.append_assoc, List.singleton_append]

/-- Putting letters in the places of all matches comes to any function that puts them in
the place of a match and keeps a character where there is none. -/
theorem Replaces.eq_of_step {f : Nat → List Char} (hreplaces : Replaces e expand text start rest)
    (hexpand : ∀ found, expand found = letters)
    (hmatch : ∀ i j, e.Matches text i j → f i = letters ++ f j)
    (hkeep : ∀ i c, text[i]? = some c → (∀ j, ¬e.Matches text i j) → f i = c :: f (i + 1))
    (hend : ∀ i, text.size ≤ i → f i = []) : rest = f start := by
  induction hreplaces with
  | @done start hnone =>
    rcases Nat.le_total start text.size with hle | hbeyond
    · rw [eq_extract_append hkeep hle (Nat.le_refl _) fun i j hfrom hto =>
        hnone i j hfrom (Nat.le_of_lt hto), extract_to_end, hend _ (Nat.le_refl _),
        List.append_nil]
    · rw [hend start hbeyond, List.drop_eq_nil_of_le (by simpa using hbeyond)]
  | @next start found rest hfirst _ ih =>
    rw [eq_extract_append hkeep hfirst.start_le hfirst.start_le_size hfirst.none_before,
      hmatch _ _ hfirst.matched, hexpand, ih]

/-- Where every match takes a character, none is skipped. -/
theorem Expr.Skipped.not_takes (hskipped : e.Skipped text lastStop i) :
    ¬∀ i j, e.Matches text i j → i < j := by
  intro htakes
  obtain ⟨m, hpreferred, -, hempty, -⟩ := hskipped
  exact absurd (htakes _ _ hpreferred.takes.matches) (Nat.not_lt.mpr (Nat.le_of_eq hempty.symm))

theorem Splits.replaces {parts : List (List Char × Match)} {tail : List Char}
    (hsplits : Splits e text start lastStop parts tail)
    (htakes : ∀ i j, e.Matches text i j → i < j) (expand : Match → List Char) :
    Replaces e expand text start (joined expand parts tail) := by
  induction hsplits with
  | done hnone =>
    exact .done fun i j hfrom hto hmatches => (hnone i j hfrom hto hmatches).not_takes htakes
  | next hnext _ ih =>
    rw [joined_cons]
    refine .next ⟨hnext.start_le, hnext.preferred.start_le_size, hnext.preferred.takes.matches,
      fun i j hfrom hto hmatches => ?_⟩ ih
    exact (hnext.leftmost i j hfrom hto hmatches).not_takes htakes

theorem exists_splits_replaceAll (pattern : Pattern) (template : Template) (input : String) :
    ∃ parts tail, Splits pattern.expr input.toList.toArray 0 none parts tail ∧
      (pattern.replaceAll template input).toList =
        joined (template.expand pattern.names input.toList.toArray) parts tail := by
  obtain ⟨parts, tail, hsplits, hsplice⟩ := exists_splits pattern.expr input.toList.toArray
  refine ⟨parts, tail, hsplits, ?_⟩
  rw [replaceAll, String.toList_ofList, pattern.program_eq]
  exact hsplice _

/-- If no match is empty, all of them are replaced. -/
theorem replaces_replaceAll {pattern : Pattern} {input : String}
    (htakes : ∀ i j, pattern.expr.Matches input.toList.toArray i j → i < j)
    (template : Template) :
    Replaces pattern.expr (template.expand pattern.names input.toList.toArray)
      input.toList.toArray 0 (pattern.replaceAll template input).toList := by
  obtain ⟨parts, tail, hsplits, heq⟩ := exists_splits_replaceAll pattern template input
  rw [heq]
  exact hsplits.replaces htakes _

/-- A text without a match stays as it is. -/
theorem replaceAll_of_not_matches {pattern : Pattern} {input : String}
    (hnone : ∀ i j, i ≤ input.toList.toArray.size → ¬pattern.expr.Matches input.toList.toArray i j)
    (template : Template) : pattern.replaceAll template input = input := by
  obtain ⟨parts, tail, hsplits, heq⟩ := exists_splits_replaceAll pattern template input
  rw [← String.toList_inj, heq]
  cases hsplits with
  | done => rfl
  | next hnext =>
    exact absurd hnext.preferred.takes.matches (hnone _ _ hnext.preferred.start_le_size)

/-- A template of letters alone stands for these. -/
theorem expand_letters (letters : List Char) (names : List (String × Nat)) (text : Text)
    (found : Match) : Template.expand (letters.map .char) names text found = letters := by
  rw [Template.expand, List.flatMap_map]
  exact List.flatMap_singleton' letters

end Emend.Pattern
