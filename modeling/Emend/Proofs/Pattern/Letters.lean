import Emend.Proofs.Pattern.Replacing

/-!
# Patterns of one character

A pattern that is a set of characters matches each of them by itself, so that replacing
its matches by a fixed text goes through the characters one by one.
-/

namespace Emend.Pattern

variable {s : CharSet} {text : Text} {start : Nat} {pattern : Pattern}
  {expand : Match → List Char} {letters rest : List Char}

def replaceChar (s : CharSet) (letters : List Char) (c : Char) : List Char :=
  if s.contains c then letters else [c]

theorem flatMap_replaceChar_of_none {cs : List Char} (hnone : ∀ c ∈ cs, s.contains c = false) :
    cs.flatMap (replaceChar s letters) = cs := by
  induction cs with
  | nil => rfl
  | cons c cs ih =>
    rw [List.flatMap_cons, replaceChar, if_neg (by simp [hnone c (by simp)]),
      ih fun c hc => hnone c (by simp [hc]), List.singleton_append]

/-- Putting letters in the places of all matches goes through the characters one by one. -/
theorem Replaces.eq_flatMap (hreplaces : Replaces (.set s) expand text start rest)
    (hexpand : ∀ found, expand found = letters) :
    rest = (text.toList.drop start).flatMap (replaceChar s letters) := by
  refine hreplaces.eq_of_step (f := fun i => (text.toList.drop i).flatMap (replaceChar s letters))
    hexpand ?_ ?_ ?_
  · rintro i _ ⟨hmem, rfl⟩
    obtain ⟨c, hchar, hcontains⟩ := (Option.any_eq_true _ _).mp hmem
    simp only [drop_eq_cons.mpr ⟨hchar, rfl⟩, List.flatMap_cons, replaceChar, if_pos hcontains]
  · intro i c hchar hnone
    have hout : ¬s.contains c = true := fun hcontains =>
      hnone (i + 1) ⟨by simpa [hchar] using hcontains, rfl⟩
    simp only [drop_eq_cons.mpr ⟨hchar, rfl⟩, List.flatMap_cons, replaceChar, if_neg hout]
    rfl
  · intro i hend
    simp only [List.drop_eq_nil_of_le (show text.toList.length ≤ i by simpa using hend),
      List.flatMap_nil]

/-- A set is replaced character by character. -/
theorem replaceAll_set (hexpr : pattern.expr = .set s) (letters : List Char) (input : String) :
    pattern.replaceAll (letters.map .char) input =
      String.ofList (input.toList.flatMap (replaceChar s letters)) := by
  have htakes : ∀ i j, pattern.expr.Matches input.toList.toArray i j → i < j := by
    intro i j hmatches
    rw [hexpr] at hmatches
    exact Nat.lt_of_succ_le (Nat.le_of_eq hmatches.2.symm)
  have hreplaces := replaces_replaceAll htakes (letters.map .char)
  rw [hexpr] at hreplaces
  rw [← String.toList_inj, hreplaces.eq_flatMap (expand_letters letters pattern.names _),
    String.toList_ofList, List.drop_zero]

/-- Replacing characters by letters outside of the set leaves nothing to replace. -/
theorem replaceAll_set_idempotent (hexpr : pattern.expr = .set s)
    (hletters : ∀ c ∈ letters, s.contains c = false) (input : String) :
    pattern.replaceAll (letters.map .char) (pattern.replaceAll (letters.map .char) input) =
      pattern.replaceAll (letters.map .char) input := by
  rw [replaceAll_set hexpr, replaceAll_set hexpr, String.toList_ofList,
    flatMap_replaceChar_of_none]
  intro c hc
  obtain ⟨old, -, hold⟩ := List.mem_flatMap.mp hc
  rw [replaceChar] at hold
  split_ifs at hold with hmem
  · exact hletters c hold
  · rw [List.mem_singleton.mp hold]
    simpa using hmem

end Emend.Pattern
