import Emend.Proofs.Pattern.Matching

/-!
# Matches of sequences

A match of a sequence is one match after another, and a match of characters in a row is
those characters.  No match goes beyond the text.
-/

namespace Emend.Pattern

open Relation (Comp)

variable {text : Text} {r : Nat → Nat → Prop} {es fs : List Expr} {e : Expr} {word : List Char}
  {c : Char} {i j n : Nat}

/-! ## Lengths -/

theorem Turns.le_size (hbody : ∀ i j, r i j → i ≤ text.size → j ≤ text.size)
    (hturns : Turns r n i j) (hi : i ≤ text.size) : j ≤ text.size := by
  induction n generalizing i with
  | zero =>
    cases hturns
    exact hi
  | succ n ih =>
    obtain ⟨k, hfirst, hrest⟩ := hturns
    exact ih hrest (hbody i k hfirst hi)

theorem Turns.le (hbody : ∀ i j, r i j → i ≤ j) (hturns : Turns r n i j) : i ≤ j := by
  induction n generalizing i with
  | zero =>
    cases hturns
    exact Nat.le_refl _
  | succ n ih =>
    obtain ⟨k, hfirst, hrest⟩ := hturns
    exact Nat.le_trans (hbody i k hfirst) (ih hrest)

/-! ## Characters -/

theorem contains_singleton {d : Char} : (CharSet.singleton c).contains d = true ↔ d = c := by
  rw [← Char.toNat_inj]
  simp only [CharSet.contains, CharSet.singleton, CharSet.holds]
  split_ifs with hbefore hwithin
  · simp only [false_iff]
    omega
  · simp only [true_iff]
    omega
  · simp only [false_iff]
    omega

/-- What a text begins with from a place on. -/
theorem drop_eq_cons {rest : List Char} :
    text.toList.drop i = c :: rest ↔ text[i]? = some c ∧ rest = text.toList.drop (i + 1) := by
  rw [← Array.getElem?_toList, ← List.head?_drop, ← List.tail_drop]
  cases text.toList.drop i with
  | nil => simp
  | cons d others => simp [eq_comm]

namespace Expr

theorem le_size_of_matches (e : Expr) (hmatches : e.Matches text i j) (hi : i ≤ text.size) :
    j ≤ text.size := by
  induction e generalizing i j with
  | empty =>
    cases hmatches
    exact hi
  | set s =>
    obtain ⟨hmem, rfl⟩ := hmatches
    obtain ⟨c, hchar, -⟩ := (Option.any_eq_true _ _).mp hmem
    exact (Array.getElem?_eq_some_iff.mp hchar).1
  | look l =>
    obtain ⟨-, rfl⟩ := hmatches
    exact hi
  | capture index body ih => exact ih hmatches hi
  | repetition greedy low most body ih =>
    obtain ⟨n, -, -, hturns⟩ := hmatches
    exact hturns.le_size (fun i j => ih) hi
  | cat left right ihleft ihright =>
    obtain ⟨k, hleft, hright⟩ := hmatches
    exact ihright hright (ihleft hleft hi)
  | alt left right ihleft ihright =>
    rcases hmatches with hleft | hright
    · exact ihleft hleft hi
    · exact ihright hright hi

/-- A match does not end before it begins. -/
theorem le_of_matches (e : Expr) (hmatches : e.Matches text i j) : i ≤ j := by
  induction e generalizing i j with
  | empty =>
    cases hmatches
    exact Nat.le_refl _
  | set s =>
    obtain ⟨-, rfl⟩ := hmatches
    exact Nat.le_succ _
  | look l =>
    obtain ⟨-, rfl⟩ := hmatches
    exact Nat.le_refl _
  | capture index body ih => exact ih hmatches
  | repetition greedy low most body ih =>
    obtain ⟨n, -, -, hturns⟩ := hmatches
    exact hturns.le fun i j => ih
  | cat left right ihleft ihright =>
    obtain ⟨k, hleft, hright⟩ := hmatches
    exact Nat.le_trans (ihleft hleft) (ihright hright)
  | alt left right ihleft ihright =>
    rcases hmatches with hleft | hright
    · exact ihleft hleft
    · exact ihright hright

/-! ## Sequences -/

theorem matches_ofParts_cons :
    (ofParts (e :: es)).Matches text i j ↔ Comp (e.Matches text) ((ofParts es).Matches text) i j := by
  cases es with
  | nil => simp [ofParts, Matches, Comp]
  | cons f fs => rfl

theorem matches_ofParts_append :
    (ofParts (es ++ fs)).Matches text i j ↔
      Comp ((ofParts es).Matches text) ((ofParts fs).Matches text) i j := by
  induction es generalizing i with
  | nil => simp [ofParts, Matches, Comp]
  | cons e es ih =>
    rw [List.cons_append, matches_ofParts_cons]
    constructor
    · rintro ⟨k, hfirst, hrest⟩
      obtain ⟨l, hleft, hright⟩ := ih.mp hrest
      exact ⟨l, matches_ofParts_cons.mpr ⟨k, hfirst, hleft⟩, hright⟩
    · rintro ⟨l, hleft, hright⟩
      obtain ⟨k, hfirst, hrest⟩ := matches_ofParts_cons.mp hleft
      exact ⟨k, hfirst, ih.mpr ⟨l, hrest, hright⟩⟩

theorem matches_char : (char c).Matches text i j ↔ text[i]? = some c ∧ j = i + 1 := by
  simp [char, Matches, Option.any_eq_true, contains_singleton]

/-- Characters in a row match where they stand. -/
theorem matches_chars :
    (ofParts (word.map char)).Matches text i j ↔
      word <+: text.toList.drop i ∧ j = i + word.length := by
  induction word generalizing i with
  | nil => simp [ofParts, Matches, eq_comm]
  | cons c word ih =>
    rw [List.map_cons, matches_ofParts_cons, List.cons_prefix_iff]
    constructor
    · rintro ⟨k, hfirst, hrest⟩
      obtain ⟨hchar, rfl⟩ := matches_char.mp hfirst
      obtain ⟨hbegins, rfl⟩ := ih.mp hrest
      exact ⟨⟨_, drop_eq_cons.mpr ⟨hchar, rfl⟩, hbegins⟩, by rw [List.length_cons]; omega⟩
    · rintro ⟨⟨rest, hdrop, hbegins⟩, rfl⟩
      obtain ⟨hchar, rfl⟩ := drop_eq_cons.mp hdrop
      exact ⟨i + 1, matches_char.mpr ⟨hchar, rfl⟩,
        ih.mpr ⟨hbegins, by rw [List.length_cons]; omega⟩⟩

end Expr

end Emend.Pattern
