import Emend.Config
import Emend.Proofs.Pattern.BuiltIn
import Emend.Proofs.Patch.Outcome
import Emend.Proofs.Text.Encoding

/-!
# What the built-in rules leave

The built-in rules leave no match of either of their patterns, so that they find nothing
to do in what they have left.  A text that they leave as it is has no whole word that is
the symbol, and a file is reported as unchanged exactly if it holds such a text.
-/

namespace Emend

open Pattern

/-- A search finds a pattern exactly where the pattern has a match. -/
theorem CompiledRule.occursIn_eq_false_iff {r : CompiledRule} {input : String} :
    r.occursIn input = false ↔
      ∀ i j, i ≤ input.toList.toArray.size → ¬r.pattern.expr.Matches input.toList.toArray i j := by
  rw [CompiledRule.occursIn, Pattern.occursIn, r.pattern.program_eq]
  constructor
  · intro hnone i j hi
    have hsearch : search r.pattern.expr.program input.toList.toArray 0 = none := by
      simpa using hnone
    exact Expr.not_matches_of_none hsearch (Nat.zero_le i) hi
  · intro hnone
    cases hsearch : search r.pattern.expr.program input.toList.toArray 0 with
    | none => rfl
    | some found =>
      have hfirst := Expr.first_of_some hsearch
      exact absurd hfirst.matched (hnone _ _ hfirst.start_le_size)

/-- A file is unchanged exactly if it holds a text that the rules leave as it is. -/
theorem Files.patch_unchanged_iff {files : Files} {path : Path} {table : RuleTable}
    {dryRun : Bool} :
    (files.patch path table dryRun).1 = .ok .unchanged ↔
      ∃ text, files.read path = .ok (Utf8.encode text) ∧ table.apply text = text := by
  constructor
  · intro hunchanged
    have hpatches := files.patch_patches path table dryRun
    rw [hunchanged] at hpatches
    generalize (files.patch path table dryRun).2 = after at hpatches
    cases hpatches with
    | unchanged hholds hsame => exact ⟨_, hholds.read, hsame⟩
  · rintro ⟨text, hread, hsame⟩
    simp [Files.patch, hread, Utf8.decode_encode, hsame]

namespace RuleTable

variable {input : String}

/-- Where the symbol is no whole word, no statement imports it. -/
theorem not_occursIn_import (hsymbol : symbolRule.occursIn input = false) :
    importRule.occursIn input = false := by
  rw [CompiledRule.occursIn_eq_false_iff] at hsymbol ⊢
  intro i j _ himport
  obtain ⟨k, l, hmatches⟩ := matches_symbol_of_import himport
  exact hsymbol k l (start_le_size wordlike_symbol hmatches) hmatches

/-- The symbol is no longer found in what the built-in rules leave. -/
theorem not_occursIn_symbol (input : String) :
    symbolRule.occursIn (builtIn.apply input) = false := by
  rw [CompiledRule.occursIn_eq_false_iff]
  intro i j _
  exact not_matches_symbol input

/-- The rules change a text exactly if the symbol is a whole word of it. -/
theorem apply_builtIn_eq_iff :
    builtIn.apply input = input ↔ symbolRule.occursIn input = false := by
  constructor
  · intro hsame
    rw [← hsame]
    exact not_occursIn_symbol input
  · intro hnone
    rw [CompiledRule.occursIn_eq_false_iff] at hnone
    apply apply_of_not_matches
    intro i j hmatches
    exact hnone i j (start_le_size wordlike_symbol hmatches) hmatches

/-- The built-in rules leave no match of their patterns in any text, so that applying them
again changes nothing.  They leave a text as it is exactly if the symbol is no whole word
of it, and of files just those that hold such a text are reported as unchanged, be it in a
dry run or not. -/
theorem builtIn_leaves_no_residue :
    compile Config.builtIn.rules = .ok [importRule, symbolRule] ∧
      (∀ input, importRule.occursIn (builtIn.apply input) = false ∧
        symbolRule.occursIn (builtIn.apply input) = false ∧
        builtIn.apply (builtIn.apply input) = builtIn.apply input) ∧
      (∀ input, builtIn.apply input = input ↔ symbolRule.occursIn input = false) ∧
      ∀ (files : Files) (path : Path) (dryRun : Bool),
        (files.patch path builtIn dryRun).1 = .ok .unchanged ↔
          ∃ text, files.read path = .ok (Utf8.encode text) ∧ symbolRule.occursIn text = false := by
  refine ⟨compile_builtIn, fun input => ?_, fun input => apply_builtIn_eq_iff,
    fun files path dryRun => ?_⟩
  · have hsymbol := not_occursIn_symbol input
    exact ⟨not_occursIn_import hsymbol, hsymbol, apply_builtIn_again input⟩
  · simp only [Files.patch_unchanged_iff, apply_builtIn_eq_iff]

end RuleTable

end Emend
