import Emend.Error
import Emend.Proofs.Except
import Emend.Proofs.Pattern.Reading
import Emend.Proofs.Pattern.Replacing
import Emend.Proofs.Pattern.Template

/-!
# Literal rules

A word with a backslash before every sign is a pattern for just this word, and letters
with every dollar sign doubled are a replacement that stands for just these.  A rule of
such a pattern and such a replacement is plain replacement of the word, and a table of
them is one replacement after the other.
-/

namespace Emend

open Pattern

/-- The signs that are written with a backslash before them. -/
def signs : List Char := "\\.+*?()|[]\x7b\x7d^$#&-~".toList

/-- A word with a backslash before every sign. -/
def escaped (word : List Char) : List Char :=
  word.flatMap fun c => if c ∈ signs then ['\\', c] else [c]

def literalRule (word letters : String) : Rule :=
  ⟨String.ofList (escaped word.toList), String.ofList (doubled letters.toList)⟩

/-- Puts letters in the places of a word, from left to right.  Behind an occurrence the
text goes on where that ends. -/
def replaceWord (word letters : List Char) : List Char → List Char
  | [] => []
  | c :: rest =>
    if word <+: c :: rest then letters ++ replaceWord word letters (rest.drop (word.length - 1))
    else c :: replaceWord word letters rest
termination_by text => text.length
decreasing_by
  all_goals
    simp only [List.length_drop, List.length_cons]
    omega

namespace Pattern

variable {text : Text} {word letters cs rest : List Char} {c : Char} {n groups : Nat}
  {level : Level} {outer : List OpenGroup} {names : List (String × Nat)} {i j : Nat}

/-! ## Replacing a word -/

theorem replaceWord_of_prefix (hne : word ≠ []) (hbegins : word <+: cs) :
    replaceWord word letters cs = letters ++ replaceWord word letters (cs.drop word.length) := by
  obtain ⟨c, others, rfl⟩ := List.exists_cons_of_ne_nil hne
  cases cs with
  | nil => cases List.prefix_nil.mp hbegins
  | cons d rest =>
    rw [replaceWord, if_pos hbegins]
    rfl

theorem replaceWord_of_not_prefix (hout : ¬word <+: c :: rest) :
    replaceWord word letters (c :: rest) = c :: replaceWord word letters rest := by
  rw [replaceWord, if_neg hout]

/-- An occurrence that overlaps one before it is passed over. -/
example : replaceWord "aba".toList ['b'] "ababa".toList = "bba".toList := by cbv

/-! ## Reading an escaped word -/

theorem readEscape_sign (hsign : isMeta c = true) :
    readEscape false (c :: rest) = .ok (letter c, rest) := by
  simp only [readEscape, isEscapable, hsign, Bool.true_or, if_true]
  rfl

/-- An escaped character is read in one turn. -/
theorem readFrom_escaped_char :
    readFrom (n + 1) level outer
        ⟨(if c ∈ signs then ['\\', c] else [c]) ++ rest, false, groups, names⟩ =
      readFrom n (level.push (letter c)) outer ⟨rest, false, groups, names⟩ := by
  by_cases hsign : c ∈ signs
  · rw [if_pos hsign]
    exact readFrom_escape (readEscape_sign (decide_eq_true hsign))
  · rw [if_neg hsign]
    exact readFrom_letter (decide_eq_false hsign)

theorem readFrom_escaped (word : List Char) :
    readFrom (word.length + n) level outer ⟨escaped word ++ rest, false, groups, names⟩ =
      readFrom n { level with parts := (word.map letter).reverse ++ level.parts } outer
        ⟨rest, false, groups, names⟩ := by
  induction word generalizing level with
  | nil => rw [List.length_nil, Nat.zero_add]; rfl
  | cons c word ih =>
    rw [List.length_cons, Nat.add_right_comm, escaped, List.flatMap_cons, List.append_assoc,
      readFrom_escaped_char]
    exact ih.trans (by simp [Level.push])

theorem length_le_escaped (word : List Char) : word.length ≤ (escaped word).length := by
  induction word with
  | nil => exact Nat.le_refl _
  | cons c word ih =>
    rw [escaped, List.flatMap_cons, List.length_append, List.length_cons, Nat.add_comm]
    refine Nat.add_le_add ?_ ih
    split_ifs <;> simp

theorem depth_letters (word : List Char) : (Ast.ofParts (word.map letter)).depth ≤ nestLimit := by
  have hall : Ast.depthOfAll (word.map letter) = 0 := by
    induction word with
    | nil => rfl
    | cons c word ih => rw [List.map_cons, Ast.depthOfAll, ih]; rfl
  rcases word with _ | ⟨c, _ | ⟨d, word⟩⟩
  · exact Nat.zero_le _
  · exact Nat.zero_le _
  · change Ast.depthOfAll ((c :: d :: word).map letter) + 1 ≤ nestLimit
    rw [hall]
    decide

theorem written_escaped (word : List Char) :
    Written.ofText (String.ofList (escaped word)) =
      .ok ⟨Ast.ofParts (word.map letter), 0, []⟩ := by
  refine written_of_read ?_ (depth_letters word)
  rw [String.toList_ofList]
  obtain ⟨n, hlength⟩ := Nat.exists_eq_add_of_le (length_le_escaped word)
  have hread : readFrom (word.length + (n + 1)) .empty []
      ⟨escaped word ++ [], false, 0, []⟩ = .ok ⟨Ast.ofParts (word.map letter), 0, []⟩ := by
    rw [readFrom_escaped, readFrom_end]
    simp [Level.close, Level.endBranch, Level.empty, Ast.ofBranches]
  rwa [List.append_nil, ← Nat.add_assoc, ← hlength] at hread

/-! ## The meaning of an escaped word -/

theorem meaning_letter (c : Char) :
    (letter c).meaning .initial = .ok (Expr.char c, .initial) := rfl

theorem meaningOfAll_letters (word : List Char) :
    Ast.meaningOfAll .initial (word.map letter) = .ok (word.map Expr.char, .initial) := by
  induction word with
  | nil => rfl
  | cons c word ih =>
    rw [List.map_cons, Ast.meaningOfAll, meaning_letter]
    change (Ast.meaningOfAll .initial (word.map letter) >>= _) = _
    rw [ih]
    rfl

theorem sequence_chars (word : List Char) :
    Expr.sequence (word.map Expr.char) = Expr.ofParts (word.map Expr.char) := by
  rw [Expr.sequence, List.flatMap_map]
  exact congrArg Expr.ofParts (List.map_eq_flatMap ..).symm

theorem meaning_letters (word : List Char) :
    (Ast.ofParts (word.map letter)).meaning .initial =
      .ok (Expr.ofParts (word.map Expr.char), .initial) := by
  rcases word with _ | ⟨c, _ | ⟨d, word⟩⟩
  · rfl
  · rfl
  · rw [← sequence_chars]
    change (Ast.meaningOfAll .initial ((c :: d :: word).map letter) >>= _) = _
    rw [meaningOfAll_letters]
    rfl

/-- An escaped word is a pattern for its characters in a row, if these are not too many. -/
theorem ofText_escaped (word : List Char) :
    Pattern.ofText (String.ofList (escaped word)) =
      if (Expr.ofParts (word.map Expr.char)).fits then
        .ok ⟨_, (Expr.ofParts (word.map Expr.char)).program, [], rfl⟩
      else .error .tooLarge := by
  simp only [Pattern.ofText, written_escaped]
  change ((Ast.ofParts (word.map letter)).meaning .initial >>= _) = _
  rw [meaning_letters]
  rfl

/-! ## Applying -/

/-- Replacing the matches of a word is plain replacement. -/
theorem replaceAll_chars {pattern : Pattern} (hexpr : pattern.expr = .ofParts (word.map Expr.char))
    (hne : word ≠ []) (letters : List Char) (input : String) :
    pattern.replaceAll (letters.map .char) input =
      String.ofList (replaceWord word letters input.toList) := by
  have htakes : ∀ i j, pattern.expr.Matches input.toList.toArray i j → i < j := by
    intro i j hmatches
    rw [hexpr] at hmatches
    obtain ⟨-, rfl⟩ := Expr.matches_chars.mp hmatches
    exact Nat.lt_add_of_pos_right (List.length_pos_of_ne_nil hne)
  have hreplaces := replaces_replaceAll htakes (letters.map .char)
  rw [hexpr] at hreplaces
  rw [← String.toList_inj, String.toList_ofList]
  refine hreplaces.eq_of_step (f := fun i => replaceWord word letters (input.toList.drop i))
    (expand_letters letters pattern.names _) ?_ ?_ ?_
  · intro i j hmatches
    obtain ⟨hbegins, rfl⟩ := Expr.matches_chars.mp hmatches
    rw [← List.drop_drop]
    exact replaceWord_of_prefix hne hbegins
  · intro i c hchar hnone
    have hdrop := drop_eq_cons.mpr ⟨hchar, rfl⟩
    simp only [hdrop]
    refine replaceWord_of_not_prefix fun hbegins => hnone _ (Expr.matches_chars.mpr ⟨?_, rfl⟩)
    rwa [List.toList_toArray, hdrop]
  · intro i hend
    simp only [List.drop_eq_nil_of_le (show input.toList.length ≤ i by simpa using hend),
      replaceWord]

end Pattern

def replaced (word letters text : String) : String :=
  String.ofList (replaceWord word.toList letters.toList text.toList)

namespace CompiledRule

variable {word letters : String} {rule : CompiledRule}

def literal (word letters : String) : CompiledRule :=
  ⟨literalRule word letters, ⟨_, (Expr.ofParts (word.toList.map Expr.char)).program, [], rfl⟩,
    letters.toList.map .char⟩

/-- A literal rule is refused only if its word is too long. -/
theorem ofRule_literal (word letters : String) :
    ofRule (literalRule word letters) =
      if (Expr.ofParts (word.toList.map Expr.char)).fits then .ok (literal word letters)
      else .error .tooLarge := by
  have htemplate : Template.ofText (String.ofList (doubled letters.toList)) =
      letters.toList.map .char := by
    have hread := Template.ofChars_doubled letters.toList []
    rw [Template.ofText, String.toList_ofList]
    rwa [List.append_nil, Template.ofChars, List.append_nil] at hread
  simp only [ofRule, literal, literalRule, ofText_escaped, htemplate]
  split_ifs <;> rfl

/-- A literal rule that compiles replaces its word. -/
theorem apply_literal (hne : word ≠ "") (hrule : ofRule (literalRule word letters) = .ok rule)
    (text : String) : rule.apply text = replaced word letters text := by
  rw [ofRule_literal] at hrule
  split_ifs at hrule with hfits
  cases hrule
  exact replaceAll_chars rfl (by simpa using hne) letters.toList text

end CompiledRule

namespace RuleTable

variable {rule : Rule} {rules : List Rule} {table : RuleTable} {pairs : List (String × String)}

theorem exists_of_compile_cons (hcompile : compile (rule :: rules) = .ok table) :
    ∃ first rest, CompiledRule.ofRule rule = .ok first ∧ compile rules = .ok rest ∧
      table = first :: rest := by
  rw [compile, List.mapM_cons] at hcompile
  obtain ⟨first, hfirst, hothers⟩ := exists_of_bind_ok hcompile
  obtain ⟨rest, hrest, htable⟩ := exists_of_bind_ok hothers
  cases htable
  refine ⟨first, rest, ?_, hrest, rfl⟩
  cases hrule : CompiledRule.ofRule rule with
  | error cause =>
    rw [hrule] at hfirst
    cases hfirst
  | ok compiled =>
    rw [hrule] at hfirst
    cases hfirst
    rfl

/-- Literal rules replace their words one after the other. -/
theorem apply_literals (hne : ∀ pair ∈ pairs, pair.1 ≠ "")
    (hcompile : compile (pairs.map fun pair => literalRule pair.1 pair.2) = .ok table)
    (text : String) :
    table.apply text = pairs.foldl (fun text pair => replaced pair.1 pair.2 text) text := by
  induction pairs generalizing table text with
  | nil =>
    cases hcompile
    rfl
  | cons pair pairs ih =>
    obtain ⟨first, rest, hfirst, hrest, rfl⟩ := exists_of_compile_cons hcompile
    rw [apply, List.foldl_cons, List.foldl_cons,
      CompiledRule.apply_literal (hne pair List.mem_cons_self) hfirst]
    exact ih (fun other hother => hne other (List.mem_cons_of_mem _ hother)) hrest _

/-- A literal rule is refused only if its word is too long.  Otherwise it puts the letters
in the places of the word, from left to right, and a table of literal rules does this for
each of them in order. -/
theorem literal_rules_replace :
    (∀ word letters : String,
      (∃ rule, CompiledRule.ofRule (literalRule word letters) = .ok rule) ∨
        CompiledRule.ofRule (literalRule word letters) = .error .tooLarge) ∧
    (∀ (word letters : String) (rule : CompiledRule), word ≠ "" →
      CompiledRule.ofRule (literalRule word letters) = .ok rule →
        ∀ text, rule.apply text = replaced word letters text) ∧
    ∀ (pairs : List (String × String)) (table : RuleTable), (∀ pair ∈ pairs, pair.1 ≠ "") →
      compile (pairs.map fun pair => literalRule pair.1 pair.2) = .ok table →
        ∀ text, table.apply text = pairs.foldl (fun text pair => replaced pair.1 pair.2 text) text := by
  refine ⟨fun word letters => ?_, fun word letters rule hne hrule => ?_,
    fun pairs table hne hcompile => ?_⟩
  · rw [CompiledRule.ofRule_literal]
    split_ifs
    · exact .inl ⟨_, rfl⟩
    · exact .inr rfl
  · exact CompiledRule.apply_literal hne hrule
  · exact apply_literals hne hcompile

/-- A sign in the word and a dollar sign in the letters stand for themselves. -/
theorem literal_rules_replace_signs :
    "+" ≠ "" ∧ CompiledRule.ofRule (literalRule "+" "$1") = .ok (.literal "+" "$1") ∧
      (CompiledRule.literal "+" "$1").apply "1+1" = "1$11" ∧
      (∀ pair ∈ [("+", "$1"), ("1", "+")], pair.1 ≠ "") ∧
      compile ([("+", "$1"), ("1", "+")].map fun pair => literalRule pair.1 pair.2) =
        .ok [.literal "+" "$1", .literal "1" "+"] ∧
      apply [.literal "+" "$1", .literal "1" "+"] "1+1" = "+$++" := by
  obtain ⟨-, happly, htable⟩ := literal_rules_replace
  have hplus : (Expr.ofParts ("+".toList.map Expr.char)).fits = true := by cbv
  have hone : (Expr.ofParts ("1".toList.map Expr.char)).fits = true := by cbv
  have hrule : CompiledRule.ofRule (literalRule "+" "$1") = .ok (.literal "+" "$1") := by
    rw [CompiledRule.ofRule_literal, if_pos hplus]
  have hcompile : compile ([("+", "$1"), ("1", "+")].map fun pair => literalRule pair.1 pair.2) =
      .ok [.literal "+" "$1", .literal "1" "+"] := by
    simp only [compile, List.map_cons, List.map_nil, List.mapM_cons, List.mapM_nil,
      CompiledRule.ofRule_literal, if_pos hplus, if_pos hone]
    rfl
  refine ⟨by decide, hrule, ?_, by decide, hcompile, ?_⟩
  · rw [happly "+" "$1" _ (by decide) hrule]
    cbv
  · rw [htable [("+", "$1"), ("1", "+")] _ (by decide) hcompile]
    cbv

end RuleTable

end Emend
