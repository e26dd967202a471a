import Mathlib
import Emend.Error
import Emend.Proofs.Pattern.Reading
import Emend.Proofs.Pattern.Words

/-!
# The built-in rules

The first built-in rule rewrites statements that import a symbol, and the second one the
symbol wherever it is a whole word.  In a statement it is one, so that nothing is left
to either rule once the second has been applied.
-/

namespace Emend.RuleTable

open Pattern Unicode

variable {text : Text} {c : Char} {code i j : Nat} {runs : List CodeRun}

/-! ## Patterns -/

def symbol : List Char := "FlxFrameation".toList

def importStatement : Expr :=
  .ofParts ("import".toList.map Expr.char ++ (.repetition true 1 none (.set whiteSpace) ::
    ("flixel.animation.".toList.map Expr.char ++ (symbol.map Expr.char ++
      [.repetition true 0 none (.set whiteSpace), .char ';']))))

theorem wordlike_symbol : Wordlike symbol :=
  .of_all (by decide) (by decide)

def symbolTree : Ast :=
  .concat (.assertion .wordBoundary :: (symbol.map letter ++ [.assertion .wordBoundary]))

def importTree : Ast :=
  .concat ("import".toList.map letter ++
    (.repetition true 1 none (.charClass (.letter false .space)) ::
      ("flixel.animation.".toList.map letter ++ (symbol.map letter ++
        [.repetition true 0 none (.charClass (.letter false .space)), letter ';']))))

theorem written_symbol : Written.ofText "\\bFlxFrameation\\b" = .ok ⟨symbolTree, 0, []⟩ := by
  have hfront : readEscape false ('b' :: (symbol ++ ['\\', 'b'])) =
      .ok (.assertion .wordBoundary, symbol ++ ['\\', 'b']) := rfl
  have hback : readEscape false ['b'] = .ok (.assertion .wordBoundary, []) := rfl
  have hsymbol : symbol.any isMeta = false := by decide
  refine written_of_read ?_ (by decide)
  refine (readFrom_escape hfront).trans ?_
  refine (readFrom_word hsymbol 4).trans ?_
  exact (readFrom_escape hback).trans readFrom_end

theorem written_import :
    Written.ofText "import\\s+flixel\\.animation\\.FlxFrameation\\s*;" =
      .ok ⟨importTree, 0, []⟩ := by
  have hspace (rest : List Char) : readEscape false ('s' :: rest) =
      .ok (.charClass (.letter false .space), rest) := rfl
  have hdot (rest : List Char) : readEscape false ('.' :: rest) = .ok (letter '.', rest) := rfl
  have himport : "import".toList.any isMeta = false := by decide
  have hflixel : "flixel".toList.any isMeta = false := by decide
  have hanimation : "animation".toList.any isMeta = false := by decide
  have hsymbol : symbol.any isMeta = false := by decide
  refine written_of_read ?_ (by decide)
  -- the number beside a word is that of the turns that are left behind it
  refine (readFrom_word himport 40).trans ?_
  refine (readFrom_escape (hspace _)).trans ?_
  refine (readFrom_loop (.inl ⟨rfl, rfl⟩) rfl rfl).trans ?_
  refine (readFrom_word hflixel 32).trans ?_
  refine (readFrom_escape (hdot _)).trans ?_
  refine (readFrom_word hanimation 22).trans ?_
  refine (readFrom_escape (hdot _)).trans ?_
  refine (readFrom_word hsymbol 8).trans ?_
  refine (readFrom_escape (hspace _)).trans ?_
  refine (readFrom_loop (.inr ⟨rfl, rfl⟩) rfl rfl).trans ?_
  exact (readFrom_letter (by decide)).trans readFrom_end

/-! ## Rules -/

def importRule : CompiledRule :=
  ⟨⟨"import\\s+flixel\\.animation\\.FlxFrameation\\s*;",
      "import flixel.graphics.frames.FlxFrame;"⟩,
    ⟨importStatement, importStatement.program, [], rfl⟩,
    "import flixel.graphics.frames.FlxFrame;".toList.map .char⟩

def symbolRule : CompiledRule :=
  ⟨⟨"\\bFlxFrameation\\b", "FlxFrame"⟩,
    ⟨wholeWord symbol, (wholeWord symbol).program, [], rfl⟩, "FlxFrame".toList.map .char⟩

def builtIn : RuleTable := [importRule, symbolRule]

theorem ofRule_import : CompiledRule.ofRule importRule.rule = .ok importRule := by
  have hmeaning : importTree.meaning .initial = .ok (importStatement, .initial) := by cbv
  have hfits : importStatement.fits = true := by cbv
  have htemplate : Template.ofText "import flixel.graphics.frames.FlxFrame;" =
      "import flixel.graphics.frames.FlxFrame;".toList.map .char := by cbv
  simp only [CompiledRule.ofRule, importRule, ofText_of_written written_import hmeaning hfits,
    htemplate]
  rfl

theorem ofRule_symbol : CompiledRule.ofRule symbolRule.rule = .ok symbolRule := by
  have hmeaning : symbolTree.meaning .initial = .ok (wholeWord symbol, .initial) := by cbv
  have hfits : (wholeWord symbol).fits = true := by cbv
  have htemplate : Template.ofText "FlxFrame" = "FlxFrame".toList.map .char := by cbv
  simp only [CompiledRule.ofRule, symbolRule, ofText_of_written written_symbol hmeaning hfits,
    htemplate]
  rfl

theorem compile_builtIn : compile Rule.builtIn = .ok builtIn := by
  have hrules : Rule.builtIn = [importRule.rule, symbolRule.rule] := rfl
  simp only [hrules, compile, List.mapM_cons, List.mapM_nil, ofRule_import, ofRule_symbol]
  rfl

theorem apply_builtIn (input : String) :
    builtIn.apply input = symbolRule.apply (importRule.apply input) := rfl

/-- No whole word of the text that the rules leave is the symbol. -/
theorem not_matches_symbol (input : String) :
    ¬(wholeWord symbol).Matches (builtIn.apply input).toList.toArray i j := by
  have hframe : Wordlike "FlxFrame".toList := .of_all (by decide) (by decide)
  rw [apply_builtIn]
  exact not_matches_replaceAll rfl wordlike_symbol hframe (by decide) (importRule.apply input)

/-! ## Statements -/

theorem exists_run_of_holds (hholds : CharSet.holds code runs = true) :
    ∃ run ∈ runs, run.first ≤ code ∧ code ≤ run.last := by
  induction runs with
  | nil => cases hholds
  | cons run rest ih =>
    rw [CharSet.holds] at hholds
    split_ifs at hholds with hbefore hwithin
    · exact ⟨run, List.mem_cons_self, Nat.not_lt.mp hbefore, hwithin⟩
    · obtain ⟨other, hmem, hother⟩ := ih hholds
      exact ⟨other, List.mem_cons_of_mem _ hmem, hother⟩

/-- No white space is part of a word. -/
theorem not_isWord_of_whiteSpace (hspace : whiteSpace.contains c = true) :
    isWord true c = false := by
  have hall : ∀ run ∈ whiteSpace.runs, ∀ k < run.last + 1 - run.first,
      CharSet.holds (run.first + k) wordCharacter.runs = false := by decide +kernel
  obtain ⟨run, hmem, hfirst, hlast⟩ := exists_run_of_holds hspace
  have hout := hall run hmem (c.toNat - run.first) (by omega)
  rwa [Nat.add_sub_cancel' hfirst] at hout

theorem startsInWord_drop (text : Text) (i : Nat) :
    startsInWord (text.toList.drop i) = (text[i]?).any (isWord true) := by
  rw [startsInWord, List.head?_drop, Array.getElem?_toList]

/-- Neither white space nor a semicolon behind it goes on with a word. -/
theorem not_startsInWord_of_matches
    (hmatches : (Expr.ofParts [.repetition true 0 none (.set whiteSpace), .char ';']).Matches
      text i j) : startsInWord (text.toList.drop i) = false := by
  obtain ⟨m, ⟨n, -, -, hturns⟩, hend⟩ := Expr.matches_ofParts_cons.mp hmatches
  rw [startsInWord_drop]
  cases n with
  | zero =>
    cases hturns
    obtain ⟨hchar, -⟩ := Expr.matches_char.mp hend
    rw [hchar]
    decide
  | succ n =>
    obtain ⟨k, ⟨hspace, -⟩, -⟩ := hturns
    obtain ⟨c, hchar, hcontains⟩ := (Option.any_eq_true _ _).mp hspace
    rw [hchar]
    exact not_isWord_of_whiteSpace hcontains

/-- The symbol in a statement is a whole word. -/
theorem matches_symbol_of_import (hmatches : importStatement.Matches text i j) :
    ∃ k l, (wholeWord symbol).Matches text k l := by
  rw [importStatement, Expr.matches_ofParts_append] at hmatches
  obtain ⟨a, -, hrest⟩ := hmatches
  obtain ⟨b, -, hrest⟩ := Expr.matches_ofParts_cons.mp hrest
  obtain ⟨k, hdotted, hrest⟩ := Expr.matches_ofParts_append.mp hrest
  obtain ⟨l, hsymbol, hrest⟩ := Expr.matches_ofParts_append.mp hrest
  obtain ⟨⟨middle, hmiddle⟩, rfl⟩ := Expr.matches_chars.mp hdotted
  obtain ⟨⟨post, hpost⟩, rfl⟩ := Expr.matches_chars.mp hsymbol
  have hbehind := not_startsInWord_of_matches hrest
  rw [← List.drop_drop, ← hpost, List.drop_left] at hbehind
  rw [← List.drop_drop, ← hmiddle, List.drop_left] at hpost
  have htext : text.toList =
      (text.toList.take b ++ "flixel.animation.".toList) ++ (symbol ++ post) := by
    rw [hpost, List.append_assoc, hmiddle, List.take_append_drop]
  refine ⟨_, _, (matches_wholeWord_iff wordlike_symbol).mpr ⟨_, _, htext, rfl, rfl, ?_, hbehind⟩⟩
  rw [endsInWord_append, if_neg (by decide)]
  decide

/-- Where the symbol is no whole word, the rules change nothing. -/
theorem apply_of_not_matches {input : String}
    (hnone : ∀ i j, ¬(wholeWord symbol).Matches input.toList.toArray i j) :
    builtIn.apply input = input := by
  have himport : importRule.apply input = input := by
    refine replaceAll_of_not_matches (fun i j _ hmatches => ?_) _
    obtain ⟨k, l, hsymbol⟩ := matches_symbol_of_import hmatches
    exact hnone k l hsymbol
  have hsymbol : symbolRule.apply input = input :=
    replaceAll_of_not_matches (fun i j _ => hnone i j) _
  rw [apply_builtIn, himport, hsymbol]

/-- The rules find nothing to do in what they have left. -/
theorem apply_builtIn_again (input : String) :
    builtIn.apply (builtIn.apply input) = builtIn.apply input :=
  apply_of_not_matches fun _ _ => not_matches_symbol input

end Emend.RuleTable
