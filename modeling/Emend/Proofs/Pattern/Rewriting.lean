import Emend.Config
import Emend.Proofs.Pattern.Statement

/-!
# The built-in rules at one stroke

The built-in rules go through a text twice, first for the statements and then for the
symbol.  What comes of this can be told from the text itself: the statements in it, and
the symbols outside of them, are the places that change, none of these meets another, and
everything between them stays.
-/

namespace Emend.RuleTable

open Pattern Unicode

variable {text : Text} {s cs pre post word rest after : List Char} {c : Char} {inWord : Bool}
  {i j k l place stop : Nat}

/-! ## Replacing symbols -/

def newSymbol : List Char := "FlxFrame".toList

/-- What comes behind the symbol, if it is a whole word. -/
def afterSymbol? (inWord : Bool) (cs : List Char) : Option (List Char) := do
  let rest ← afterWord? symbol cs
  if inWord || startsInWord rest then none else some rest

theorem afterSymbol?_eq_some :
    afterSymbol? inWord cs = some rest ↔
      inWord = false ∧ cs = symbol ++ rest ∧ startsInWord rest = false := by
  simp only [afterSymbol?, Option.bind_eq_bind, Option.bind_eq_some_iff, afterWord?_eq_some,
    Option.ite_none_left_eq_some, Bool.or_eq_true, not_or, Bool.not_eq_true, Option.some.injEq]
  constructor
  · rintro ⟨_, rfl, ⟨hbefore, hafter⟩, rfl⟩
    exact ⟨hbefore, rfl, hafter⟩
  · rintro ⟨hbefore, rfl, hafter⟩
    exact ⟨rest, rfl, ⟨hbefore, hafter⟩, rfl⟩

theorem afterSymbol?_eq_none
    (hnone : ∀ rest, inWord = false → startsInWord rest = false → cs ≠ symbol ++ rest) :
    afterSymbol? inWord cs = none := by
  refine Option.eq_none_iff_forall_ne_some.mpr fun rest hread => ?_
  obtain ⟨hbefore, heq, hafter⟩ := afterSymbol?_eq_some.mp hread
  exact hnone rest hbefore hafter heq

theorem length_lt_of_afterSymbol? (hread : afterSymbol? inWord cs = some rest) :
    rest.length < cs.length := by
  obtain ⟨-, rfl, -⟩ := afterSymbol?_eq_some.mp hread
  rw [List.length_append]
  exact Nat.lt_add_of_pos_left (List.length_pos_of_ne_nil wordlike_symbol.ne_nil)

/-- Replaces symbols from left to right, in a text that goes on with a word or not. -/
def replaceSymbols (inWord : Bool) : List Char → List Char
  | [] => []
  | c :: rest =>
    match _hread : afterSymbol? inWord (c :: rest) with
    | some after => newSymbol ++ replaceSymbols true after
    | none => c :: replaceSymbols (isWord true c) rest
termination_by cs => cs.length
decreasing_by
  · exact length_lt_of_afterSymbol? _hread
  · exact Nat.lt_succ_self _

theorem replaceSymbols_of_some (hread : afterSymbol? inWord cs = some after) :
    replaceSymbols inWord cs = newSymbol ++ replaceSymbols true after := by
  cases cs with
  | nil => exact absurd (length_lt_of_afterSymbol? hread) (Nat.not_lt_zero _)
  | cons c rest =>
    rw [replaceSymbols]
    split
    · next hother =>
      rw [hread, Option.some.injEq] at hother
      rw [hother]
    · next hother =>
      rw [hread] at hother
      cases hother

theorem replaceSymbols_of_none (hread : afterSymbol? inWord (c :: rest) = none) :
    replaceSymbols inWord (c :: rest) = c :: replaceSymbols (isWord true c) rest := by
  rw [replaceSymbols]
  split
  · next hother =>
    rw [hread] at hother
    cases hother
  · rfl

theorem endsInWord_concat (pre : List Char) (c : Char) : endsInWord (pre ++ [c]) = isWord true c := by
  rw [endsInWord_append, if_neg (List.cons_ne_nil c [])]
  rfl

/-- Where no symbol begins, a text is kept. -/
theorem replaceSymbols_append (hclear : Clear symbol cs) (pre : List Char) :
    replaceSymbols (endsInWord pre) (cs ++ rest) =
      cs ++ replaceSymbols (endsInWord (pre ++ cs)) rest := by
  induction cs generalizing pre with
  | nil => rw [List.append_nil]; rfl
  | cons c cs ih =>
    have hout : ¬symbol <+: c :: (cs ++ rest) := hclear.not_prefix List.suffix_rfl (by simp)
    have hread : afterSymbol? (endsInWord pre) (c :: (cs ++ rest)) = none :=
      afterSymbol?_eq_none fun after _ _ heq => hout (heq ▸ List.prefix_append symbol after)
    rw [List.cons_append, replaceSymbols_of_none hread, ← endsInWord_concat pre, ih hclear.of_cons,
      List.append_assoc]
    rfl

/-! ## Places of statements and symbols -/

def StatementAt (cs : List Char) (i j : Nat) : Prop :=
  ∃ s, IsStatement s ∧ s <+: cs.drop i ∧ j = i + s.length

/-- The symbol stands between two places, with no word character beside it. -/
def SymbolAt (cs : List Char) (i j : Nat) : Prop :=
  symbol <+: cs.drop i ∧ j = i + symbol.length ∧ endsInWord (cs.take i) = false ∧
    startsInWord (cs.drop j) = false

/-- What a text has before and after a word in it. -/
theorem split_of_begins (hbegins : s <+: cs.drop i) :
    cs.drop i = s ++ cs.drop (i + s.length) ∧ cs.take (i + s.length) = cs.take i ++ s := by
  obtain ⟨post, hpost⟩ := hbegins
  constructor
  · rw [← List.drop_drop, ← hpost, List.drop_left]
  · rw [List.take_add, ← hpost, List.take_left]

theorem le_length_of_begins (hbegins : s <+: cs.drop i) (hne : s ≠ []) :
    i + s.length ≤ cs.length := by
  have hlength := hbegins.length_le
  have hpos := List.length_pos_of_ne_nil hne
  rw [List.length_drop] at hlength
  omega

theorem length_take_of_begins (hbegins : s <+: cs.drop i) (hne : s ≠ []) :
    (cs.take i).length = i := by
  have hle := le_length_of_begins hbegins hne
  rw [List.length_take, Nat.min_eq_left (by omega)]

theorem IsStatement.ne_nil (hstatement : IsStatement s) : s ≠ [] := by
  obtain ⟨_, _, _, _, _, rfl⟩ := hstatement
  simp

theorem matches_symbol : (wholeWord symbol).Matches text i j ↔ SymbolAt text.toList i j := by
  rw [matches_wholeWord_iff wordlike_symbol]
  constructor
  · rintro ⟨pre, post, htext, rfl, rfl, hbefore, hafter⟩
    have hdrop : text.toList.drop pre.length = symbol ++ post := by
      rw [htext, List.drop_left]
    refine ⟨hdrop ▸ List.prefix_append symbol post, rfl, ?_, ?_⟩
    · rwa [htext, List.take_left]
    · rwa [← List.drop_drop, hdrop, List.drop_left]
  · rintro ⟨hbegins, rfl, hbefore, hafter⟩
    obtain ⟨hdrop, -⟩ := split_of_begins hbegins
    refine ⟨_, _, ?_, length_take_of_begins hbegins wordlike_symbol.ne_nil, rfl, hbefore, hafter⟩
    rw [← hdrop, List.take_append_drop]

theorem SymbolAt.read (hat : SymbolAt cs i j) :
    afterSymbol? (endsInWord (cs.take i)) (cs.drop i) = some (cs.drop j) := by
  obtain ⟨hbegins, rfl, hbefore, hafter⟩ := hat
  exact afterSymbol?_eq_some.mpr ⟨hbefore, (split_of_begins hbegins).1, hafter⟩

theorem afterSymbol?_of_not_at (hnone : ∀ j, ¬SymbolAt cs i j) :
    afterSymbol? (endsInWord (cs.take i)) (cs.drop i) = none := by
  refine afterSymbol?_eq_none fun after hbefore hafter heq => ?_
  refine hnone (i + symbol.length) ⟨heq ▸ List.prefix_append symbol after, rfl, hbefore, ?_⟩
  rwa [← List.drop_drop, heq, List.drop_left]

/-- Where a statement stands, it is read. -/
theorem StatementAt.read (hat : StatementAt cs i j) : afterStatement? (cs.drop i) = some (cs.drop j) := by
  obtain ⟨s, hstatement, hbegins, rfl⟩ := hat
  exact afterStatement?_eq_some.mpr ⟨s, hstatement, (split_of_begins hbegins).1⟩

theorem afterStatement?_of_not_at (hnone : ∀ j, ¬StatementAt cs i j) :
    afterStatement? (cs.drop i) = none :=
  afterStatement?_eq_none fun s hstatement hbegins => hnone _ ⟨s, hstatement, hbegins, rfl⟩

/-- The second rule replaces symbols. -/
theorem apply_symbolRule (input : String) :
    (symbolRule.apply input).toList = replaceSymbols false input.toList := by
  have htakes : ∀ i j, (wholeWord symbol).Matches input.toList.toArray i j → i < j := by
    intro i j hmatches
    obtain ⟨-, rfl, -⟩ := matches_symbol.mp hmatches
    exact Nat.lt_add_of_pos_right (List.length_pos_of_ne_nil wordlike_symbol.ne_nil)
  have hreplaces := replaces_apply symbolRule htakes
  refine hreplaces.eq_of_step
    (f := fun i => replaceSymbols (endsInWord (input.toList.take i)) (input.toList.drop i))
    (expand_letters newSymbol symbolRule.pattern.names _) ?_ ?_ ?_
  · intro i j hmatches
    have hat : SymbolAt input.toList i j := matches_symbol.mp hmatches
    obtain ⟨hbegins, hstop, -⟩ := id hat
    simp only [replaceSymbols_of_some hat.read]
    rw [hstop, (split_of_begins hbegins).2, wordlike_symbol.endsInWord]
  · intro i c hchar hnone
    have hdrop : input.toList.drop i = c :: input.toList.drop (i + 1) :=
      drop_eq_cons.mpr ⟨hchar, rfl⟩
    have hread := afterSymbol?_of_not_at fun j hat => hnone j (matches_symbol.mpr hat)
    have htake : input.toList.take (i + 1) = input.toList.take i ++ [c] := by
      rw [List.take_add, hdrop]
      rfl
    simp only [hdrop, htake, endsInWord_concat]
    rw [List.toList_toArray, hdrop] at hread
    exact replaceSymbols_of_none hread
  · intro i hend
    simp only [List.drop_eq_nil_of_le (show input.toList.length ≤ i by simpa using hend),
      replaceSymbols]

/-! ## Places that do not meet -/

theorem StatementAt.lt (hat : StatementAt cs i j) : i < j := by
  obtain ⟨s, hstatement, -, rfl⟩ := hat
  exact Nat.lt_add_of_pos_right (List.length_pos_of_ne_nil hstatement.ne_nil)

theorem StatementAt.le_length (hat : StatementAt cs i j) : j ≤ cs.length := by
  obtain ⟨s, hstatement, hbegins, rfl⟩ := hat
  exact le_length_of_begins hbegins hstatement.ne_nil

theorem SymbolAt.lt (hat : SymbolAt cs i j) : i < j := by
  obtain ⟨-, rfl, -⟩ := hat
  exact Nat.lt_add_of_pos_right (List.length_pos_of_ne_nil wordlike_symbol.ne_nil)

theorem SymbolAt.le_length (hat : SymbolAt cs i j) : j ≤ cs.length := by
  obtain ⟨hbegins, rfl, -⟩ := hat
  exact le_length_of_begins hbegins wordlike_symbol.ne_nil

/-- Where a statement begins, there is one place only where it ends. -/
theorem StatementAt.eq (hat : StatementAt cs i j) (hother : StatementAt cs i k) : j = k := by
  have hsame : cs.drop j = cs.drop k := Option.some.inj (hat.read.symm.trans hother.read)
  have hlength := congrArg List.length hsame
  have hj := hat.le_length
  have hk := hother.le_length
  rw [List.length_drop, List.length_drop] at hlength
  omega

/-- In a text in which no statement begins, none begins at a place of it. -/
theorem not_statementAt_of_clear (hbegins : s <+: cs.drop i) (hclear : Clear "import".toList (s.drop n))
    (hfrom : i + n ≤ k) (hto : k < i + s.length) : ¬StatementAt cs k j := by
  intro hat
  obtain ⟨m, rfl⟩ := Nat.exists_eq_add_of_le hfrom
  have hdrop : cs.drop (i + n + m) = (s.drop n).drop m ++ cs.drop (i + s.length) := by
    rw [Nat.add_assoc, ← List.drop_drop, (split_of_begins hbegins).1, List.drop_drop,
      List.drop_append_of_le_length (by omega)]
  have hread := hat.read
  rw [hdrop, afterStatement?_of_clear hclear (List.drop_suffix _ _)] at hread
  · cases hread
  · rw [List.drop_drop, ← List.length_pos_iff, List.length_drop]
    omega

/-- No statement begins inside another one. -/
theorem StatementAt.not_inside (hat : StatementAt cs i j) (hfrom : i < k) (hto : k < j) :
    ¬StatementAt cs k l := by
  obtain ⟨s, hstatement, hbegins, rfl⟩ := hat
  have hclear := clear_statement hstatement
  rw [← List.drop_one] at hclear
  exact not_statementAt_of_clear hbegins hclear hfrom hto

/-- No statement begins where the symbol stands. -/
theorem SymbolAt.not_statementAt (hat : SymbolAt cs i j) (hfrom : i ≤ k) (hto : k < j) :
    ¬StatementAt cs k l := by
  obtain ⟨hbegins, rfl, -⟩ := hat
  exact not_statementAt_of_clear (n := 0) hbegins (by decide) hfrom hto

/-- The symbol does not stand inside of itself. -/
theorem SymbolAt.not_inside (hat : SymbolAt cs i j) (hfrom : i < k) (hto : k < j) :
    ¬SymbolAt cs k l := by
  rintro ⟨-, -, hbefore, -⟩
  obtain ⟨hbegins, rfl, -⟩ := hat
  obtain ⟨m, rfl⟩ := Nat.exists_eq_add_of_le (Nat.le_of_lt hfrom)
  have htake : cs.take (i + m) = cs.take i ++ symbol.take m := by
    rw [List.take_add, (split_of_begins hbegins).1, List.take_append_of_le_length (by omega)]
  have hpart : Wordlike (symbol.take m) := by
    refine ⟨?_, fun c hc => wordlike_symbol.all c (List.mem_of_mem_take hc)⟩
    rw [← List.length_pos_iff, List.length_take]
    omega
  rw [htake, hpart.endsInWord] at hbefore
  cases hbefore

theorem getElem?_of_begins (hbegins : s <+: cs.drop i) (hlt : n < s.length) :
    cs[i + n]? = s[n]? := by
  rw [← List.getElem?_drop, (split_of_begins hbegins).1, List.getElem?_append_left hlt]

theorem IsStatement.getLast? (hstatement : IsStatement s) : s.getLast? = some ';' := by
  obtain ⟨blanks, spaces, -, -, -, rfl⟩ := hstatement
  simp only [List.getLast?_append, List.getLast?_singleton, Option.some_or]

/-- The symbol does not go on beyond the end of a statement, where there is a semicolon. -/
theorem StatementAt.symbol_within (hat : StatementAt cs i j) (hsymbol : SymbolAt cs k l)
    (hto : k < j) : l ≤ j := by
  by_contra hbeyond
  obtain ⟨s, hstatement, hbegins, rfl⟩ := hat
  obtain ⟨hword, rfl, -⟩ := hsymbol
  have hpos := List.length_pos_of_ne_nil hstatement.ne_nil
  have hend := hstatement.getLast?
  rw [List.getLast?_eq_getElem?, ← getElem?_of_begins hbegins (by omega),
    show i + (s.length - 1) = k + (i + (s.length - 1) - k) by omega,
    getElem?_of_begins hword (by omega)] at hend
  exact absurd (List.mem_of_getElem? hend) (by decide)

/-! ## Rewriting at one stroke -/

/-- A change to a text: what stands between two places becomes some letters. -/
structure Edit where
  start : Nat
  stop : Nat
  letters : List Char

/-- The changes to a text: statements, and symbols that are not part of a statement. -/
inductive IsEdit (cs : List Char) : Edit → Prop
  | atStatement {start stop : Nat} (hat : StatementAt cs start stop) :
    IsEdit cs ⟨start, stop, newStatement⟩
  | atSymbol {start stop : Nat} (hat : SymbolAt cs start stop)
    (houtside : ∀ i j, StatementAt cs i j → ¬(i ≤ start ∧ stop ≤ j)) :
    IsEdit cs ⟨start, stop, newSymbol⟩

/-- A text from a place on, with changes made to it. -/
def splice (cs : List Char) : Nat → List Edit → List Char
  | place, [] => cs.drop place
  | place, edit :: rest =>
    (cs.drop place).take (edit.start - place) ++ (edit.letters ++ splice cs edit.stop rest)

/-- Goes through a text from a place on and collects the changes to it, with what comes of
the text. -/
inductive Rewrites (cs : List Char) : Nat → List Edit → List Char → Prop
  | done : Rewrites cs cs.length [] []
  | atStatement {place stop : Nat} {edits : List Edit} {rest : List Char}
    (hat : StatementAt cs place stop) (hrest : Rewrites cs stop edits rest) :
    Rewrites cs place (⟨place, stop, newStatement⟩ :: edits) (newStatement ++ rest)
  | atSymbol {place stop : Nat} {edits : List Edit} {rest : List Char}
    (hat : SymbolAt cs place stop) (hrest : Rewrites cs stop edits rest) :
    Rewrites cs place (⟨place, stop, newSymbol⟩ :: edits) (newSymbol ++ rest)
  | keep {place : Nat} {c : Char} {edits : List Edit} {rest : List Char}
    (hchar : cs.drop place = c :: cs.drop (place + 1))
    (hstatement : ∀ stop, ¬StatementAt cs place stop) (hsymbol : ∀ stop, ¬SymbolAt cs place stop)
    (hrest : Rewrites cs (place + 1) edits rest) : Rewrites cs place edits (c :: rest)

variable {edit : Edit} {edits : List Edit}

/-- Every text can be gone through. -/
theorem exists_rewrites (hle : place ≤ cs.length) : ∃ edits rest, Rewrites cs place edits rest := by
  induction hleft : cs.length - place using Nat.strongRecOn generalizing place with
  | ind left ih =>
    have hnext {next : Nat} (hlt : place < next) (hend : next ≤ cs.length) :
        ∃ edits rest, Rewrites cs next edits rest := ih _ (by omega) hend rfl
    by_cases hstatement : ∃ stop, StatementAt cs place stop
    · obtain ⟨stop, hat⟩ := hstatement
      obtain ⟨edits, rest, hrest⟩ := hnext hat.lt hat.le_length
      exact ⟨_, _, .atStatement hat hrest⟩
    by_cases hsymbol : ∃ stop, SymbolAt cs place stop
    · obtain ⟨stop, hat⟩ := hsymbol
      obtain ⟨edits, rest, hrest⟩ := hnext hat.lt hat.le_length
      exact ⟨_, _, .atSymbol hat hrest⟩
    rcases Nat.eq_or_lt_of_le hle with rfl | hlt
    · exact ⟨_, _, .done⟩
    · obtain ⟨edits, rest, hrest⟩ := hnext (Nat.lt_succ_self place) hlt
      exact ⟨_, _, .keep (List.drop_eq_getElem_cons hlt) (not_exists.mp hstatement)
        (not_exists.mp hsymbol) hrest⟩

/-- What comes of the text is what the two passes make of it. -/
theorem Rewrites.eq_replace (hrewrites : Rewrites cs place edits rest) :
    rest = replaceSymbols (endsInWord (cs.take place)) (replaceStatements (cs.drop place)) := by
  induction hrewrites with
  | done => simp [replaceStatements, replaceSymbols]
  | @atStatement place stop edits rest hat _ ih =>
    have hclear : Clear symbol newStatement := by decide
    have hnew : endsInWord (cs.take place ++ newStatement) = false := by
      rw [endsInWord_append]
      rfl
    have hold : endsInWord (cs.take stop) = false := by
      obtain ⟨s, hstatement, hbegins, rfl⟩ := hat
      rw [(split_of_begins hbegins).2, endsInWord_append, if_neg hstatement.ne_nil, endsInWord,
        hstatement.getLast?]
      rfl
    rw [replaceStatements_of_some hat.read, replaceSymbols_append hclear, hnew, ih, hold]
  | @atSymbol place stop edits rest hat _ ih =>
    obtain ⟨hbegins, rfl, hbefore, hafter⟩ := hat
    obtain ⟨hdrop, htake⟩ := split_of_begins hbegins
    rw [hdrop, replaceStatements_append (by decide), replaceSymbols_of_some
      (afterSymbol?_eq_some.mpr ⟨hbefore, rfl, by rwa [startsInWord_replaceStatements]⟩), ih, htake,
      wordlike_symbol.endsInWord]
  | @keep place c edits rest hchar hstatement hsymbol _ ih =>
    have hread := afterStatement?_of_not_at hstatement
    have htake : cs.take (place + 1) = cs.take place ++ [c] := by
      rw [List.take_add, hchar]
      rfl
    rw [hchar] at hread
    rw [hchar, replaceStatements_of_none hread, replaceSymbols_of_none, ih, htake,
      endsInWord_concat]
    -- a symbol that stands here after the first pass has stood here before it
    refine afterSymbol?_eq_none fun after hbefore hafter heq => ?_
    rw [← replaceStatements_of_none hread, ← hchar] at heq
    have hclear : Clear "import".toList symbol := by decide
    obtain ⟨post, hpost⟩ :=
      exists_of_prefix_replaceStatements hclear (heq ▸ List.prefix_append symbol after)
    rw [hpost, replaceStatements_append hclear, List.append_cancel_left_eq] at heq
    refine hsymbol _ ⟨hpost ▸ List.prefix_append symbol post, rfl, hbefore, ?_⟩
    rwa [← List.drop_drop, hpost, List.drop_left, ← startsInWord_replaceStatements, heq]

/-- The built-in rules go through a text once. -/
theorem exists_rewrites_builtIn (input : String) :
    ∃ edits, Rewrites input.toList 0 edits (builtIn.apply input).toList := by
  obtain ⟨edits, rest, hrewrites⟩ := exists_rewrites (Nat.zero_le input.toList.length)
  have hrest := hrewrites.eq_replace
  rw [List.take_zero, List.drop_zero] at hrest
  refine ⟨edits, ?_⟩
  rw [apply_builtIn, apply_symbolRule, apply_importRule]
  exact hrest ▸ hrewrites

theorem Rewrites.le_start (hrewrites : Rewrites cs place edits rest) (hmem : edit ∈ edits) :
    place ≤ edit.start := by
  induction hrewrites with
  | done => cases hmem
  | atStatement hat _ ih | atSymbol hat _ ih =>
    rcases List.mem_cons.mp hmem with rfl | hlater
    · exact Nat.le_refl _
    · exact Nat.le_trans (Nat.le_of_lt hat.lt) (ih hlater)
  | keep _ _ _ _ ih => exact Nat.le_of_succ_le (ih hmem)

/-- The changes do not meet each other. -/
theorem Rewrites.pairwise (hrewrites : Rewrites cs place edits rest) :
    edits.Pairwise fun first second => first.stop ≤ second.start := by
  induction hrewrites with
  | done => exact .nil
  | atStatement _ hrest ih | atSymbol _ hrest ih =>
    exact .cons (fun later hlater => hrest.le_start hlater) ih
  | keep _ _ _ _ ih => exact ih

/-- What comes of the text is the text with the changes made to it. -/
theorem Rewrites.eq_splice (hrewrites : Rewrites cs place edits rest) :
    rest = splice cs place edits := by
  induction hrewrites with
  | done => simp [splice]
  | atStatement _ _ ih | atSymbol _ _ ih => simp [splice, ih]
  | @keep place c edits rest hchar _ _ hrest ih =>
    rw [ih]
    cases edits with
    | nil => rw [splice, splice, hchar]
    | cons first others =>
      have hle := hrest.le_start List.mem_cons_self
      rw [splice, splice, hchar, show first.start - place = first.start - (place + 1) + 1 by omega]
      rfl

/-! ## A text and what comes of it -/

/-- Changes keep where a word goes on. -/
theorem Rewrites.startsInWord_eq (hrewrites : Rewrites cs place edits rest) :
    startsInWord rest = startsInWord (cs.drop place) := by
  cases hrewrites with
  | done => simp [startsInWord]
  | atStatement hat _ =>
    obtain ⟨s, ⟨_, _, _, _, _, rfl⟩, ⟨post, hpost⟩, -⟩ := hat
    rw [← hpost]
    rfl
  | atSymbol hat _ =>
    obtain ⟨⟨post, hpost⟩, -⟩ := hat
    rw [← hpost]
    rfl
  | keep hchar _ _ _ =>
    rw [hchar]
    rfl

/-- No text begins with a statement and with what stands in its place. -/
theorem IsStatement.not_begins (hstatement : IsStatement s) : ¬s <+: newStatement ++ rest := by
  obtain ⟨blanks, spaces, hne, hblank, -, rfl⟩ := hstatement
  have hnew : newStatement ++ rest = "import".toList ++
      (' ' :: ("flixel.".toList ++ 'g' :: ("raphics.frames.FlxFrame;".toList ++ rest))) := rfl
  have hold : qualified ++ (spaces ++ [';']) =
      "flixel.".toList ++ 'a' :: ("nimation.FlxFrameation".toList ++ (spaces ++ [';'])) := rfl
  rw [hnew, hold, List.prefix_append_right_inj]
  intro hfront
  match blanks with
  | [] => exact hne rfl
  | [_] =>
    rw [List.singleton_append, List.cons_prefix_cons, List.prefix_append_right_inj,
      List.cons_prefix_cons] at hfront
    exact absurd hfront.2.1 (by decide)
  | _ :: c :: _ =>
    have hspace : whiteSpace.contains c = true := hblank c (by simp)
    rw [(List.cons_prefix_cons.mp (List.cons_prefix_cons.mp hfront).2).1] at hspace
    exact absurd hspace (by decide)

/-- A text with which what comes of it begins has not changed. -/
theorem Rewrites.eq_of_begins (hrewrites : Rewrites cs place edits rest)
    (hfront : cs.drop place <+: rest) : rest = cs.drop place := by
  induction hrewrites with
  | done => simp
  | atStatement hat hrest _ =>
    obtain ⟨s, hstatement, hbegins, -⟩ := hat
    exact absurd (hbegins.trans hfront) hstatement.not_begins
  | atSymbol hat hrest _ =>
    obtain ⟨hbegins, rfl, -, hafter⟩ := hat
    have hsplit : symbol = newSymbol ++ 'a' :: "tion".toList := rfl
    have hnext := hbegins.trans hfront
    rw [hsplit, List.prefix_append_right_inj] at hnext
    obtain ⟨others, rfl⟩ := hnext
    have hletter : isWord true 'a' = false := hrest.startsInWord_eq.trans hafter
    exact absurd hletter (by decide)
  | keep hchar _ _ _ ih =>
    rw [hchar, List.cons_prefix_cons] at hfront
    rw [hchar, ih hfront.2]

/-- The built-in rules do not add to a text that they change. -/
theorem apply_builtIn_of_begins {input : String}
    (hfront : input.toList <+: (builtIn.apply input).toList) : builtIn.apply input = input := by
  obtain ⟨edits, hrewrites⟩ := exists_rewrites_builtIn input
  exact String.toList_injective (hrewrites.eq_of_begins hfront)

/-! ## The changes are all there -/

/-- No statement goes on across a place. -/
def Uncrossed (cs : List Char) (place : Nat) : Prop :=
  ∀ i j, i < place → StatementAt cs i j → j ≤ place

theorem Uncrossed.after_statement (hplace : Uncrossed cs i) (hat : StatementAt cs i j) :
    Uncrossed cs j := by
  intro k l hk hother
  rcases Nat.lt_trichotomy k i with hlt | rfl | hgt
  · exact Nat.le_trans (hplace k l hlt hother) (Nat.le_of_lt hat.lt)
  · exact Nat.le_of_eq (hother.eq hat)
  · exact absurd hother (hat.not_inside hgt hk)

theorem Uncrossed.after_symbol (hplace : Uncrossed cs i) (hat : SymbolAt cs i j) :
    Uncrossed cs j := by
  intro k l hk hother
  rcases Nat.lt_or_ge k i with hlt | hge
  · exact Nat.le_trans (hplace k l hlt hother) (Nat.le_of_lt hat.lt)
  · exact absurd hother (hat.not_statementAt hge hk)

/-- Where no statement begins, none goes on across the next place. -/
theorem Uncrossed.succ (hplace : Uncrossed cs i) (hnone : ∀ j, ¬StatementAt cs i j) :
    Uncrossed cs (i + 1) := by
  intro k l hk hother
  rcases Nat.eq_or_lt_of_le (Nat.le_of_lt_succ hk) with rfl | hlt
  · exact absurd hother (hnone l)
  · exact Nat.le_succ_of_le (hplace k l hlt hother)

/-- Where no statement goes on, a symbol is outside of all statements. -/
theorem Uncrossed.isEdit_symbol (hplace : Uncrossed cs i) (hat : SymbolAt cs i j) :
    IsEdit cs ⟨i, j, newSymbol⟩ := by
  refine .atSymbol hat fun k l hother ⟨hk, hl⟩ => ?_
  rcases Nat.lt_or_ge k i with hlt | hge
  · exact absurd (Nat.le_trans hl (hplace k l hlt hother)) (Nat.not_le.mpr hat.lt)
  · exact hat.not_statementAt hge (Nat.lt_of_le_of_lt hk hat.lt) hother

/-- A statement is the only change that begins where it stands. -/
theorem StatementAt.only (hat : StatementAt cs i j) (hedit : IsEdit cs edit)
    (hfrom : i ≤ edit.start) (hto : edit.start < j) : edit = ⟨i, j, newStatement⟩ := by
  cases hedit with
  | atStatement hother =>
    rcases Nat.eq_or_lt_of_le hfrom with heq | hgt
    · cases heq
      rw [hother.eq hat]
    · exact absurd hother (hat.not_inside hgt hto)
  | atSymbol hother houtside =>
    exact absurd ⟨hfrom, hat.symbol_within hother hto⟩ (houtside _ _ hat)

/-- The symbol is the only change that begins where it stands. -/
theorem SymbolAt.only (hat : SymbolAt cs i j) (hedit : IsEdit cs edit) (hfrom : i ≤ edit.start)
    (hto : edit.start < j) : edit = ⟨i, j, newSymbol⟩ := by
  cases hedit with
  | atStatement hother => exact absurd hother (hat.not_statementAt hfrom hto)
  | atSymbol hother _ =>
    rcases Nat.eq_or_lt_of_le hfrom with heq | hgt
    · cases heq
      rw [hother.2.1, hat.2.1]
    · exact absurd hother (hat.not_inside hgt hto)

theorem mem_cons_iff {first : Edit} (hfirst : IsEdit cs first) (hlt : first.start < first.stop)
    (honly : ∀ edit, IsEdit cs edit → first.start ≤ edit.start → edit.start < first.stop →
      edit = first)
    (hrest : ∀ edit, edit ∈ edits ↔ IsEdit cs edit ∧ first.stop ≤ edit.start) :
    edit ∈ first :: edits ↔ IsEdit cs edit ∧ first.start ≤ edit.start := by
  rw [List.mem_cons, hrest]
  constructor
  · rintro (rfl | ⟨hedit, hfrom⟩)
    · exact ⟨hfirst, Nat.le_refl _⟩
    · exact ⟨hedit, Nat.le_trans (Nat.le_of_lt hlt) hfrom⟩
  · rintro ⟨hedit, hfrom⟩
    rcases Nat.lt_or_ge edit.start first.stop with hwithin | hbeyond
    · exact .inl (honly edit hedit hfrom hwithin)
    · exact .inr ⟨hedit, hbeyond⟩

/-- The changes from a place on are collected, if no statement goes on across it. -/
theorem Rewrites.mem_iff (hrewrites : Rewrites cs place edits rest) (hplace : Uncrossed cs place) :
    edit ∈ edits ↔ IsEdit cs edit ∧ place ≤ edit.start := by
  induction hrewrites generalizing edit with
  | done =>
    refine ⟨fun hmem => absurd hmem List.not_mem_nil, ?_⟩
    rintro ⟨hat | ⟨hat, -⟩, hfrom⟩
    · exact absurd (Nat.lt_of_lt_of_le hat.lt hat.le_length) (Nat.not_lt.mpr hfrom)
    · exact absurd (Nat.lt_of_lt_of_le hat.lt hat.le_length) (Nat.not_lt.mpr hfrom)
  | atStatement hat _ ih =>
    exact mem_cons_iff (.atStatement hat) hat.lt (fun _ => hat.only) fun _ =>
      ih (hplace.after_statement hat)
  | atSymbol hat _ ih =>
    exact mem_cons_iff (hplace.isEdit_symbol hat) hat.lt (fun _ => hat.only) fun _ =>
      ih (hplace.after_symbol hat)
  | keep _ hstatement hsymbol _ ih =>
    rw [ih (hplace.succ hstatement)]
    refine and_congr_right fun hedit => ⟨Nat.le_of_succ_le, fun hfrom => ?_⟩
    refine Nat.lt_of_le_of_ne hfrom fun heq => ?_
    cases hedit with
    | atStatement hother =>
      cases heq
      exact hstatement _ hother
    | atSymbol hother _ =>
      cases heq
      exact hsymbol _ hother

/-- The built-in rules change just the statements in a text and the symbols outside of
them, none of which meets another, and keep everything else in order. -/
theorem builtIn_rewrites :
    compile Config.builtIn.rules = .ok builtIn ∧
      ∀ input : String, ∃ edits : List Edit,
        (∀ edit, edit ∈ edits ↔ IsEdit input.toList edit) ∧
          edits.Pairwise (fun first second => first.stop ≤ second.start) ∧
          (builtIn.apply input).toList = splice input.toList 0 edits := by
  refine ⟨compile_builtIn, fun input => ?_⟩
  obtain ⟨edits, hrewrites⟩ := exists_rewrites_builtIn input
  refine ⟨edits, fun edit => ?_, hrewrites.pairwise, hrewrites.eq_splice⟩
  rw [hrewrites.mem_iff fun i j hi => absurd hi (Nat.not_lt_zero i)]
  simp

end Emend.RuleTable
