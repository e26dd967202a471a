import Mathlib.Data.List.SplitBy
import Emend.Proofs.Pattern.Replacing

/-!
# Whole words

A text is a row of runs, of word characters and of others by turns.  A pattern that asks
for a word between word boundaries matches just the runs that are this word, so that
replacing its matches goes through the runs one by one.
-/

namespace Emend.Pattern

variable {text : Text} {word letters pre post cs run rest : List Char}
  {before after : List (List Char)} {expand : Match → List Char} {pattern : Pattern}
  {found : Match} {i j start : Nat}

/-! ## Runs -/

def startsInWord (cs : List Char) : Bool := cs.head?.any (isWord true)

def endsInWord (cs : List Char) : Bool := cs.getLast?.any (isWord true)

theorem endsInWord_append (pre post : List Char) :
    endsInWord (pre ++ post) = if post = [] then endsInWord pre else endsInWord post := by
  split_ifs with hnil
  · rw [hnil, List.append_nil]
  · rw [endsInWord, List.getLast?_append_of_ne_nil _ hnil, endsInWord]

/-- The runs of a text, each of word characters or of others. -/
def runs (cs : List Char) : List (List Char) :=
  cs.splitBy fun a b => isWord true a == isWord true b

structure Wordlike (word : List Char) : Prop where
  ne_nil : word ≠ []
  all : ∀ c ∈ word, isWord true c = true

namespace Wordlike

theorem of_all (hne : word ≠ []) (hall : word.all (isWord true) = true) : Wordlike word :=
  ⟨hne, List.all_eq_true.mp hall⟩

theorem startsInWord (hword : Wordlike word) (post : List Char) :
    startsInWord (word ++ post) = true := by
  obtain ⟨c, rest, rfl⟩ := List.exists_cons_of_ne_nil hword.ne_nil
  exact hword.all c List.mem_cons_self

theorem endsInWord (hword : Wordlike word) (pre : List Char) :
    endsInWord (pre ++ word) = true := by
  have hmem := hword.all _ (List.getLast_mem hword.ne_nil)
  rw [Pattern.endsInWord, List.getLast?_append_of_ne_nil _ hword.ne_nil,
    List.getLast?_eq_some_getLast hword.ne_nil]
  exact hmem

theorem isChain (hword : Wordlike word) :
    word.IsChain fun a b => (isWord true a == isWord true b) = true := by
  have hpairs : word.Pairwise fun _ _ => True := List.pairwise_of_forall fun _ _ => trivial
  refine (hpairs.imp_of_mem fun ha hb _ => ?_).isChain
  rw [hword.all _ ha, hword.all _ hb]
  rfl

theorem runs_eq (hword : Wordlike word) : runs word = [word] :=
  List.splitBy_of_isChain hword.ne_nil hword.isChain

end Wordlike

/-- Where a word begins or ends between two parts, no run lies in both. -/
theorem runs_append (hbreak : endsInWord pre ≠ startsInWord post) :
    runs (pre ++ post) = runs pre ++ runs post := by
  refine List.splitBy_append fun a ha b hb => ?_
  rw [endsInWord, startsInWord, ha, hb] at hbreak
  simpa using hbreak

/-- A word with no word character beside it is a run. -/
theorem runs_word (hword : Wordlike word) (hbefore : endsInWord pre = false)
    (hafter : startsInWord post = false) :
    runs (pre ++ (word ++ post)) = runs pre ++ word :: runs post := by
  rw [runs_append, runs_append, hword.runs_eq, List.singleton_append]
  · rw [hafter, ← List.nil_append word, hword.endsInWord]
    decide
  · rw [hbefore, hword.startsInWord]
    decide

theorem breaks_of_runs (hruns : runs cs = before ++ after) (hbefore : before ≠ [])
    (hafter : after ≠ []) : endsInWord before.flatten ≠ startsInWord after.flatten := by
  obtain ⟨-, -, -, hchain⟩ := List.splitBy_eq_iff.mp hruns
  obtain ⟨hlast, hhead, hbreak⟩ := (List.isChain_append.mp hchain).2.2 _
    (List.getLast_mem_getLast? hbefore) _ (List.head_mem_head? hafter)
  rw [List.getLast_getLast_eq_getLast_flatten, List.head_head_eq_head_flatten] at hbreak
  rw [endsInWord, startsInWord, List.getLast?_eq_some_getLast, List.head?_eq_some_head]
  simpa using hbreak

/-- A run that is a word has no word character beside it. -/
theorem beside_of_runs (hword : Wordlike word) (hruns : runs cs = before ++ word :: after) :
    cs = before.flatten ++ (word ++ after.flatten) ∧ endsInWord before.flatten = false ∧
      startsInWord after.flatten = false := by
  obtain ⟨hcs, -⟩ := List.splitBy_eq_iff.mp hruns
  refine ⟨by rw [hcs, List.flatten_append, List.flatten_cons], ?_, ?_⟩
  · by_cases hnil : before = []
    · rw [hnil]
      rfl
    · have hbreak := breaks_of_runs hruns hnil (List.cons_ne_nil word after)
      rw [List.flatten_cons, hword.startsInWord] at hbreak
      simpa using hbreak
  · by_cases hnil : after = []
    · rw [hnil]
      rfl
    · rw [List.append_cons] at hruns
      have hbreak := breaks_of_runs hruns (by simp) hnil
      rw [List.flatten_append, List.flatten_singleton, hword.endsInWord] at hbreak
      simpa using hbreak.symm

/-! ## Word boundaries -/

theorem holds_boundary_iff (htext : text.toList = pre ++ post) :
    (Look.word true .boundary).holds text pre.length ↔ endsInWord pre ≠ startsInWord post := by
  have hbefore : charBefore? text pre.length = pre.getLast? := by
    rw [charBefore?, ← Array.getElem?_toList, htext, List.getLast?_eq_getElem?]
    split_ifs with hpre
    · rw [hpre, List.length_eq_zero_iff.mp hpre]
      rfl
    · rw [List.getElem?_append_left (by omega)]
  have hafter : charAfter? text pre.length = post.head? := by
    rw [charAfter?, ← Array.getElem?_toList, htext, List.getElem?_append_right (Nat.le_refl _),
      Nat.sub_self, List.head?_eq_getElem?]
  rw [Look.holds, WordEdge.holds, hbefore, hafter, bne_iff_ne]
  rfl

def wholeWord (word : List Char) : Expr :=
  .ofParts (.look (.word true .boundary) ::
    (word.map Expr.char ++ [.look (.word true .boundary)]))

/-- A whole word matches itself between word boundaries. -/
theorem matches_wholeWord :
    (wholeWord word).Matches text i j ↔
      (Look.word true .boundary).holds text i ∧ word <+: text.toList.drop i ∧
        (Look.word true .boundary).holds text (i + word.length) ∧ j = i + word.length := by
  rw [wholeWord, Expr.matches_ofParts_cons]
  constructor
  · rintro ⟨_, ⟨hfront, rfl⟩, hrest⟩
    obtain ⟨_, hchars, hback, rfl⟩ := Expr.matches_ofParts_append.mp hrest
    obtain ⟨hbegins, rfl⟩ := Expr.matches_chars.mp hchars
    exact ⟨hfront, hbegins, hback, rfl⟩
  · rintro ⟨hfront, hbegins, hback, rfl⟩
    exact ⟨i, ⟨hfront, rfl⟩, Expr.matches_ofParts_append.mpr
      ⟨_, Expr.matches_chars.mpr ⟨hbegins, rfl⟩, hback, rfl⟩⟩

/-- A word between boundaries has no word character beside it. -/
theorem matches_wholeWord_iff (hword : Wordlike word) :
    (wholeWord word).Matches text i j ↔
      ∃ pre post, text.toList = pre ++ (word ++ post) ∧ pre.length = i ∧ j = i + word.length ∧
        endsInWord pre = false ∧ startsInWord post = false := by
  rw [matches_wholeWord]
  constructor
  · rintro ⟨hfront, ⟨post, hpost⟩, hback, rfl⟩
    have hlength : (text.toList.take i).length = i := by
      rw [List.length_take, Nat.min_eq_left]
      by_contra hout
      rw [List.drop_eq_nil_of_le (by omega)] at hpost
      exact hword.ne_nil (List.append_eq_nil_iff.mp hpost).1
    have htext : text.toList = text.toList.take i ++ (word ++ post) := by
      rw [hpost, List.take_append_drop]
    have hsplit : text.toList = (text.toList.take i ++ word) ++ post := by
      rw [List.append_assoc, ← htext]
    rw [← hlength, holds_boundary_iff htext, hword.startsInWord] at hfront
    rw [← hlength, ← List.length_append, holds_boundary_iff hsplit, hword.endsInWord] at hback
    exact ⟨_, post, htext, hlength, rfl, by simpa using hfront, by simpa using hback.symm⟩
  · rintro ⟨pre, post, htext, rfl, rfl, hbefore, hafter⟩
    have hsplit : text.toList = (pre ++ word) ++ post := by
      rw [htext, List.append_assoc]
    refine ⟨?_, ⟨post, by rw [htext, List.drop_left]⟩, ?_, rfl⟩
    · rw [holds_boundary_iff htext, hbefore, hword.startsInWord]
      decide
    · rw [← List.length_append, holds_boundary_iff hsplit, hword.endsInWord, hafter]
      decide

theorem start_le_size (hword : Wordlike word) (hmatches : (wholeWord word).Matches text i j) :
    i ≤ text.size := by
  obtain ⟨pre, post, htext, rfl, -⟩ := (matches_wholeWord_iff hword).mp hmatches
  rw [← Array.length_toList, htext, List.length_append]
  exact Nat.le_add_right _ _

/-! ## Replacing words -/

def replaceRun (word letters run : List Char) : List Char :=
  if run = word then letters else run

theorem flatMap_replaceRun_of_not_mem {lists : List (List Char)} (hnone : word ∉ lists) :
    lists.flatMap (replaceRun word letters) = lists.flatten := by
  induction lists with
  | nil => rfl
  | cons run lists ih =>
    rw [List.mem_cons, not_or] at hnone
    rw [List.flatMap_cons, replaceRun, if_neg (Ne.symm hnone.1), ih hnone.2, List.flatten_cons]

theorem runs_flatten (cs : List Char) : (runs cs).flatten = cs :=
  List.flatten_splitBy _ cs

/-- A place in a text that no word goes on across. -/
structure WordBreak (text : Text) (start : Nat) : Prop where
  le_size : start ≤ text.size
  apart : startsInWord (text.toList.drop start) = true →
    endsInWord (text.toList.take start) = false

theorem WordBreak.length_take (hbreak : WordBreak text start) :
    (text.toList.take start).length = start := by
  rw [List.length_take, Nat.min_eq_left]
  simpa using hbreak.le_size

/-- Behind a word break, a run that is the word is a match. -/
theorem WordBreak.matches_of_runs (hbreak : WordBreak text start) (hword : Wordlike word)
    (hruns : runs (text.toList.drop start) = before ++ word :: after) :
    (wholeWord word).Matches text (start + before.flatten.length)
      (start + before.flatten.length + word.length) := by
  obtain ⟨hrest, hbefore, hafter⟩ := beside_of_runs hword hruns
  refine (matches_wholeWord_iff hword).mpr
    ⟨text.toList.take start ++ before.flatten, after.flatten, ?_, ?_, rfl, ?_, hafter⟩
  · rw [List.append_assoc, ← hrest, List.take_append_drop]
  · rw [List.length_append, hbreak.length_take]
  · rw [endsInWord_append]
    split_ifs with hnil
    · apply hbreak.apart
      rw [hrest, hnil]
      exact hword.startsInWord _
    · exact hbefore

/-- Up to its first match, a text has other runs than the word. -/
theorem split_of_first (hword : Wordlike word) (hbreak : WordBreak text start)
    (hfirst : Expr.First (wholeWord word) text start found) :
    WordBreak text found.stop ∧ word ∉ runs (text.extract start found.start).toList ∧
      runs (text.toList.drop start) = runs (text.extract start found.start).toList ++
        word :: runs (text.toList.drop found.stop) := by
  obtain ⟨all, post, htext, hall, hstop, hbefore, hafter⟩ :=
    (matches_wholeWord_iff hword).mp hfirst.matched
  have hle : start ≤ all.length := hall ▸ hfirst.start_le
  have hsplit : text.toList.drop start = all.drop start ++ (word ++ post) := by
    rw [htext, List.drop_append_of_le_length hle]
  have hpost : text.toList.drop found.stop = post := by
    rw [hstop, ← hall, ← List.length_append, htext, ← List.append_assoc, List.drop_left]
  have hkept : (text.extract start found.start).toList = all.drop start := by
    rw [Array.toList_extract, List.extract_eq_take_drop, hsplit, List.take_left']
    rw [List.length_drop, hall]
  have hruns : runs (text.toList.drop start) =
      runs (all.drop start) ++ word :: runs (text.toList.drop found.stop) := by
    rw [hsplit, hpost]
    refine runs_word hword ?_ hafter
    rw [← List.take_append_drop start all, endsInWord_append] at hbefore
    split_ifs at hbefore with hnil
    · rw [hnil]
      rfl
    · exact hbefore
  rw [hkept]
  refine ⟨⟨Expr.le_size_of_matches _ hfirst.matched hfirst.start_le_size, ?_⟩, fun hmem => ?_,
    hruns⟩
  · rw [hpost, hafter]
    intro hstarts
    cases hstarts
  · obtain ⟨before, after, hmem⟩ := List.append_of_mem hmem
    have hlength : (all.drop start).length =
        before.flatten.length + (word.length + after.flatten.length) := by
      rw [← runs_flatten (all.drop start), hmem, List.flatten_append, List.flatten_cons,
        List.length_append, List.length_append]
    have hpos := List.length_pos_of_ne_nil hword.ne_nil
    rw [List.length_drop] at hlength
    rw [hmem, List.append_assoc, List.cons_append] at hruns
    refine hfirst.none_before _ _ (Nat.le_add_right _ _) ?_
      (hbreak.matches_of_runs hword hruns)
    omega

/-- Putting letters in the places of all matches goes through the runs one by one. -/
theorem Replaces.eq_runs (hword : Wordlike word)
    (hreplaces : Replaces (wholeWord word) expand text start rest)
    (hexpand : ∀ found, expand found = letters) (hbreak : WordBreak text start) :
    rest = (runs (text.toList.drop start)).flatMap (replaceRun word letters) := by
  induction hreplaces with
  | @done start hnone =>
    rw [flatMap_replaceRun_of_not_mem, runs_flatten]
    intro hmem
    obtain ⟨before, after, hruns⟩ := List.append_of_mem hmem
    have hmatches := hbreak.matches_of_runs hword hruns
    exact hnone _ _ (Nat.le_add_right _ _) (start_le_size hword hmatches) hmatches
  | @next start found rest hfirst _ ih =>
    obtain ⟨hnext, hnone, hruns⟩ := split_of_first hword hbreak hfirst
    rw [hruns, List.flatMap_append, flatMap_replaceRun_of_not_mem hnone, runs_flatten,
      List.flatMap_cons, replaceRun, if_pos rfl, hexpand, ih hnext]

/-- Replacing a whole word replaces the runs that are the word. -/
theorem replaceAll_wholeWord (hexpr : pattern.expr = wholeWord word) (hword : Wordlike word)
    (letters : List Char) (input : String) :
    pattern.replaceAll (letters.map .char) input =
      String.ofList ((runs input.toList).flatMap (replaceRun word letters)) := by
  have htakes : ∀ i j, pattern.expr.Matches input.toList.toArray i j → i < j := by
    intro i j hmatches
    rw [hexpr] at hmatches
    obtain ⟨-, -, -, rfl⟩ := matches_wholeWord.mp hmatches
    exact Nat.lt_add_of_pos_right (List.length_pos_of_ne_nil hword.ne_nil)
  have hreplaces := replaces_replaceAll htakes (letters.map .char)
  rw [hexpr] at hreplaces
  have hbreak : WordBreak input.toList.toArray 0 := ⟨Nat.zero_le _, fun _ => rfl⟩
  rw [← String.toList_inj, String.toList_ofList,
    hreplaces.eq_runs hword (expand_letters letters pattern.names _) hbreak, List.drop_zero]

/-- What becomes of a run has word characters at its ends just where the run has. -/
theorem replaceRun_ends (hword : Wordlike word) (hletters : Wordlike letters)
    (hrun : run ≠ []) :
    ∃ hne : replaceRun word letters run ≠ [],
      isWord true ((replaceRun word letters run).getLast hne) = isWord true (run.getLast hrun) ∧
      isWord true ((replaceRun word letters run).head hne) = isWord true (run.head hrun) := by
  by_cases hsame : run = word
  · subst hsame
    simp only [replaceRun, if_true]
    refine ⟨hletters.ne_nil, ?_, ?_⟩
    · rw [hletters.all _ (List.getLast_mem _), hword.all _ (List.getLast_mem _)]
    · rw [hletters.all _ (List.head_mem _), hword.all _ (List.head_mem _)]
  · simp [replaceRun, hsame, hrun]

/-- Words put in the places of words are runs again. -/
theorem runs_flatMap_replaceRun (hword : Wordlike word) (hletters : Wordlike letters)
    (cs : List Char) :
    runs ((runs cs).flatMap (replaceRun word letters)) =
      (runs cs).map (replaceRun word letters) := by
  obtain ⟨-, hnil, hkind, hchain⟩ := List.splitBy_eq_iff.mp (rfl : runs cs = runs cs)
  rw [List.flatMap_def]
  refine List.splitBy_flatten ?_ ?_ (List.isChain_map _ |>.mpr (hchain.imp ?_))
  · rw [List.mem_map]
    rintro ⟨run, hrun, hempty⟩
    obtain ⟨hne, -⟩ := replaceRun_ends hword hletters (ne_of_mem_of_not_mem hrun hnil)
    exact hne hempty
  · rw [List.forall_mem_map]
    intro run hrun
    rw [replaceRun]
    split_ifs
    · exact hletters.isChain
    · exact hkind run hrun
  · rintro first second ⟨hfirst, hsecond, hdiffer⟩
    obtain ⟨hfirst', hlast, -⟩ := replaceRun_ends hword hletters hfirst
    obtain ⟨hsecond', -, hhead⟩ := replaceRun_ends hword hletters hsecond
    exact ⟨hfirst', hsecond', by rw [hlast, hhead, hdiffer]⟩

/-- Replacing a word by another one leaves no match. -/
theorem not_matches_replaceAll (hexpr : pattern.expr = wholeWord word) (hword : Wordlike word)
    (hletters : Wordlike letters) (hne : letters ≠ word) (input : String) :
    ¬(wholeWord word).Matches (pattern.replaceAll (letters.map .char) input).toList.toArray i j := by
  intro hmatches
  obtain ⟨pre, post, htext, -, -, hbefore, hafter⟩ := (matches_wholeWord_iff hword).mp hmatches
  have hruns := runs_word hword hbefore hafter
  rw [← htext, replaceAll_wholeWord hexpr hword, String.toList_ofList, List.toList_toArray,
    runs_flatMap_replaceRun hword hletters] at hruns
  have hmem : word ∈ (runs input.toList).map (replaceRun word letters) := by
    rw [hruns]
    simp
  obtain ⟨run, -, hrun⟩ := List.mem_map.mp hmem
  rw [replaceRun] at hrun
  split_ifs at hrun with hsame
  · exact hne hrun
  · exact hsame hrun

end Emend.Pattern
