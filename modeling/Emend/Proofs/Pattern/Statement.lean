import Emend.Proofs.Pattern.BuiltIn

/-!
# Import statements

The first built-in rule rewrites statements of one form.  Such a statement is read by its
words, with white space between them, and no other statement begins inside it or inside
the symbol, so that replacing all of them goes through the text from one to the next.
-/

namespace Emend.RuleTable

open Pattern Unicode

variable {text : Text} {s word cs tail rest after : List Char} {set : CharSet} {c : Char}
  {least i j n : Nat}

/-! ## Words that begin nowhere in a text -/

/-- No place in a text is one where a word begins, whatever comes behind the text. -/
def Clear (word cs : List Char) : Prop :=
  ∀ tail ∈ cs.tails, tail ≠ [] → ¬word <+: tail ∧ ¬tail <+: word

instance (word cs : List Char) : Decidable (Clear word cs) :=
  inferInstanceAs (Decidable (∀ tail ∈ cs.tails, tail ≠ [] → ¬word <+: tail ∧ ¬tail <+: word))

namespace Clear

theorem not_prefix (hclear : Clear word cs) (htail : tail <:+ cs) (hne : tail ≠ []) :
    ¬word <+: tail ++ rest := by
  intro hbegins
  obtain ⟨hlong, hshort⟩ := hclear tail ((List.mem_tails _ _).mpr htail) hne
  exact (List.prefix_or_prefix_of_prefix hbegins (List.prefix_append tail rest)).elim hlong hshort

theorem of_cons (hclear : Clear word (c :: cs)) : Clear word cs := fun tail htail =>
  hclear tail ((List.mem_tails _ _).mpr (((List.mem_tails _ _).mp htail).trans (List.suffix_cons c cs)))

theorem of_not_mem (hout : c ∉ cs) : Clear (c :: word) cs := by
  intro tail htail hne
  obtain ⟨d, others, rfl⟩ := List.exists_cons_of_ne_nil hne
  have hmem : d ∈ cs := ((List.mem_tails _ _).mp htail).subset List.mem_cons_self
  have hdiffer : c ≠ d := fun hsame => hout (hsame ▸ hmem)
  simp [List.cons_prefix_cons, hdiffer, hdiffer.symm]

theorem append (hfirst : Clear word cs) (hsecond : Clear word rest) : Clear word (cs ++ rest) := by
  intro tail htail hne
  obtain ⟨front, hfront⟩ := (List.mem_tails _ _).mp htail
  rcases List.append_eq_append_iff.mp hfront with ⟨left, hcs, rfl⟩ | ⟨left, -, hrest⟩
  · by_cases hnil : left = []
    · subst hnil
      exact hsecond _ ((List.mem_tails _ _).mpr List.suffix_rfl) hne
    · have hleft : left <:+ cs := ⟨front, hcs.symm⟩
      refine ⟨hfirst.not_prefix hleft hnil, fun hshort => ?_⟩
      exact (hfirst left ((List.mem_tails _ _).mpr hleft) hnil).2
        ((List.prefix_append left rest).trans hshort)
  · exact hsecond tail ((List.mem_tails _ _).mpr ⟨left, hrest.symm⟩) hne

end Clear

/-! ## The form of a statement -/

def qualified : List Char := "flixel.animation.FlxFrameation".toList

theorem qualified_eq : qualified = "flixel.animation.".toList ++ symbol := rfl

/-- A statement that imports the symbol, with white space between its words and perhaps
some before its end. -/
def IsStatement (s : List Char) : Prop :=
  ∃ blanks spaces : List Char, blanks ≠ [] ∧ (∀ c ∈ blanks, whiteSpace.contains c = true) ∧
    (∀ c ∈ spaces, whiteSpace.contains c = true) ∧
      s = "import".toList ++ (blanks ++ (qualified ++ (spaces ++ [';'])))

/-- What a text begins with in two parts. -/
theorem append_prefix_drop :
    s ++ rest <+: cs.drop i ↔ s <+: cs.drop i ∧ rest <+: cs.drop (i + s.length) := by
  constructor
  · rintro ⟨post, hpost⟩
    rw [List.append_assoc] at hpost
    exact ⟨⟨_, hpost⟩, post, by rw [← List.drop_drop, ← hpost, List.drop_left]⟩
  · rintro ⟨⟨middle, hmiddle⟩, post, hpost⟩
    refine ⟨post, ?_⟩
    rw [← List.drop_drop, ← hmiddle, List.drop_left] at hpost
    rw [List.append_assoc, hpost, hmiddle]

theorem turns_set :
    Turns ((Expr.set set).Matches text) n i j ↔
      ∃ run : List Char, run.length = n ∧ (∀ c ∈ run, set.contains c = true) ∧
        run <+: text.toList.drop i ∧ j = i + run.length := by
  induction n generalizing i with
  | zero =>
    constructor
    · rintro rfl
      exact ⟨[], rfl, by simp, List.nil_prefix, rfl⟩
    · rintro ⟨run, hlength, -, -, rfl⟩
      rw [hlength]
      rfl
  | succ n ih =>
    constructor
    · rintro ⟨_, ⟨hmem, rfl⟩, hturns⟩
      obtain ⟨c, hchar, hcontains⟩ := (Option.any_eq_true _ _).mp hmem
      obtain ⟨run, hlength, hall, hbegins, rfl⟩ := ih.mp hturns
      refine ⟨c :: run, by simp [hlength], by simpa [hcontains] using hall, ?_, ?_⟩
      · rw [drop_eq_cons.mpr ⟨hchar, rfl⟩]
        exact List.cons_prefix_cons.mpr ⟨rfl, hbegins⟩
      · rw [List.length_cons]
        omega
    · rintro ⟨_ | ⟨c, run⟩, hlength, hall, ⟨post, hpost⟩, rfl⟩
      · cases hlength
      · obtain ⟨hchar, hrest⟩ := drop_eq_cons.mp hpost.symm
        refine ⟨i + 1, ⟨by simp [hchar, hall c], rfl⟩, ih.mpr ⟨run, by simpa using hlength,
          fun d hd => hall d (List.mem_cons_of_mem _ hd), ⟨post, hrest⟩, ?_⟩⟩
        rw [List.length_cons]
        omega

/-- A row of characters of a set, as long as possible or not. -/
theorem matches_blanks :
    (Expr.repetition true least none (.set set)).Matches text i j ↔
      ∃ run : List Char, least ≤ run.length ∧ (∀ c ∈ run, set.contains c = true) ∧
        run <+: text.toList.drop i ∧ j = i + run.length := by
  constructor
  · rintro ⟨n, hleast, -, hturns⟩
    obtain ⟨run, rfl, hrun⟩ := turns_set.mp hturns
    exact ⟨run, hleast, hrun⟩
  · rintro ⟨run, hleast, hrun⟩
    exact ⟨run.length, hleast, by simp, turns_set.mpr ⟨run, rfl, hrun⟩⟩

/-- The first pattern matches statements. -/
theorem matches_importStatement :
    importStatement.Matches text i j ↔
      ∃ s, IsStatement s ∧ s <+: text.toList.drop i ∧ j = i + s.length := by
  rw [importStatement, Expr.matches_ofParts_append]
  constructor
  · rintro ⟨a, hfirst, hrest⟩
    obtain ⟨b, hgap, hrest⟩ := Expr.matches_ofParts_cons.mp hrest
    obtain ⟨c, hfront, hrest⟩ := Expr.matches_ofParts_append.mp hrest
    obtain ⟨d, hlast, hrest⟩ := Expr.matches_ofParts_append.mp hrest
    obtain ⟨e, hrow, hrest⟩ := Expr.matches_ofParts_cons.mp hrest
    obtain ⟨himport, rfl⟩ := Expr.matches_chars.mp hfirst
    obtain ⟨blanks, hlong, hblank, hblanks, rfl⟩ := matches_blanks.mp hgap
    obtain ⟨hdotted, rfl⟩ := Expr.matches_chars.mp hfront
    obtain ⟨hsymbol, rfl⟩ := Expr.matches_chars.mp hlast
    obtain ⟨spaces, -, hspace, hspaces, rfl⟩ := matches_blanks.mp hrow
    obtain ⟨hchar, rfl⟩ := Expr.matches_char.mp hrest
    have hend : [';'] <+: text.toList.drop _ := ⟨_, (drop_eq_cons.mpr ⟨hchar, rfl⟩).symm⟩
    refine ⟨_, ⟨blanks, spaces, List.length_pos_iff.mp hlong, hblank, hspace, rfl⟩, ?_, ?_⟩
    · simp only [qualified_eq, List.append_assoc, append_prefix_drop]
      exact ⟨himport, hblanks, hdotted, hsymbol, hspaces, hend⟩
    · simp only [qualified_eq, List.length_append, List.length_singleton]
      omega
  · rintro ⟨_, ⟨blanks, spaces, hne, hblank, hspace, rfl⟩, hbegins, rfl⟩
    simp only [qualified_eq, List.append_assoc, append_prefix_drop] at hbegins
    obtain ⟨himport, hblanks, hdotted, hsymbol, hspaces, post, hend⟩ := hbegins
    refine ⟨_, Expr.matches_chars.mpr ⟨himport, rfl⟩, Expr.matches_ofParts_cons.mpr
      ⟨_, matches_blanks.mpr ⟨blanks, List.length_pos_iff.mpr hne, hblank, hblanks, rfl⟩,
        Expr.matches_ofParts_append.mpr ⟨_, Expr.matches_chars.mpr ⟨hdotted, rfl⟩,
          Expr.matches_ofParts_append.mpr ⟨_, Expr.matches_chars.mpr ⟨hsymbol, rfl⟩,
            Expr.matches_ofParts_cons.mpr ⟨_, matches_blanks.mpr
              ⟨spaces, Nat.zero_le _, hspace, hspaces, rfl⟩,
                Expr.matches_char.mpr ⟨(drop_eq_cons.mp hend.symm).1, ?_⟩⟩⟩⟩⟩⟩
    simp only [qualified_eq, List.length_append, List.length_singleton]
    omega

/-! ## Reading a statement -/

def afterWord? (word cs : List Char) : Option (List Char) :=
  if word <+: cs then some (cs.drop word.length) else none

def afterBlanks? (cs : List Char) : Option (List Char) :=
  if cs.head?.any whiteSpace.contains then some (cs.dropWhile whiteSpace.contains) else none

def afterStatement? (cs : List Char) : Option (List Char) := do
  let gap ← afterWord? "import".toList cs
  let name ← afterBlanks? gap
  let gap ← afterWord? qualified name
  afterWord? [';'] (gap.dropWhile whiteSpace.contains)

theorem afterWord?_eq_some : afterWord? word cs = some rest ↔ cs = word ++ rest := by
  rw [afterWord?]
  constructor
  · intro hread
    split_ifs at hread with hbegins
    obtain ⟨post, rfl⟩ := hbegins
    rw [List.drop_left, Option.some.injEq] at hread
    rw [hread]
  · rintro rfl
    rw [if_pos (List.prefix_append word rest), List.drop_left]

theorem afterBlanks?_eq_some :
    afterBlanks? cs = some rest ↔
      ∃ blanks : List Char, blanks ≠ [] ∧ (∀ c ∈ blanks, whiteSpace.contains c = true) ∧
        cs = blanks ++ rest ∧ rest.dropWhile whiteSpace.contains = rest := by
  rw [afterBlanks?]
  constructor
  · intro hread
    split_ifs at hread with hspace
    cases hread
    obtain ⟨c, hhead, hcontains⟩ := (Option.any_eq_true _ _).mp hspace
    obtain ⟨others, rfl⟩ := List.head?_eq_some_iff.mp hhead
    exact ⟨(c :: others).takeWhile whiteSpace.contains, by simp [hcontains],
      fun _ => List.mem_takeWhile_imp, (List.takeWhile_append_dropWhile ..).symm,
      List.dropWhile_idempotent _ _⟩
  · rintro ⟨blanks, hne, hblank, rfl, hstays⟩
    rw [List.dropWhile_append_of_pos hblank, hstays, if_pos]
    obtain ⟨c, others, rfl⟩ := List.exists_cons_of_ne_nil hne
    exact hblank c List.mem_cons_self

/-- Exactly the statements are read. -/
theorem afterStatement?_eq_some :
    afterStatement? cs = some rest ↔ ∃ s, IsStatement s ∧ cs = s ++ rest := by
  simp only [afterStatement?, Option.bind_eq_bind, Option.bind_eq_some_iff, afterWord?_eq_some,
    afterBlanks?_eq_some]
  constructor
  · rintro ⟨_, rfl, _, ⟨blanks, hne, hblank, rfl, -⟩, tail, rfl, hend⟩
    refine ⟨_, ⟨blanks, tail.takeWhile whiteSpace.contains, hne, hblank,
      fun _ => List.mem_takeWhile_imp, rfl⟩, ?_⟩
    simp only [List.append_assoc]
    rw [← hend, List.takeWhile_append_dropWhile]
  · rintro ⟨_, ⟨blanks, spaces, hne, hblank, hspace, rfl⟩, rfl⟩
    refine ⟨_, List.append_assoc .., _, ⟨blanks, hne, hblank, List.append_assoc .., ?_⟩,
      _, List.append_assoc .., ?_⟩
    · rfl
    · rw [List.append_assoc, List.dropWhile_append_of_pos hspace]
      rfl

theorem afterStatement?_eq_none (hnone : ∀ s, IsStatement s → ¬s <+: cs) :
    afterStatement? cs = none := by
  refine Option.eq_none_iff_forall_ne_some.mpr fun rest hread => ?_
  obtain ⟨s, hstatement, rfl⟩ := afterStatement?_eq_some.mp hread
  exact hnone s hstatement (List.prefix_append s rest)

theorem length_lt_of_afterStatement? (hread : afterStatement? cs = some rest) :
    rest.length < cs.length := by
  obtain ⟨s, ⟨_, _, _, _, _, rfl⟩, rfl⟩ := afterStatement?_eq_some.mp hread
  simp only [List.length_append, List.length_singleton]
  omega

/-! ## Where no statement begins -/

theorem clear_blanks (hblank : ∀ c ∈ cs, whiteSpace.contains c = true) :
    Clear "import".toList cs :=
  .of_not_mem fun hmem => absurd (hblank _ hmem) (by decide)

/-- Inside a statement no other one begins. -/
theorem clear_statement (hstatement : IsStatement s) : Clear "import".toList s.tail := by
  obtain ⟨blanks, spaces, -, hblank, hspace, rfl⟩ := hstatement
  have hword : Clear "import".toList "mport".toList := by decide
  have hqualified : Clear "import".toList qualified := by decide
  have hend : Clear "import".toList [';'] := by decide
  exact hword.append ((clear_blanks hblank).append
    (hqualified.append ((clear_blanks hspace).append hend)))

theorem import_begins (hstatement : IsStatement s) : "import".toList <+: s := by
  obtain ⟨blanks, spaces, -, -, -, rfl⟩ := hstatement
  exact List.prefix_append _ _

theorem afterStatement?_of_clear (hclear : Clear "import".toList cs) (htail : tail <:+ cs)
    (hne : tail ≠ []) : afterStatement? (tail ++ rest) = none :=
  afterStatement?_eq_none fun _ hstatement hbegins =>
    hclear.not_prefix htail hne ((import_begins hstatement).trans hbegins)

/-! ## Replacing statements -/

def newStatement : List Char := "import flixel.graphics.frames.FlxFrame;".toList

def replaceStatements : List Char → List Char
  | [] => []
  | c :: rest =>
    match _hread : afterStatement? (c :: rest) with
    | some after => newStatement ++ replaceStatements after
    | none => c :: replaceStatements rest
termination_by cs => cs.length
decreasing_by
  · exact length_lt_of_afterStatement? _hread
  · exact Nat.lt_succ_self _

theorem replaceStatements_of_some (hread : afterStatement? cs = some after) :
    replaceStatements cs = newStatement ++ replaceStatements after := by
  cases cs with
  | nil => exact absurd (length_lt_of_afterStatement? hread) (Nat.not_lt_zero _)
  | cons c rest =>
    rw [replaceStatements]
    split
    · next hother =>
      rw [hread, Option.some.injEq] at hother
      rw [hother]
    · next hother =>
      rw [hread] at hother
      cases hother

theorem replaceStatements_of_none (hread : afterStatement? (c :: rest) = none) :
    replaceStatements (c :: rest) = c :: replaceStatements rest := by
  rw [replaceStatements]
  split
  · next hother =>
    rw [hread] at hother
    cases hother
  · rfl

/-- Where no statement begins, a text is kept. -/
theorem replaceStatements_append (hclear : Clear "import".toList cs) :
    replaceStatements (cs ++ rest) = cs ++ replaceStatements rest := by
  induction cs with
  | nil => rfl
  | cons c cs ih =>
    have hread : afterStatement? (c :: cs ++ rest) = none :=
      afterStatement?_of_clear hclear List.suffix_rfl (by simp)
    rw [List.cons_append] at hread ⊢
    rw [replaceStatements_of_none hread, ih hclear.of_cons, List.cons_append]

/-- A word in which no statement begins is no part of a new one. -/
theorem exists_of_prefix_replaceStatements (hclear : Clear "import".toList word)
    (hbegins : word <+: replaceStatements cs) : ∃ rest, cs = word ++ rest := by
  induction word generalizing cs with
  | nil => exact ⟨cs, rfl⟩
  | cons c word ih =>
    cases hread : afterStatement? cs with
    | some after =>
      rw [replaceStatements_of_some hread] at hbegins
      obtain ⟨hlong, hshort⟩ := hclear (c :: word) (by simp) (by simp)
      have himport : "import".toList <+: newStatement ++ replaceStatements after :=
        (by decide : "import".toList <+: newStatement).trans (List.prefix_append _ _)
      exact ((List.prefix_or_prefix_of_prefix himport hbegins).elim hlong hshort).elim
    | none =>
      cases cs with
      | nil => simp [replaceStatements] at hbegins
      | cons d cs =>
        rw [replaceStatements_of_none hread, List.cons_prefix_cons] at hbegins
        obtain ⟨rest, hrest⟩ := ih hclear.of_cons hbegins.2
        exact ⟨rest, by rw [hrest, hbegins.1, List.cons_append]⟩

/-- Replacing statements changes nothing about where a word goes on. -/
theorem startsInWord_replaceStatements (cs : List Char) :
    startsInWord (replaceStatements cs) = startsInWord cs := by
  cases hread : afterStatement? cs with
  | some after =>
    obtain ⟨s, ⟨blanks, spaces, -, -, -, rfl⟩, rfl⟩ := afterStatement?_eq_some.mp hread
    rw [replaceStatements_of_some hread]
    rfl
  | none =>
    cases cs with
    | nil => simp [replaceStatements]
    | cons c cs =>
      rw [replaceStatements_of_none hread]
      rfl

theorem replaces_apply (r : CompiledRule) {input : String}
    (htakes : ∀ i j, r.pattern.expr.Matches input.toList.toArray i j → i < j) :
    Replaces r.pattern.expr (r.template.expand r.pattern.names input.toList.toArray)
      input.toList.toArray 0 (r.apply input).toList :=
  replaces_replaceAll htakes r.template

/-- The first rule replaces statements. -/
theorem apply_importRule (input : String) :
    (importRule.apply input).toList = replaceStatements input.toList := by
  have htakes : ∀ i j, importStatement.Matches input.toList.toArray i j → i < j := by
    intro i j hmatches
    obtain ⟨s, ⟨_, _, _, _, _, rfl⟩, -, rfl⟩ := matches_importStatement.mp hmatches
    simp only [List.length_append, List.length_singleton]
    omega
  have hreplaces := replaces_apply importRule htakes
  refine hreplaces.eq_of_step (f := fun i => replaceStatements (input.toList.drop i))
    (expand_letters newStatement importRule.pattern.names _) ?_ ?_ ?_
  · intro i j hmatches
    obtain ⟨s, hstatement, ⟨post, hpost⟩, rfl⟩ := matches_importStatement.mp hmatches
    have hafter : input.toList.drop (i + s.length) = post := by
      rw [← List.drop_drop, ← hpost, List.drop_left]
    simp only [hafter]
    exact replaceStatements_of_some (afterStatement?_eq_some.mpr ⟨s, hstatement, hpost.symm⟩)
  · intro i c hchar hnone
    have hdrop := drop_eq_cons.mpr ⟨hchar, rfl⟩
    simp only [hdrop]
    refine replaceStatements_of_none (afterStatement?_eq_none fun s hstatement hbegins => ?_)
    exact hnone _ (matches_importStatement.mpr ⟨s, hstatement, hdrop ▸ hbegins, rfl⟩)
  · intro i hend
    simp only [List.drop_eq_nil_of_le (show input.toList.length ≤ i by simpa using hend),
      replaceStatements]

end Emend.RuleTable
