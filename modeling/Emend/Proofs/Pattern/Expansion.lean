import Emend.Rule
import Emend.Proofs.Pattern.Replacing
import Emend.Proofs.Pattern.Template

/-!
# Expanding replacements

A rule whose replacement is written for some tokens splits a text at the matches of its
pattern and puts in the place of each match what the tokens spell: letters, and what the
groups that are referred to have captured in the match.
-/

namespace Emend

open Pattern

namespace Pattern

variable {e : Expr} {text : Text} {p q r : Point} {m : Match}
  {indices others : List Nat} {index n : Nat}

/-! ## What groups capture -/

def Expr.groups : Expr → List Nat
  | empty | set _ | look _ => []
  | capture index body => index :: body.groups
  | repetition _ _ _ body => body.groups
  | cat left right | alt left right => left.groups ++ right.groups

/-- From one point to another, only bounds of the given groups are marked, at places that
lie between the two. -/
structure Marks.Kept (indices : List Nat) (p q : Point) : Prop where
  le : p.place ≤ q.place
  marked : ∀ mark ∈ q.marks, mark ∈ p.marks ∨
    p.place ≤ mark.2 ∧ mark.2 ≤ q.place ∧
      ∃ index ∈ indices, mark.1 = 2 * index ∨ mark.1 = 2 * index + 1

namespace Marks.Kept

theorem refl (indices : List Nat) (p : Point) : Kept indices p p :=
  ⟨Nat.le_refl _, fun _ hmark => .inl hmark⟩

theorem trans (hfirst : Kept indices p q) (hsecond : Kept indices q r) : Kept indices p r := by
  refine ⟨Nat.le_trans hfirst.le hsecond.le, fun mark hmark => ?_⟩
  rcases hsecond.marked mark hmark with hold | ⟨hfrom, hto, hindex⟩
  · rcases hfirst.marked mark hold with hold | ⟨hfrom, hto, hindex⟩
    · exact .inl hold
    · exact .inr ⟨hfrom, Nat.le_trans hto hsecond.le, hindex⟩
  · exact .inr ⟨Nat.le_trans hfirst.le hfrom, hto, hindex⟩

theorem mono (hkept : Kept indices p q) (hsub : ∀ index ∈ indices, index ∈ others) :
    Kept others p q := by
  refine ⟨hkept.le, fun mark hmark => (hkept.marked mark hmark).imp_right ?_⟩
  rintro ⟨hfrom, hto, index, hindex, hslot⟩
  exact ⟨hfrom, hto, index, hsub index hindex, hslot⟩

/-- A bound of a group is marked. -/
theorem mark (hindex : index ∈ indices) {slot : Nat}
    (hslot : slot = 2 * index ∨ slot = 2 * index + 1) (p : Point) : Kept indices p (p.mark slot) := by
  refine ⟨Nat.le_refl _, fun mark hmark => ?_⟩
  rcases List.mem_cons.mp hmark with rfl | hold
  · exact .inr ⟨Nat.le_refl _, Nat.le_refl _, index, hindex, hslot⟩
  · exact .inl hold

theorem turns {step : Point → Point → Prop} (hstep : ∀ p q, step p q → Kept indices p q)
    (hturns : Turns step n p q) : Kept indices p q := by
  induction n generalizing p with
  | zero =>
    cases hturns
    exact .refl indices _
  | succ n ih =>
    obtain ⟨middle, hfirst, hrest⟩ := hturns
    exact (hstep p middle hfirst).trans (ih hrest)

end Marks.Kept

/-- A match marks only bounds of its own groups, at places between its ends. -/
theorem Expr.Takes.kept (htakes : e.Takes text p q) : Marks.Kept e.groups p q := by
  induction e generalizing p q with
  | empty =>
    cases htakes
    exact .refl _ p
  | set s =>
    obtain ⟨-, rfl⟩ := htakes
    exact ⟨Nat.le_succ _, fun _ hmark => .inl hmark⟩
  | look l =>
    obtain ⟨-, rfl⟩ := htakes
    exact .refl _ _
  | capture index body ih =>
    obtain ⟨inner, hbody, rfl⟩ := htakes
    have hwithin := (ih hbody).mono fun _ => List.mem_cons_of_mem index
    exact ((Marks.Kept.mark List.mem_cons_self (.inl rfl) p).trans hwithin).trans
      (.mark List.mem_cons_self (.inr rfl) inner)
  | repetition greedy least most body ih =>
    obtain ⟨n, -, -, hturns⟩ := htakes
    exact .turns (fun _ _ => ih) hturns
  | cat left right ihleft ihright =>
    obtain ⟨middle, hleft, hright⟩ := htakes
    exact ((ihleft hleft).mono fun _ => List.mem_append_left _).trans
      ((ihright hright).mono fun _ => List.mem_append_right _)
  | alt left right ihleft ihright =>
    rcases htakes with hleft | hright
    · exact (ihleft hleft).mono fun _ => List.mem_append_left _
    · exact (ihright hright).mono fun _ => List.mem_append_right _

theorem Match.mem_of_slot? {slot place : Nat} (hslot : m.slot? slot = some place) :
    (slot, place) ∈ m.marks := by
  obtain ⟨mark, hfind, rfl⟩ := Option.map_eq_some_iff.mp hslot
  obtain rfl : mark.1 = slot := by simpa using List.find?_some hfind
  exact List.mem_of_find?_eq_some hfind

/-- The bounds of a group are marked inside the match, by a group of the expression. -/
theorem Expr.Preferred.marked (hpreferred : e.Preferred text m) {slot place : Nat}
    (hslot : m.slot? slot = some place) :
    m.start ≤ place ∧ place ≤ m.stop ∧
      ∃ index ∈ e.groups, slot = 2 * index ∨ slot = 2 * index + 1 := by
  rcases hpreferred.takes.kept.marked _ (Match.mem_of_slot? hslot) with hold | hmarked
  · cases hold
  · exact hmarked

theorem extract_infix {start stop left right : Nat} (hleft : start ≤ left) (hright : right ≤ stop) :
    (text.extract left right).toList <:+: (text.extract start stop).toList := by
  rcases Nat.le_total right left with hempty | hle
  · rw [Array.extract_empty_of_stop_le_start hempty]
    exact List.nil_infix
  · have hsplit : text.extract start left ++ text.extract left right ++ text.extract right stop =
        text.extract start stop := by
      rw [Array.extract_append_extract, Nat.min_eq_left hleft, Nat.max_eq_right hle,
        Array.extract_append_extract, Nat.min_eq_left (Nat.le_trans hleft hle),
        Nat.max_eq_right hright]
    rw [← hsplit, Array.toList_append, Array.toList_append]
    exact ⟨_, _, rfl⟩

/-- What a group has captured is part of the match. -/
theorem Expr.Preferred.group_infix (hpreferred : e.Preferred text m) (index : Nat) :
    m.group text index <:+: (text.extract m.start m.stop).toList := by
  rw [Match.group]
  split_ifs with hzero
  · exact List.infix_rfl
  · split
    · next left right hleft hright =>
      exact extract_infix (hpreferred.marked hleft).1 (hpreferred.marked hright).2.1
    · exact List.nil_infix

/-- A group that the expression does not have has captured nothing. -/
theorem Expr.Preferred.group_of_not_mem (hpreferred : e.Preferred text m) (hzero : index ≠ 0)
    (hout : index ∉ e.groups) : m.group text index = [] := by
  rw [Match.group, if_neg hzero]
  split
  · next left right hleft _ =>
    obtain ⟨-, -, other, hother, hslot⟩ := hpreferred.marked hleft
    obtain rfl : index = other := by omega
    exact absurd hother hout
  · rfl

/-! ## Tokens -/

/-- What a token spells for a match.  A group that took no part spells nothing, and so does
one that the pattern does not have. -/
def Token.expansion (names : List (String × Nat)) (text : Text) (m : Match) : Token → List Char
  | .text letters => letters
  | .numbered index => m.group text index
  | .named name =>
    match names.find? (·.1 = String.ofList name.letters) with
    | some (_, index) => m.group text index
    | none => []

/-- A replacement is expanded token by token. -/
theorem expand_pieces (tokens : List Token) (names : List (String × Nat)) (text : Text)
    (m : Match) :
    Template.expand (tokens.flatMap Token.pieces) names text m =
      tokens.flatMap (Token.expansion names text m) := by
  rw [Template.expand, List.flatMap_assoc]
  refine List.flatMap_congr fun token _ => ?_
  cases token with
  | text letters => exact expand_letters letters names text m
  | numbered index => exact List.append_nil _
  | named name => exact List.append_nil _

end Pattern

namespace CompiledRule

variable {pattern : String} {compiled : Pattern}

/-- A pattern that compiles makes a rule with any replacement. -/
theorem ofRule_of_ofText (hpattern : Pattern.ofText pattern = .ok compiled)
    (replacement : String) :
    ofRule ⟨pattern, replacement⟩ =
      .ok ⟨⟨pattern, replacement⟩, compiled, Template.ofText replacement⟩ := by
  simp only [ofRule, hpattern]
  rfl

/-- The matches of a pattern in an input, with the stretches between them. -/
def SplitsInput (compiled : Pattern) (input : String) (parts : List (List Char × Match))
    (tail : List Char) : Prop :=
  Splits compiled.expr input.toList.toArray 0 none parts tail ∧
    input.toList = joined (fun m => (input.toList.toArray.extract m.start m.stop).toList) parts tail

/-- Every input splits at its matches, and replacing them puts an expansion in the place of each. -/
theorem exists_splitsInput (compiled : Pattern) (template : Template) (input : String) :
    ∃ parts tail, SplitsInput compiled input parts tail ∧
      (compiled.replaceAll template input).toList =
        joined (template.expand compiled.names input.toList.toArray) parts tail := by
  obtain ⟨parts, tail, hsplits, heq⟩ := exists_splits_replaceAll compiled template input
  exact ⟨parts, tail, ⟨hsplits, hsplits.joined_eq.symm⟩, heq⟩

/-- A written replacement is read as the pieces that were meant. -/
theorem ofText_tokens (tokens : List Token) :
    Template.ofText (String.ofList (tokens.flatMap Token.written)) =
      tokens.flatMap Token.pieces := by
  rw [Template.ofText, String.toList_ofList, Template.ofChars_tokens]

/-- A reference to the whole match gives every text back. -/
theorem apply_whole (compiled : Pattern) (rule : Rule) (input : String) :
    apply ⟨rule, compiled, [.numbered 0]⟩ input = input := by
  obtain ⟨parts, tail, ⟨-, hinput⟩, heq⟩ := exists_splitsInput compiled [.numbered 0] input
  rw [← String.toList_inj]
  refine heq.trans (Eq.trans ?_ hinput.symm)
  congr 1
  funext m
  exact List.append_nil _

/-- A pattern that compiles makes a rule with the replacement that is written for any
tokens.  The rule splits every input at the successive matches of the pattern, keeps the
stretches between them and puts in the place of each match what the tokens spell, where a
group spells what it has captured in the match: a part of the match, and nothing if the
pattern does not have the group.  A reference to the whole match gives every input back. -/
theorem apply_expands (hpattern : Pattern.ofText pattern = .ok compiled) :
    (∀ tokens : List Token, ∃ rule,
      ofRule ⟨pattern, String.ofList (tokens.flatMap Token.written)⟩ = .ok rule ∧
        ∀ input : String, ∃ parts tail, SplitsInput compiled input parts tail ∧
          (rule.apply input).toList =
            joined (fun m => tokens.flatMap
              (Token.expansion compiled.names input.toList.toArray m)) parts tail ∧
          ∀ part ∈ parts, ∀ index,
            part.2.group input.toList.toArray index <:+:
              (input.toList.toArray.extract part.2.start part.2.stop).toList ∧
            (index ≠ 0 → index ∉ compiled.expr.groups →
              part.2.group input.toList.toArray index = [])) ∧
    ∃ rule, ofRule ⟨pattern, "$\x7b0\x7d"⟩ = .ok rule ∧ ∀ input, rule.apply input = input := by
  refine ⟨fun tokens => ⟨_, ofRule_of_ofText hpattern _, fun input => ?_⟩, _,
    ofRule_of_ofText hpattern _, fun input => ?_⟩
  · rw [ofText_tokens]
    obtain ⟨parts, tail, hsplits, heq⟩ :=
      exists_splitsInput compiled (tokens.flatMap Token.pieces) input
    refine ⟨parts, tail, hsplits, heq.trans ?_, fun part hpart index => ?_⟩
    · congr 1
      funext m
      exact expand_pieces tokens compiled.names _ m
    · have hpreferred := hsplits.1.preferred hpart
      exact ⟨hpreferred.group_infix index, hpreferred.group_of_not_mem⟩
  · have hwhole : Template.ofText "$\x7b0\x7d" = [.numbered 0] := by cbv
    rw [hwhole]
    exact apply_whole compiled _ input

def letterPattern : Pattern := ⟨.capture 1 (.char 'a'), _, [("x", 1)], rfl⟩

def letterTokens : List Token :=
  [.text ['$'], .numbered 1, .named ⟨'x', [], by decide, by decide⟩, .numbered 7]

theorem ofText_letter : Pattern.ofText "(?<x>a)" = .ok letterPattern := by cbv

theorem allMatches_letter :
    allMatches letterPattern.program "ca".toList.toArray = [⟨1, 2, [(3, 2), (2, 1)]⟩] := by
  have hprogram : letterPattern.program =
      #[.mark 2, .take (.singleton 'a'), .mark 3, .accept] := rfl
  have htext : "ca".toList.toArray = #['c', 'a'] := by rfl
  have hother : (CharSet.singleton 'a').contains 'c' = false := by decide
  have hletter : (CharSet.singleton 'a').contains 'a' = true := by decide
  rw [hprogram, htext]
  simp [allMatches, matchesFrom, search, searchFrom, follow, wayCount, Way.key, Way.outcome,
    Std.HashSet.size_insert, hother, hletter]

/-- A dollar sign, the letter by its number and by its name, and a group that is not there. -/
theorem apply_expands_letter :
    Pattern.ofText "(?<x>a)" = .ok letterPattern ∧
      (∃ rule, ofRule ⟨"(?<x>a)", "$$$\x7b1\x7d$\x7bx\x7d$\x7b7\x7d"⟩ = .ok rule ∧
        rule.apply "ca" = "c$aa") ∧
      ∃ rule, ofRule ⟨"(?<x>a)", "$\x7b0\x7d"⟩ = .ok rule ∧ rule.apply "ca" = "ca" := by
  obtain ⟨hexpands, rule, hrule, hwhole⟩ := apply_expands ofText_letter
  refine ⟨ofText_letter, ?_, rule, hrule, hwhole "ca"⟩
  have hwritten : String.ofList (letterTokens.flatMap Token.written) =
      "$$$\x7b1\x7d$\x7bx\x7d$\x7b7\x7d" := by cbv
  obtain ⟨rule, hrule, -⟩ := hexpands letterTokens
  have hsame := hrule
  rw [ofRule_of_ofText ofText_letter, ofText_tokens, Except.ok.injEq] at hsame
  refine ⟨rule, hwritten ▸ hrule, ?_⟩
  rw [← hsame, apply, replaceAll, allMatches_letter]
  cbv

end CompiledRule

end Emend
