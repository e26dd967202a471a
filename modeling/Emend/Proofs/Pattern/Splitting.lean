import Emend.Pattern
import Emend.Proofs.Pattern.Parts
import Emend.Proofs.Pattern.Restart

/-!
# Splitting a text at its matches

A text is split at one match after another.  Each is the leftmost one from where the one
before ended, except that no empty match counts right there, and behind the last one there
is none.
-/

namespace Emend.Pattern

variable {e : Expr} {text : Text} {m found : Match} {put : Match → List Char}
  {parts : List (List Char × Match)} {tail : List Char} {place count i j : Nat} {last : Option Nat}

/-- A match of an expression that is preferred to all others that begin where it does. -/
structure Expr.Preferred (e : Expr) (text : Text) (m : Match) : Prop where
  start_le_size : m.start ≤ text.size
  takes : e.Takes text ⟨m.start, []⟩ ⟨m.stop, m.marks⟩
  found : search e.program text m.start = some m

/-- An empty match right at the end of the one before does not count. -/
def Match.PassedOver (m : Match) (last : Option Nat) : Prop :=
  m.start = m.stop ∧ last = some m.stop

/-- Of the matches that begin at a place, the preferred one does not count. -/
def Expr.Skipped (e : Expr) (text : Text) (last : Option Nat) (place : Nat) : Prop :=
  ∃ m, e.Preferred text m ∧ m.start = place ∧ m.PassedOver last

/-- The next match from a place on. -/
structure Expr.Next (e : Expr) (text : Text) (place : Nat) (last : Option Nat) (m : Match) :
    Prop where
  start_le : place ≤ m.start
  preferred : e.Preferred text m
  counts : ¬m.PassedOver last
  leftmost : ∀ i j, place ≤ i → i < m.start → e.Matches text i j → e.Skipped text last i

/-- A text is split from a place on into stretches, each with the match behind it, and what
is left behind the last match. -/
inductive Splits (e : Expr) (text : Text) :
    Nat → Option Nat → List (List Char × Match) → List Char → Prop
  | done {place : Nat} {last : Option Nat}
    (hnone : ∀ i j, place ≤ i → i ≤ text.size → e.Matches text i j → e.Skipped text last i) :
    Splits e text place last [] (text.toList.drop place)
  | next {place : Nat} {last : Option Nat} {m : Match} {parts : List (List Char × Match)}
    {tail : List Char} (hnext : e.Next text place last m)
    (hrest : Splits e text m.stop (some m.stop) parts tail) :
    Splits e text place last (((text.extract place m.start).toList, m) :: parts) tail

def joined (put : Match → List Char) (parts : List (List Char × Match)) (tail : List Char) :
    List Char :=
  parts.flatMap (fun part => part.1 ++ put part.2) ++ tail

@[simp]
theorem joined_nil (put : Match → List Char) (tail : List Char) : joined put [] tail = tail := rfl

@[simp]
theorem joined_cons (put : Match → List Char) (stretch : List Char) (m : Match)
    (parts : List (List Char × Match)) (tail : List Char) :
    joined put ((stretch, m) :: parts) tail = stretch ++ (put m ++ joined put parts tail) := by
  rw [joined, List.flatMap_cons, List.append_assoc, List.append_assoc]
  rfl

theorem Expr.preferred_of_search (hsome : search e.program text place = some m) :
    e.Preferred text m := by
  have hleftmost := search_some e.closed_program hsome
  obtain ⟨last, hreaches, haccepted, hstop, hmarks⟩ := hleftmost.reached
  refine ⟨hleftmost.start_le_size, ?_, search_restart e.closed_program hsome⟩
  have htakes := Expr.takes_of_reaches (p := ⟨m.start, []⟩) hreaches haccepted
  rwa [hstop, hmarks] at htakes

theorem Expr.Preferred.le (hpreferred : e.Preferred text m) : m.start ≤ m.stop :=
  e.le_of_matches hpreferred.takes.matches

theorem Expr.Preferred.stop_le (hpreferred : e.Preferred text m) : m.stop ≤ text.size :=
  e.le_size_of_matches hpreferred.takes.matches hpreferred.start_le_size

theorem extract_to_end (text : Text) (start : Nat) :
    (text.extract start text.size).toList = text.toList.drop start := by
  rw [Array.toList_extract, List.extract_eq_take_drop, List.take_of_length_le]
  simp

theorem extract_append_drop {stop : Nat} (hle : place ≤ stop) :
    (text.extract place stop).toList ++ text.toList.drop stop = text.toList.drop place := by
  rw [Array.toList_extract, List.extract_eq_take_drop]
  conv_rhs => rw [← List.take_append_drop (stop - place) (text.toList.drop place)]
  rw [List.drop_drop, Nat.add_sub_cancel' hle]

/-- With the matches themselves in their places, the text is whole again. -/
theorem Splits.joined_eq (hsplits : Splits e text place last parts tail) :
    joined (fun m => (text.extract m.start m.stop).toList) parts tail = text.toList.drop place := by
  induction hsplits with
  | done => rfl
  | next hnext _ ih =>
    rw [joined_cons, ih, extract_append_drop hnext.preferred.le,
      extract_append_drop hnext.start_le]

theorem Splits.preferred (hsplits : Splits e text place last parts tail)
    {part : List Char × Match} (hpart : part ∈ parts) : e.Preferred text part.2 := by
  induction hsplits with
  | done => cases hpart
  | next hnext _ ih =>
    rcases List.mem_cons.mp hpart with rfl | hlater
    · exact hnext.preferred
    · exact ih hlater

/-! ## The next match -/

def following (program : Program) (text : Text) (place : Nat) (last : Option Nat) : Option Match :=
  match search program text place with
  | some m =>
    if m.start = m.stop ∧ last = some m.stop then search program text (place + 1) else some m
  | none => none

theorem matchesFrom_succ (program : Program) (text : Text) (count place : Nat)
    (last : Option Nat) :
    matchesFrom program text (count + 1) place last =
      match following program text place last with
      | none => []
      | some m => m :: matchesFrom program text count m.stop (some m.stop) := rfl

/-- Where a search finds a match that does not count, it is at the place itself. -/
theorem skipped_of_search (hlast : ∀ stop ∈ last, stop = place)
    (hsome : search e.program text place = some m) (hpassed : m.PassedOver last) :
    e.Skipped text last place := by
  refine ⟨m, Expr.preferred_of_search hsome, ?_, hpassed⟩
  rw [hpassed.1]
  exact hlast _ hpassed.2

theorem next_of_following (hlast : ∀ stop ∈ last, stop = place)
    (hfollowing : following e.program text place last = some m) : e.Next text place last m := by
  rw [following] at hfollowing
  cases hsearch : search e.program text place with
  | none =>
    rw [hsearch] at hfollowing
    cases hfollowing
  | some found =>
    rw [hsearch] at hfollowing
    have hfirst := Expr.first_of_some hsearch
    simp only at hfollowing
    split_ifs at hfollowing with hpassed
    · have hskipped := skipped_of_search hlast hsearch hpassed
      have hnext := Expr.first_of_some hfollowing
      refine ⟨Nat.le_of_succ_le hnext.start_le, Expr.preferred_of_search hfollowing, ?_, ?_⟩
      · rintro ⟨hempty, hstop⟩
        have hle := hnext.start_le
        rw [hempty, hlast _ hstop] at hle
        exact absurd hle (Nat.not_succ_le_self place)
      · intro i j hfrom hto hmatches
        rcases Nat.eq_or_lt_of_le hfrom with rfl | hlt
        · exact hskipped
        · exact absurd hmatches (hnext.none_before i j hlt hto)
    · cases hfollowing
      exact ⟨hfirst.start_le, Expr.preferred_of_search hsearch, hpassed, fun i j hfrom hto hmatches =>
        absurd hmatches (hfirst.none_before i j hfrom hto)⟩

theorem skipped_of_following (hlast : ∀ stop ∈ last, stop = place)
    (hfollowing : following e.program text place last = none) (hfrom : place ≤ i)
    (hto : i ≤ text.size) (hmatches : e.Matches text i j) : e.Skipped text last i := by
  rw [following] at hfollowing
  cases hsearch : search e.program text place with
  | none => exact absurd hmatches (Expr.not_matches_of_none hsearch hfrom hto)
  | some found =>
    rw [hsearch] at hfollowing
    simp only at hfollowing
    split_ifs at hfollowing with hpassed
    rcases Nat.eq_or_lt_of_le hfrom with rfl | hlt
    · exact skipped_of_search hlast hsearch hpassed
    · exact absurd hmatches (Expr.not_matches_of_none hfollowing hlt hto)

/-! ## All matches -/

/-- The turns that are left are enough: every match but the first ends further on. -/
structure Enough (text : Text) (place : Nat) (last : Option Nat) (count : Nat) : Prop where
  le_size : place ≤ text.size
  first : last = none → text.size < place + count
  later : ∀ stop ∈ last, stop = place ∧ text.size ≤ place + count

theorem Enough.next (henough : Enough text place last (count + 1))
    (hnext : e.Next text place last m) : Enough text m.stop (some m.stop) count := by
  have hstart := hnext.start_le
  have hle := hnext.preferred.le
  refine ⟨hnext.preferred.stop_le, fun hnone => absurd hnone (by simp), fun stop hstop => ?_⟩
  cases hstop
  refine ⟨rfl, ?_⟩
  cases last with
  | none =>
    have hroom := henough.first rfl
    omega
  | some stop =>
    obtain ⟨rfl, hroom⟩ := henough.later stop rfl
    have hfurther : stop < m.stop := by
      by_contra hsame
      exact hnext.counts ⟨by omega, congrArg some (by omega)⟩
    omega

/-- Without any turn left, the text is at its end, and an empty match there does not count. -/
theorem Enough.skipped (henough : Enough text place last 0) (hfrom : place ≤ i)
    (hto : i ≤ text.size) (hmatches : e.Matches text i j) : e.Skipped text last i := by
  have hle := henough.le_size
  cases last with
  | none => exact absurd (henough.first rfl) (by omega)
  | some stop =>
    obtain ⟨rfl, hroom⟩ := henough.later stop rfl
    obtain rfl : i = stop := by omega
    cases hsearch : search e.program text i with
    | none => exact absurd hmatches (Expr.not_matches_of_none hsearch hfrom hto)
    | some m =>
      have hpreferred := Expr.preferred_of_search hsearch
      have hstart := (Expr.first_of_some hsearch).start_le
      have hstop := hpreferred.le
      have hend := hpreferred.stop_le
      exact ⟨m, hpreferred, by omega, by omega, congrArg some (by omega)⟩

/-- With enough turns a text splits at the matches that are collected. -/
theorem exists_splits_matchesFrom (henough : Enough text place last count) :
    ∃ parts tail, Splits e text place last parts tail ∧
      ∀ put, Pattern.spliceFrom text put place (matchesFrom e.program text count place last) =
        joined put parts tail := by
  induction count generalizing place last with
  | zero =>
    refine ⟨[], _, .done fun i j => henough.skipped, fun put => ?_⟩
    rw [matchesFrom, spliceFrom, extract_to_end, joined_nil]
  | succ count ih =>
    have hlast : ∀ stop ∈ last, stop = place := fun stop hstop => (henough.later stop hstop).1
    cases hfollowing : following e.program text place last with
    | none =>
      refine ⟨[], _, .done fun i j => skipped_of_following hlast hfollowing, fun put => ?_⟩
      rw [matchesFrom_succ, hfollowing, spliceFrom, extract_to_end, joined_nil]
    | some m =>
      have hnext := next_of_following hlast hfollowing
      obtain ⟨parts, tail, hsplits, hsplice⟩ := ih (henough.next hnext)
      refine ⟨_, tail, .next hnext hsplits, fun put => ?_⟩
      rw [matchesFrom_succ, hfollowing, spliceFrom, hsplice, joined_cons]

/-- Replacing all matches puts something in the place of each one, and keeps the stretches
between them. -/
theorem exists_splits (e : Expr) (text : Text) :
    ∃ parts tail, Splits e text 0 none parts tail ∧
      ∀ put, spliceFrom text put 0 (allMatches e.program text) = joined put parts tail :=
  exists_splits_matchesFrom ⟨Nat.zero_le _, fun _ => by omega, fun stop hstop => by cases hstop⟩

end Emend.Pattern
