import Emend.Proofs.Pattern.Paths

/-!
# What a program matches

An expression stands for a relation between places: where a match may begin, and where
it may then end.  With the marks that are kept on the way this is a relation between
points, which the layout of the expression realizes.  A search therefore finds nothing
only where there is no match, and otherwise finds a match before which there is no other,
with the bounds of its capture groups.
-/

namespace Emend.Pattern

open Relation (ReflTransGen Comp)

variable {program : Program} {text : Text} {last : Way} {instruction : Instruction}
  {code other : List Instruction} {found : Match} {r : Point → Point → Prop} {p q : Point}
  {a stop bound count step start place i j n : Nat} {marks : Marks}

/-- The places that a match of an expression can lie between. -/
def Expr.Matches (text : Text) : Expr → Nat → Nat → Prop
  | empty => Eq
  | set s => fun i j => (text[i]?).any s.contains ∧ j = i + 1
  | look l => fun i j => l.holds text i ∧ j = i
  | capture _ body => body.Matches text
  | repetition _ least most body => fun i j =>
    ∃ n, least ≤ n ∧ (∀ m ∈ most, n ≤ max least m) ∧ Turns (body.Matches text) n i j
  | cat left right => Comp (left.Matches text) (right.Matches text)
  | alt left right => fun i j => left.Matches text i j ∨ right.Matches text i j

/-- The points that a match of an expression leads between.  A capture group marks where
it was entered last and where it was left last. -/
def Expr.Takes (text : Text) : Expr → Point → Point → Prop
  | empty => Eq
  | set s => fun p q => (text[p.place]?).any s.contains ∧ q = p.next
  | look l => fun p q => l.holds text p.place ∧ q = p
  | capture index body => fun p q =>
    ∃ inner, body.Takes text (p.mark (2 * index)) inner ∧ q = inner.mark (2 * index + 1)
  | repetition _ least most body => fun p q =>
    ∃ n, least ≤ n ∧ (∀ m ∈ most, n ≤ max least m) ∧ Turns (body.Takes text) n p q
  | cat left right => Comp (left.Takes text) (right.Takes text)
  | alt left right => fun p q => left.Takes text p q ∨ right.Takes text p q

/-! ## Marks and places -/

/-- Without its marks, a match is one between places. -/
theorem Expr.Takes.matches {e : Expr} (htakes : e.Takes text p q) :
    e.Matches text p.place q.place := by
  induction e generalizing p q with
  | empty => exact congrArg Point.place htakes
  | set s => exact ⟨htakes.1, congrArg Point.place htakes.2⟩
  | look l => exact ⟨htakes.1, congrArg Point.place htakes.2⟩
  | capture index body ih =>
    obtain ⟨inner, hbody, rfl⟩ := htakes
    have hmatches := ih hbody
    exact hmatches
  | repetition greedy least most body ih =>
    obtain ⟨n, hleast, hmost, hturns⟩ := htakes
    exact ⟨n, hleast, hmost, hturns.map Point.place fun _ _ => ih⟩
  | cat left right ihleft ihright =>
    obtain ⟨middle, hleft, hright⟩ := htakes
    exact ⟨middle.place, ihleft hleft, ihright hright⟩
  | alt left right ihleft ihright => exact htakes.imp ihleft ihright

theorem exists_turns {r : Point → Point → Prop} {place : Nat → Nat → Prop}
    (hstep : ∀ i j marks, place i j → ∃ marks', r ⟨i, marks⟩ ⟨j, marks'⟩)
    (hturns : Turns place n i j) (marks : Marks) : ∃ marks', Turns r n ⟨i, marks⟩ ⟨j, marks'⟩ := by
  induction n generalizing i marks with
  | zero =>
    cases hturns
    exact ⟨marks, rfl⟩
  | succ n ih =>
    obtain ⟨k, hfirst, hrest⟩ := hturns
    obtain ⟨middle, hto⟩ := hstep i k marks hfirst
    obtain ⟨marks', hfrom⟩ := ih hrest middle
    exact ⟨marks', _, hto, hfrom⟩

/-- A match between places can be made from any marks. -/
theorem Expr.Matches.exists_takes {e : Expr} (hmatches : e.Matches text i j) (marks : Marks) :
    ∃ marks', e.Takes text ⟨i, marks⟩ ⟨j, marks'⟩ := by
  induction e generalizing i j marks with
  | empty =>
    cases hmatches
    exact ⟨marks, rfl⟩
  | set s =>
    obtain ⟨hmem, rfl⟩ := hmatches
    exact ⟨marks, hmem, rfl⟩
  | look l =>
    obtain ⟨hholds, rfl⟩ := hmatches
    exact ⟨marks, hholds, rfl⟩
  | capture index body ih =>
    obtain ⟨marks', hbody⟩ := ih hmatches ((2 * index, i) :: marks)
    exact ⟨_, _, hbody, rfl⟩
  | repetition greedy least most body ih =>
    obtain ⟨n, hleast, hmost, hturns⟩ := hmatches
    obtain ⟨marks', htakes⟩ := exists_turns (fun _ _ marks hbody => ih hbody marks) hturns marks
    exact ⟨marks', n, hleast, hmost, htakes⟩
  | cat left right ihleft ihright =>
    obtain ⟨k, hleft, hright⟩ := hmatches
    obtain ⟨middle, hto⟩ := ihleft hleft marks
    obtain ⟨marks', hfrom⟩ := ihright hright middle
    exact ⟨marks', _, hto, hfrom⟩
  | alt left right ihleft ihright =>
    rcases hmatches with hleft | hright
    · obtain ⟨marks', hto⟩ := ihleft hleft marks
      exact ⟨marks', .inl hto⟩
    · obtain ⟨marks', hto⟩ := ihright hright marks
      exact ⟨marks', .inr hto⟩

/-! ## Code at addresses -/

/-- Instructions stand in a program from an address on. -/
def Program.Has (program : Program) : Nat → List Instruction → Prop
  | _, [] => True
  | a, instruction :: rest => program[a]? = some instruction ∧ program.Has (a + 1) rest

theorem Program.has_cons : program.Has a (instruction :: code) ↔
    program[a]? = some instruction ∧ program.Has (a + 1) code := Iff.rfl

theorem Program.has_append :
    program.Has a (code ++ other) ↔ program.Has a code ∧ program.Has (a + code.length) other := by
  induction code generalizing a with
  | nil => exact ⟨fun hhas => ⟨trivial, hhas⟩, And.right⟩
  | cons instruction rest ih =>
    rw [List.cons_append, has_cons, ih, has_cons, and_assoc, List.length_cons, Nat.add_right_comm,
      Nat.add_assoc]

theorem Program.has_suffix (before code : List Instruction) :
    Program.Has (before ++ code).toArray before.length code := by
  induction code generalizing before with
  | nil => exact trivial
  | cons instruction rest ih =>
    refine ⟨by simp, ?_⟩
    have hrest := ih (before ++ [instruction])
    simpa using hrest

namespace Expr

theorem copies_succ (part : Nat → List Instruction) :
    copies (count + 1) step a part = part a ++ copies count step (a + step) part := by
  rw [copies, copies, List.range_succ_eq_map, List.flatMap_cons, Nat.zero_mul, Nat.add_zero,
    List.flatMap_map]
  congr 1
  apply congrArg (List.flatMap · _)
  funext i
  congr 1
  rw [Nat.succ_mul]
  omega

theorem copies_last (part : Nat → List Instruction) :
    copies (count + 1) step a part = copies count step a part ++ part (a + count * step) := by
  rw [copies, copies, List.range_succ, List.flatMap_append, List.flatMap_singleton]

theorem length_copies {part : Nat → List Instruction} (hpart : ∀ a, (part a).length = step) :
    (copies count step a part).length = count * step := by
  induction count generalizing a with
  | zero => simp [copies]
  | succ count ih => rw [copies_succ, List.length_append, hpart, ih, Nat.succ_mul, Nat.add_comm]

theorem length_layout (e : Expr) (a : Nat) : (e.layout a).length = e.width := by
  induction e generalizing a with
  | empty => rfl
  | set s => rfl
  | look l => rfl
  | capture index body ih => simp [layout, width, ih]
  | repetition greedy least most body ih =>
    cases most with
    | none =>
      by_cases hleast : least = 0
      · simp [layout, width, hleast, ih]
      · simp [layout, width, hleast, length_copies ih]
    | some most =>
      have hpart (stop : Nat) (a : Nat) :
          (Instruction.enterOr greedy (a + 1) stop :: body.layout (a + 1)).length =
            body.width + 1 := by
        rw [List.length_cons, ih]
      simp [layout, width, length_copies ih, length_copies (hpart _)]
  | cat left right ihleft ihright => simp [layout, width, ihleft, ihright]
  | alt left right ihleft ihright =>
    simp [layout, width, ihleft, ihright]
    omega

/-- Copies of a part, one after the other, are as many turns. -/
theorem realizes_copies {part : Nat → List Instruction} (hlength : ∀ a, (part a).length = step)
    (hpart : ∀ a, program.Has a (part a) → Realizes program text a (a + step) r)
    (hhas : program.Has a (copies count step a part)) :
    Realizes program text a (a + count * step) (Turns r count) := by
  induction count generalizing a with
  | zero =>
    rw [Nat.zero_mul]
    exact .refl program text a
  | succ count ih =>
    rw [copies_succ, Program.has_append, hlength] at hhas
    rw [Nat.succ_mul, Nat.add_comm (count * step), ← Nat.add_assoc]
    exact (hpart a hhas.1).comp (ih hhas.2)

/-- Copies that may each be passed by, together with all that come after, are as many turns
at most. -/
theorem realizes_options {greedy : Bool} {part : Nat → List Instruction}
    (hlength : ∀ a, (part a).length = step)
    (hpart : ∀ a, program.Has a (part a) → Realizes program text a (a + step) r)
    (hstop : a + count * (step + 1) = stop)
    (hhas : program.Has a (copies count (step + 1) a fun c =>
      .enterOr greedy (c + 1) stop :: part (c + 1))) :
    Realizes program text a stop (fun p q => ∃ n, n ≤ count ∧ Turns r n p q) := by
  induction count generalizing a with
  | zero =>
    obtain rfl : a = stop := by omega
    refine (Realizes.refl program text a).of_iff fun p q => ?_
    simp [Turns]
  | succ count ih =>
    rw [copies_succ, Program.has_append, List.length_cons, hlength] at hhas
    obtain ⟨⟨henter, hfirst⟩, hothers⟩ := hhas
    have hrest := ih (by rw [← hstop, Nat.succ_mul]; omega) hothers
    have hturn := hpart (a + 1) hfirst
    rw [Nat.add_right_comm, Nat.add_assoc] at hturn
    refine ((chooses_enterOr henter).realizes (hturn.comp hrest)
      (.refl program text stop)).of_iff fun p q => ?_
    constructor
    · rintro (⟨k, hturn, n, hn, hturns⟩ | rfl)
      · exact ⟨n + 1, by omega, k, hturn, hturns⟩
      · exact ⟨0, by omega, rfl⟩
    · rintro ⟨_ | n, hn, hturns⟩
      · exact .inr hturns
      · obtain ⟨k, hturn, hturns⟩ := hturns
        exact .inl ⟨k, hturn, n, by omega, hturns⟩

/-- A loop that may be passed by is any number of turns. -/
theorem realizes_star {greedy : Bool} {body : Expr}
    (hbody : ∀ c, program.Has c (body.layout c) →
      Realizes program text c (c + body.width) r)
    (hhas : program.Has a ((repetition greedy 0 none body).layout a)) :
    Realizes program text a (a + (body.width + 2)) (fun p q => ∃ n, Turns r n p q) := by
  rw [layout, if_pos rfl, List.cons_append, Program.has_cons, Program.has_append, length_layout] at hhas
  obtain ⟨henter, hturn, hagain, -⟩ := hhas
  have hchooses : Chooses program text a (a + 1) (a + body.width + 2) := chooses_enterOr henter
  have hloop : Chooses program text (a + 1 + body.width) (a + 1) (a + body.width + 2) := by
    split_ifs at hagain
    · exact chooses_jump hagain hchooses
    · exact chooses_enterOr hagain
  refine (hchooses.realizes (realizes_loop (hbody _ hturn) hloop)
    (.refl program text _)).of_iff fun p q => ?_
  constructor
  · rintro (⟨n, hturns⟩ | rfl)
    · exact ⟨n + 1, hturns⟩
    · exact ⟨0, rfl⟩
  · rintro ⟨_ | n, hturns⟩
    · exact .inr hturns
    · exact .inl ⟨n, hturns⟩

/-- A loop after copies of its body goes back to the last of them. -/
theorem realizes_plus {greedy : Bool} {least : Nat} {body : Expr}
    (hbody : ∀ c, program.Has c (body.layout c) →
      Realizes program text c (c + body.width) r)
    (hhas : program.Has a ((repetition greedy (least + 1) none body).layout a)) :
    Realizes program text a (a + ((least + 1) * body.width + 1))
      (fun p q => ∃ n, least + 1 ≤ n ∧ Turns r n p q) := by
  have hlayout : (repetition greedy (least + 1) none body).layout a =
      copies least body.width a body.layout ++ (body.layout (a + least * body.width) ++
        [.enterOr greedy (a + least * body.width) (a + (least + 1) * body.width + 1)]) := by
    rw [layout, if_neg (Nat.succ_ne_zero least), copies_last, List.append_assoc]
    rfl
  rw [hlayout, Program.has_append, Program.has_append, length_layout,
    length_copies body.length_layout] at hhas
  obtain ⟨hcopies, hturn, hagain, -⟩ := hhas
  have hsum : a + least * body.width + body.width = a + (least + 1) * body.width := by
    rw [Nat.succ_mul, Nat.add_assoc]
  have hloop := realizes_loop (hbody _ hturn) (chooses_enterOr hagain)
  refine ((realizes_copies body.length_layout hbody hcopies).comp hloop).of_iff fun p q => ?_
  constructor
  · rintro ⟨k, hfirst, n, hrest⟩
    exact ⟨least + (n + 1), by omega, turns_add.mpr ⟨k, hfirst, hrest⟩⟩
  · rintro ⟨n, hn, hturns⟩
    obtain ⟨m, rfl⟩ := Nat.exists_eq_add_of_le hn
    rw [Nat.add_assoc, Nat.add_comm 1] at hturns
    obtain ⟨k, hfirst, hrest⟩ := turns_add.mp hturns
    exact ⟨k, hfirst, m, hrest⟩

/-- Copies of a body, the last of which may be passed by. -/
theorem realizes_bounded {greedy : Bool} {least most : Nat} {body : Expr}
    (hbody : ∀ c, program.Has c (body.layout c) →
      Realizes program text c (c + body.width) r)
    (hhas : program.Has a ((repetition greedy least (some most) body).layout a)) :
    Realizes program text a (a + (repetition greedy least (some most) body).width)
      (fun p q => ∃ n, least ≤ n ∧ n ≤ max least most ∧ Turns r n p q) := by
  rw [layout, Program.has_append, length_copies body.length_layout] at hhas
  rw [width, ← Nat.add_assoc]
  refine ((realizes_copies body.length_layout hbody hhas.1).comp
    (realizes_options body.length_layout hbody rfl hhas.2)).of_iff fun p q => ?_
  constructor
  · rintro ⟨k, hfirst, n, hn, hrest⟩
    exact ⟨least + n, by omega, by omega, turns_add.mpr ⟨k, hfirst, hrest⟩⟩
  · rintro ⟨n, hleast, hmost, hturns⟩
    obtain ⟨m, rfl⟩ := Nat.exists_eq_add_of_le hleast
    obtain ⟨k, hfirst, hrest⟩ := turns_add.mp hturns
    exact ⟨k, hfirst, m, by omega, hrest⟩

/-- The layout of an expression realizes what the expression stands for. -/
theorem realizes_layout (e : Expr) (hhas : program.Has a (e.layout a)) :
    Realizes program text a (a + e.width) (e.Takes text) := by
  induction e generalizing a with
  | empty => exact .refl program text a
  | set s => exact realizes_take hhas.1
  | look l => exact realizes_check hhas.1
  | capture index body ih =>
    rw [layout, List.cons_append, Program.has_cons, Program.has_append, length_layout] at hhas
    obtain ⟨hopen, hbody, hclose, -⟩ := hhas
    have hend := ((realizes_mark hopen).comp (ih hbody)).comp (realizes_mark hclose)
    rw [width, show a + (body.width + 2) = a + 1 + body.width + 1 by omega]
    exact hend.of_iff fun p q => by simp [Comp, Takes]
  | repetition greedy least most body ih =>
    cases most with
    | none =>
      cases least with
      | zero =>
        exact (realizes_star (fun c => ih) hhas).of_iff fun p q => by simp [Takes]
      | succ least =>
        rw [width, if_neg (Nat.succ_ne_zero least)]
        exact (realizes_plus (fun c => ih) hhas).of_iff fun p q => by simp [Takes]
    | some most =>
      exact (realizes_bounded (fun c => ih) hhas).of_iff fun p q => by simp [Takes]
  | cat left right ihleft ihright =>
    rw [layout, Program.has_append, length_layout] at hhas
    rw [width, ← Nat.add_assoc]
    exact (ihleft hhas.1).comp (ihright hhas.2)
  | alt left right ihleft ihright =>
    rw [layout, List.cons_append, Program.has_cons, Program.has_append, length_layout] at hhas
    obtain ⟨hfork, hleft, hjump, hright⟩ := hhas
    rw [show a + (alt left right).width = a + 1 + left.width + 1 + right.width by
      rw [width]; omega]
    have hfirst := (ihleft hleft).comp (realizes_jump hjump)
    exact ((chooses_fork hfork).realizes hfirst (ihright hright)).of_iff fun p q => by
      simp [Comp, Takes]

/-! ## Programs -/

/-- No instruction of some code leads further than to an address. -/
def Confined (bound : Nat) : Nat → List Instruction → Prop
  | _, [] => True
  | a, instruction :: rest =>
    (∀ target ∈ instruction.targets a, target ≤ bound) ∧ Confined bound (a + 1) rest

theorem confined_cons : Confined bound a (instruction :: code) ↔
    (∀ target ∈ instruction.targets a, target ≤ bound) ∧ Confined bound (a + 1) code := Iff.rfl

theorem confined_append :
    Confined bound a (code ++ other) ↔
      Confined bound a code ∧ Confined bound (a + code.length) other := by
  induction code generalizing a with
  | nil => exact ⟨fun hconfined => ⟨trivial, hconfined⟩, And.right⟩
  | cons instruction rest ih =>
    rw [List.cons_append, confined_cons, ih, confined_cons, and_assoc, List.length_cons,
      Nat.add_right_comm, Nat.add_assoc]

theorem Confined.targets_le (hconfined : Confined bound a code)
    (hat : code[n]? = some instruction) :
    ∀ target ∈ instruction.targets (a + n), target ≤ bound := by
  induction code generalizing a n with
  | nil => cases hat
  | cons first rest ih =>
    cases n with
    | zero =>
      cases hat
      exact hconfined.1
    | succ n =>
      have hrest := ih hconfined.2 hat
      rwa [Nat.add_right_comm, Nat.add_assoc] at hrest

theorem confined_enterOr {greedy : Bool} {enter leave : Nat} (henter : enter ≤ bound)
    (hleave : leave ≤ bound) :
    ∀ target ∈ (Instruction.enterOr greedy enter leave).targets a, target ≤ bound := by
  cases greedy <;> simp [Instruction.enterOr, Instruction.targets, henter, hleave]

theorem confined_copies {part : Nat → List Instruction} (hlength : ∀ a, (part a).length = step)
    (hpart : ∀ a, a + step ≤ bound → Confined bound a (part a))
    (hbound : a + count * step ≤ bound) : Confined bound a (copies count step a part) := by
  induction count generalizing a with
  | zero => exact trivial
  | succ count ih =>
    rw [Nat.succ_mul] at hbound
    rw [copies_succ, confined_append, hlength]
    exact ⟨hpart a (by omega), ih (by omega)⟩

/-- The code of an expression leads no further than right behind it. -/
theorem confined_layout (e : Expr) (hbound : a + e.width ≤ bound) :
    Confined bound a (e.layout a) := by
  induction e generalizing a with
  | empty => exact trivial
  | set s => exact ⟨by simpa [Instruction.targets, width] using hbound, trivial⟩
  | look l => exact ⟨by simpa [Instruction.targets, width] using hbound, trivial⟩
  | capture index body ih =>
    rw [width] at hbound
    rw [layout, List.cons_append, confined_cons, confined_append, length_layout]
    refine ⟨?_, ih (by omega), ?_, trivial⟩
    · simp only [Instruction.targets, List.mem_singleton, forall_eq]
      omega
    · simp only [Instruction.targets, List.mem_singleton, forall_eq]
      omega
  | repetition greedy least most body ih =>
    cases most with
    | none =>
      rw [width] at hbound
      rw [layout]
      by_cases hleast : least = 0
      · rw [if_pos hleast] at hbound ⊢
        rw [List.cons_append, confined_cons, confined_append]
        refine ⟨confined_enterOr (by omega) (by omega), ih (by omega), ?_, trivial⟩
        split_ifs
        · simp only [Instruction.targets, List.mem_singleton, forall_eq]
          omega
        · exact confined_enterOr (by omega) (by omega)
      · rw [if_neg hleast] at hbound ⊢
        have hlast : (least - 1) * body.width ≤ least * body.width :=
          Nat.mul_le_mul_right _ (Nat.sub_le _ _)
        rw [confined_append]
        exact ⟨confined_copies body.length_layout (fun a => ih) (by omega),
          confined_enterOr (by omega) (by omega), trivial⟩
    | some most =>
      rw [width] at hbound
      rw [layout, confined_append, length_copies body.length_layout]
      refine ⟨confined_copies body.length_layout (fun a => ih) (by omega),
        confined_copies (fun a => ?_) (fun a ha => ?_) (by omega)⟩
      · rw [List.length_cons, length_layout]
      · exact ⟨confined_enterOr (by omega) (by omega), ih (by omega)⟩
  | cat left right ihleft ihright =>
    rw [width] at hbound
    rw [layout, confined_append, length_layout]
    exact ⟨ihleft (by omega), ihright (by omega)⟩
  | alt left right ihleft ihright =>
    rw [width] at hbound
    rw [layout, List.cons_append, confined_cons, confined_append, length_layout]
    refine ⟨?_, ihleft (by omega), ?_, ihright (by omega)⟩
    · simp only [Instruction.targets, List.mem_cons, List.not_mem_nil, or_false]
      omega
    · simp only [Instruction.targets, List.mem_singleton, forall_eq]
      omega

theorem getElem?_program (e : Expr) (address : Nat) :
    e.program[address]? = (e.layout 0 ++ [Instruction.accept])[address]? := by
  rw [program, List.getElem?_toArray]

theorem size_program (e : Expr) : e.program.size = e.width + 1 := by
  simp [program, length_layout]

theorem closed_program (e : Expr) : e.program.Closed := by
  have hlayout : Confined e.width 0 (e.layout 0) := confined_layout e (by omega)
  have hall : Confined e.width 0 (e.layout 0 ++ [.accept]) :=
    confined_append.mpr ⟨hlayout, by simp [Confined, Instruction.targets]⟩
  refine ⟨by rw [size_program]; omega, fun address instruction hat target htarget => ?_⟩
  rw [getElem?_program] at hat
  rw [size_program]
  have hle := hall.targets_le hat target (by rwa [Nat.zero_add])
  omega

/-- A program goes between its ends from point to point as its expression takes them. -/
theorem realizes_program (e : Expr) (text : Text) :
    Realizes e.program text 0 e.width (e.Takes text) := by
  have hhas : e.program.Has 0 (e.layout 0 ++ [Instruction.accept]) :=
    Program.has_suffix [] (e.layout 0 ++ [Instruction.accept])
  have hrealizes : Realizes e.program text 0 (0 + e.width) (e.Takes text) :=
    e.realizes_layout (Program.has_append.mp hhas).1
  rwa [Nat.zero_add] at hrealizes

theorem outcome_stop (e : Expr) (p : Point) :
    (p.way e.width).outcome e.program text = .accepted := by
  have hat : e.program[e.width]? = some .accept := by
    rw [getElem?_program, List.getElem?_append_right (Nat.le_of_eq (e.length_layout 0)), length_layout]
    simp
  rw [Point.outcome_way, hat]

/-- What the program of an expression can be followed to is a match of the expression. -/
theorem takes_of_reaches {e : Expr} (hreaches : ReflTransGen (Steps e.program text) (p.way 0) last)
    (haccepted : last.outcome e.program text = .accepted) :
    e.Takes text p ⟨last.place, last.marks⟩ := by
  obtain ⟨n, haccepts⟩ := exists_accepts hreaches haccepted
  obtain ⟨q, m, -, htakes, hrest⟩ := (e.realizes_program text).passes haccepts
  cases hrest with
  | here => exact htakes
  | step hstep =>
    obtain ⟨ways, houtcome, -⟩ := hstep
    rw [outcome_stop] at houtcome
    cases houtcome

/-- Where a match begins, the program leads to one. -/
theorem leads_of_matches {e : Expr} (hmatches : e.Matches text i j) :
    Leads e.program text ⟨0, i, marks⟩ := by
  obtain ⟨marks', htakes⟩ := hmatches.exists_takes marks
  exact ⟨_, (e.realizes_program text).reaches htakes, e.outcome_stop _⟩

/-! ## Searches -/

/-- Where a search finds nothing, there is no match. -/
theorem not_matches_of_none {e : Expr} (hnone : search e.program text start = none)
    (hfrom : start ≤ i) (hto : i ≤ text.size) : ¬e.Matches text i j := fun hmatches =>
  search_none e.closed_program hnone hfrom hto (leads_of_matches hmatches)

/-- A match of an expression that no other begins before, counted from a place on. -/
structure First (e : Expr) (text : Text) (start : Nat) (found : Match) : Prop where
  start_le : start ≤ found.start
  start_le_size : found.start ≤ text.size
  matched : e.Matches text found.start found.stop
  none_before : ∀ i j, start ≤ i → i < found.start → ¬e.Matches text i j

/-- What a search finds is a match that no other begins before. -/
theorem first_of_some {e : Expr} (hsome : search e.program text start = some found) :
    First e text start found := by
  have hleftmost := search_some e.closed_program hsome
  obtain ⟨last, hreaches, haccepted, hstop, -⟩ := hleftmost.reached
  refine ⟨hleftmost.start_le, hleftmost.start_le_size,
    hstop ▸ (takes_of_reaches (p := ⟨_, []⟩) hreaches haccepted).matches,
    fun i j hfrom hto hmatches => ?_⟩
  exact hleftmost.first i hfrom hto (leads_of_matches hmatches)

end Expr

end Emend.Pattern
