import Emend.Proofs.Pattern.Search

/-!
# Paths through a program

A program goes from one address to another by paths, and a path takes it from one place
in the text to another and keeps marks on its way.  A stretch of a program realizes a
relation between such points if its paths follow this relation: whatever enters the
stretch leaves it at a point that the relation allows, and can leave it at each of these.
-/

namespace Emend.Pattern

open Relation (ReflTransGen Comp)

/-- What has been come to in a text: a place, with the marks that are kept there. -/
structure Point where
  place : Nat
  marks : Marks

namespace Point

def way (p : Point) (address : Nat) : Way := ⟨address, p.place, p.marks⟩

def next (p : Point) : Point := ⟨p.place + 1, p.marks⟩

def mark (p : Point) (slot : Nat) : Point := ⟨p.place, (slot, p.place) :: p.marks⟩

end Point

variable {program : Program} {text : Text} {way next last : Way} {ways : List Way}
  {r s : Point → Point → Prop} {p q : Point} {a b c stop address m n : Nat}

/-! ## Paths that are accepted -/

/-- A way is accepted after a number of instructions. -/
inductive Accepts (program : Program) (text : Text) : Nat → Way → Way → Prop
  | here {way : Way} (haccepted : way.outcome program text = .accepted) :
    Accepts program text 0 way way
  | step {n : Nat} {way next last : Way} (hstep : Steps program text way next)
    (hrest : Accepts program text n next last) : Accepts program text (n + 1) way last

theorem exists_accepts (hreaches : ReflTransGen (Steps program text) way last)
    (haccepted : last.outcome program text = .accepted) : ∃ n, Accepts program text n way last := by
  induction hreaches using ReflTransGen.head_induction_on with
  | refl => exact ⟨0, .here haccepted⟩
  | head hstep _ ih =>
    obtain ⟨n, hrest⟩ := ih
    exact ⟨n + 1, .step hstep hrest⟩

/-- What is accepted goes on by one instruction, unless it is accepted right there. -/
theorem Accepts.exists_next (haccepts : Accepts program text n way last)
    (houtcome : way.outcome program text = .next ways) :
    ∃ next ∈ ways, ∃ m, m < n ∧ Accepts program text m next last := by
  cases haccepts with
  | here haccepted =>
    rw [houtcome] at haccepted
    cases haccepted
  | step hstep hrest =>
    obtain ⟨_, hsame, hnext⟩ := hstep
    rw [houtcome] at hsame
    cases hsame
    exact ⟨_, hnext, _, Nat.lt_succ_self _, hrest⟩

theorem steps_of_mem (houtcome : way.outcome program text = .next ways) (hmem : next ∈ ways) :
    ReflTransGen (Steps program text) way next :=
  .single ⟨ways, houtcome, hmem⟩

/-- Where the instruction at an address leads from a point. -/
theorem Point.outcome_way (program : Program) (text : Text) (p : Point) (a : Nat) :
    (p.way a).outcome program text =
      match program[a]? with
      | some (.take s) =>
        match text[p.place]? with
        | some c => if s.contains c then .next [p.next.way (a + 1)] else .next []
        | none => .next []
      | some (.check l) => if l.holds text p.place then .next [p.way (a + 1)] else .next []
      | some (.mark slot) => .next [(p.mark slot).way (a + 1)]
      | some (.fork preferred other) => .next [p.way preferred, p.way other]
      | some (.jump address) => .next [p.way address]
      | some .accept => .accepted
      | none => .next [] := rfl

/-! ## Realized relations -/

/-- Between two addresses a program goes from point to point just as a relation says. -/
structure Realizes (program : Program) (text : Text) (a b : Nat) (r : Point → Point → Prop) :
    Prop where
  reaches : ∀ {p q : Point}, r p q → ReflTransGen (Steps program text) (p.way a) (q.way b)
  passes : ∀ {n : Nat} {p : Point} {last : Way}, Accepts program text n (p.way a) last →
    ∃ q m, m ≤ n ∧ r p q ∧ Accepts program text m (q.way b) last

theorem Realizes.refl (program : Program) (text : Text) (a : Nat) :
    Realizes program text a a Eq where
  reaches := by
    rintro p _ rfl
    exact .refl
  passes haccepts := ⟨_, _, Nat.le_refl _, rfl, haccepts⟩

/-- Programs that stand one behind the other realize their relations one after the other. -/
theorem Realizes.comp (hfirst : Realizes program text a b r)
    (hsecond : Realizes program text b c s) : Realizes program text a c (Comp r s) where
  reaches := by
    rintro p q ⟨middle, hleft, hright⟩
    exact (hfirst.reaches hleft).trans (hsecond.reaches hright)
  passes haccepts := by
    obtain ⟨middle, m, hm, hleft, hmiddle⟩ := hfirst.passes haccepts
    obtain ⟨q, l, hl, hright, hrest⟩ := hsecond.passes hmiddle
    exact ⟨q, l, Nat.le_trans hl hm, ⟨middle, hleft, hright⟩, hrest⟩

theorem Realizes.of_iff (hrealizes : Realizes program text a b r)
    (hiff : ∀ p q, r p q ↔ s p q) : Realizes program text a b s := by
  have hsame : r = s := funext fun p => funext fun q => propext (hiff p q)
  rwa [← hsame]

theorem realizes_take {set : CharSet} (hat : program[a]? = some (.take set)) :
    Realizes program text a (a + 1)
      (fun p q => (text[p.place]?).any set.contains ∧ q = p.next) := by
  have houtcome (p : Point) : (p.way a).outcome program text =
      .next (if (text[p.place]?).any set.contains then [p.next.way (a + 1)] else []) := by
    rw [Point.outcome_way, hat]
    cases hchar : text[p.place]? with
    | none => simp
    | some c => by_cases hmem : set.contains c = true <;> simp [hmem]
  constructor
  · rintro p _ ⟨hmem, rfl⟩
    exact steps_of_mem (houtcome p) (by simp [hmem])
  · intro n p last haccepts
    obtain ⟨next, hnext, m, hm, hrest⟩ := haccepts.exists_next (houtcome p)
    split_ifs at hnext with hmem
    · rw [List.mem_singleton] at hnext
      subst hnext
      exact ⟨p.next, m, Nat.le_of_lt hm, ⟨hmem, rfl⟩, hrest⟩
    · cases hnext

theorem realizes_check {l : Look} (hat : program[a]? = some (.check l)) :
    Realizes program text a (a + 1) (fun p q => l.holds text p.place ∧ q = p) := by
  have houtcome (p : Point) : (p.way a).outcome program text =
      .next (if l.holds text p.place then [p.way (a + 1)] else []) := by
    rw [Point.outcome_way, hat]
    by_cases hholds : l.holds text p.place = true <;> simp [hholds]
  constructor
  · rintro p _ ⟨hholds, rfl⟩
    exact steps_of_mem (houtcome _) (by simp [hholds])
  · intro n p last haccepts
    obtain ⟨next, hnext, m, hm, hrest⟩ := haccepts.exists_next (houtcome p)
    split_ifs at hnext with hholds
    · rw [List.mem_singleton] at hnext
      subst hnext
      exact ⟨p, m, Nat.le_of_lt hm, ⟨hholds, rfl⟩, hrest⟩
    · cases hnext

/-- An instruction that goes on to one address, whatever the text. -/
theorem realizes_of_outcome {target : Nat} (keep : Point → Point)
    (houtcome : ∀ p : Point, (p.way a).outcome program text = .next [(keep p).way target]) :
    Realizes program text a target (fun p q => q = keep p) := by
  constructor
  · rintro p _ rfl
    exact steps_of_mem (houtcome p) List.mem_cons_self
  · intro n p last haccepts
    obtain ⟨next, hnext, m, hm, hrest⟩ := haccepts.exists_next (houtcome p)
    rw [List.mem_singleton] at hnext
    subst hnext
    exact ⟨keep p, m, Nat.le_of_lt hm, rfl, hrest⟩

theorem realizes_mark {slot : Nat} (hat : program[a]? = some (.mark slot)) :
    Realizes program text a (a + 1) (fun p q => q = p.mark slot) :=
  realizes_of_outcome (Point.mark · slot) fun p => by
    rw [Point.outcome_way, hat]

theorem realizes_jump {target : Nat} (hat : program[a]? = some (.jump target)) :
    Realizes program text a target (fun p q => q = p) :=
  realizes_of_outcome id fun p => by
    rw [Point.outcome_way, hat]
    rfl

/-! ## Choices and loops -/

/-- From an address a program goes on to one of two, as it likes, and takes nothing. -/
structure Chooses (program : Program) (text : Text) (a b c : Nat) : Prop where
  first : ∀ p : Point, ReflTransGen (Steps program text) (p.way a) (p.way b)
  second : ∀ p : Point, ReflTransGen (Steps program text) (p.way a) (p.way c)
  goes : ∀ {n : Nat} {p : Point} {last : Way}, Accepts program text n (p.way a) last →
    ∃ m, m < n ∧ (Accepts program text m (p.way b) last ∨ Accepts program text m (p.way c) last)

theorem Chooses.swap (hchooses : Chooses program text a b c) : Chooses program text a c b :=
  ⟨hchooses.second, hchooses.first, fun haccepts => by
    obtain ⟨m, hm, hrest⟩ := hchooses.goes haccepts
    exact ⟨m, hm, hrest.symm⟩⟩

theorem chooses_fork (hat : program[a]? = some (.fork b c)) : Chooses program text a b c := by
  have houtcome (p : Point) : (p.way a).outcome program text = .next [p.way b, p.way c] := by
    rw [Point.outcome_way, hat]
  refine ⟨fun p => steps_of_mem (houtcome p) (by simp),
    fun p => steps_of_mem (houtcome p) (by simp), fun haccepts => ?_⟩
  obtain ⟨next, hnext, m, hm, hrest⟩ := haccepts.exists_next (houtcome _)
  rcases List.mem_cons.mp hnext with rfl | hnext
  · exact ⟨m, hm, .inl hrest⟩
  · rw [List.mem_singleton] at hnext
    subst hnext
    exact ⟨m, hm, .inr hrest⟩

theorem chooses_enterOr {greedy : Bool} (hat : program[a]? = some (.enterOr greedy b c)) :
    Chooses program text a b c := by
  cases greedy with
  | true => exact chooses_fork hat
  | false => exact (chooses_fork hat).swap

/-- A jump to where there is a choice is a choice. -/
theorem chooses_jump (hat : program[a]? = some (.jump address))
    (hchooses : Chooses program text address b c) : Chooses program text a b c := by
  have hjump : Realizes program text a address (fun p q => q = p) := realizes_jump hat
  refine ⟨fun p => (hjump.reaches rfl).trans (hchooses.first p),
    fun p => (hjump.reaches rfl).trans (hchooses.second p), fun haccepts => ?_⟩
  obtain ⟨_, m, hm, rfl, hrest⟩ := hjump.passes haccepts
  obtain ⟨l, hl, hlast⟩ := hchooses.goes hrest
  exact ⟨l, Nat.lt_of_lt_of_le hl hm, hlast⟩

/-- A choice between two programs realizes the one relation or the other. -/
theorem Chooses.realizes (hchooses : Chooses program text a b c)
    (hfirst : Realizes program text b stop r) (hsecond : Realizes program text c stop s) :
    Realizes program text a stop (fun p q => r p q ∨ s p q) := by
  constructor
  · rintro p q (hleft | hright)
    · exact (hchooses.first p).trans (hfirst.reaches hleft)
    · exact (hchooses.second p).trans (hsecond.reaches hright)
  · intro n p last haccepts
    obtain ⟨m, hm, hleft | hright⟩ := hchooses.goes haccepts
    · obtain ⟨q, l, hl, hrel, hrest⟩ := hfirst.passes hleft
      exact ⟨q, l, by omega, .inl hrel, hrest⟩
    · obtain ⟨q, l, hl, hrel, hrest⟩ := hsecond.passes hright
      exact ⟨q, l, by omega, .inr hrel, hrest⟩

section Turns

variable {α β : Type} {x y : α} {r : α → α → Prop} {s : β → β → Prop}

/-- A relation that is followed a number of times. -/
def Turns (r : α → α → Prop) : Nat → α → α → Prop
  | 0 => Eq
  | n + 1 => Comp r (Turns r n)

theorem turns_add : Turns r (m + n) x y ↔ Comp (Turns r m) (Turns r n) x y := by
  induction m generalizing x with
  | zero => simp [Turns, Comp]
  | succ m ih =>
    rw [Nat.add_right_comm]
    constructor
    · rintro ⟨z, hfirst, hrest⟩
      obtain ⟨w, hleft, hright⟩ := ih.mp hrest
      exact ⟨w, ⟨z, hfirst, hleft⟩, hright⟩
    · rintro ⟨w, ⟨z, hfirst, hleft⟩, hright⟩
      exact ⟨z, hfirst, ih.mpr ⟨w, hleft, hright⟩⟩

theorem turns_one : Turns r 1 x y ↔ r x y := by
  simp [Turns, Comp]

/-- Turns are taken over to another relation one by one. -/
theorem Turns.map (f : α → β) (hstep : ∀ x y, r x y → s (f x) (f y)) (hturns : Turns r n x y) :
    Turns s n (f x) (f y) := by
  induction n generalizing x with
  | zero => exact congrArg f hturns
  | succ n ih =>
    obtain ⟨z, hfirst, hrest⟩ := hturns
    exact ⟨f z, hstep x z hfirst, ih hrest⟩

end Turns

/-- After a body there is a choice between one more turn and leaving. -/
theorem realizes_loop (hbody : Realizes program text a b r)
    (hagain : Chooses program text b a stop) :
    Realizes program text a stop (fun p q => ∃ n, Turns r (n + 1) p q) := by
  constructor
  · rintro p q ⟨n, hturns⟩
    induction n generalizing p with
    | zero => exact (hbody.reaches (turns_one.mp hturns)).trans (hagain.second q)
    | succ n ih =>
      obtain ⟨middle, hfirst, hrest⟩ := hturns
      exact ((hbody.reaches hfirst).trans (hagain.first middle)).trans (ih hrest)
  · -- each turn uses up an instruction, the one that goes back to the body
    intro n
    induction n using Nat.strongRecOn with
    | ind n ih =>
      intro p last haccepts
      obtain ⟨middle, m, hm, hfirst, hbetween⟩ := hbody.passes haccepts
      obtain ⟨l, hl, hmore | hleave⟩ := hagain.goes hbetween
      · obtain ⟨q, k, hk, ⟨turns, hturns⟩, hrest⟩ := ih l (by omega) hmore
        exact ⟨q, k, by omega, ⟨turns + 1, middle, hfirst, hturns⟩, hrest⟩
      · exact ⟨middle, l, by omega, ⟨0, turns_one.mpr hfirst⟩, hleave⟩

end Emend.Pattern
