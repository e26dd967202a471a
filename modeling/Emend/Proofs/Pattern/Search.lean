import Mathlib.Data.List.Nodup
import Mathlib.Data.List.Perm.Subperm
import Mathlib.Logic.Relation
import Emend.Pattern.Search

/-!
# What a search finds

A search follows no way twice.  That loses nothing: what a way leads to depends on its
address and its place alone, so that the ways that have been followed without a match,
with all that they lead to, lead to no match at all.  A search therefore finds a match
if there is one, and the leftmost one.
-/

namespace Emend.Pattern

open Relation (ReflTransGen)

variable {program : Program} {text : Text} {way other next last : Way} {ways : List Way}
  {seen after : Seen} {limit place start tries : Nat} {found : Match}

/-! ## Ways -/

def Instruction.targets (address : Nat) : Instruction → List Nat
  | take _ | check _ | mark _ => [address + 1]
  | fork preferred other => [preferred, other]
  | jump target => [target]
  | accept => []

structure Program.Closed (program : Program) : Prop where
  pos : 0 < program.size
  targets : ∀ (address : Nat) (instruction : Instruction),
    program[address]? = some instruction →
      ∀ target ∈ instruction.targets address, target < program.size

structure Way.Within (program : Program) (text : Text) (way : Way) : Prop where
  address_lt : way.address < program.size
  place_le : way.place ≤ text.size

def Steps (program : Program) (text : Text) (way next : Way) : Prop :=
  ∃ ways, way.outcome program text = .next ways ∧ next ∈ ways

def Leads (program : Program) (text : Text) (way : Way) : Prop :=
  ∃ last, ReflTransGen (Steps program text) way last ∧ last.outcome program text = .accepted

/-- An instruction goes on to its targets, and takes one character at most. -/
theorem Steps.goes (hsteps : Steps program text way next) :
    (∃ instruction, program[way.address]? = some instruction ∧
        next.address ∈ instruction.targets way.address) ∧
      (next.place = way.place ∨ next.place = way.place + 1 ∧ way.place < text.size) := by
  obtain ⟨ways, houtcome, hnext⟩ := hsteps
  unfold Way.outcome at houtcome
  have hgoes {place : Nat} {marks : Marks} {instruction : Instruction} (addresses : List Nat)
      (hways : .next (addresses.map fun address => ⟨address, place, marks⟩) = Outcome.next ways)
      (hinstruction : program[way.address]? = some instruction)
      (htargets : instruction.targets way.address = addresses) :
      (∃ instruction, program[way.address]? = some instruction ∧
        next.address ∈ instruction.targets way.address) ∧ next.place = place := by
    cases hways
    obtain ⟨address, haddress, rfl⟩ := List.mem_map.mp hnext
    exact ⟨⟨instruction, hinstruction, htargets ▸ haddress⟩, rfl⟩
  cases hinstruction : program[way.address]? with
  | none =>
    rw [hinstruction] at houtcome
    cases houtcome
    cases hnext
  | some instruction =>
    rw [hinstruction] at houtcome hgoes
    cases instruction with
    | take s =>
      cases hchar : text[way.place]? with
      | none =>
        simp only [hchar] at houtcome
        cases houtcome
        cases hnext
      | some c =>
        have hroom : way.place < text.size := (Array.getElem?_eq_some_iff.mp hchar).1
        simp only [hchar] at houtcome
        split_ifs at houtcome
        · exact (hgoes [way.address + 1] houtcome rfl rfl).imp id fun h => .inr ⟨h, hroom⟩
        · cases houtcome
          cases hnext
    | check l =>
      simp only at houtcome
      split_ifs at houtcome
      · exact (hgoes [way.address + 1] houtcome rfl rfl).imp id .inl
      · cases houtcome
        cases hnext
    | mark slot => exact (hgoes [way.address + 1] houtcome rfl rfl).imp id .inl
    | fork preferred other =>
      exact (hgoes [preferred, other] houtcome rfl rfl).imp id .inl
    | jump target => exact (hgoes [target] houtcome rfl rfl).imp id .inl
    | accept => cases houtcome

theorem Steps.within (hclosed : program.Closed) (hwithin : way.Within program text)
    (hsteps : Steps program text way next) : next.Within program text := by
  obtain ⟨⟨instruction, hinstruction, htarget⟩, hplace⟩ := hsteps.goes
  refine ⟨hclosed.targets _ _ hinstruction _ htarget, ?_⟩
  rcases hplace with hsame | ⟨hnext, hroom⟩
  · exact hsame ▸ hwithin.place_le
  · omega

/-! ## Ways as numbers -/

theorem Way.Within.key_lt (hwithin : way.Within program text) :
    way.key program < wayCount program text := by
  have haddress := hwithin.address_lt
  have hplace : way.place * program.size ≤ text.size * program.size :=
    Nat.mul_le_mul_right _ hwithin.place_le
  rw [Way.key, wayCount, Nat.add_mul]
  omega

/-- The number of a way tells its address and its place. -/
theorem Way.Within.eq_of_key (hwithin : way.Within program text)
    (hother : other.Within program text) (hkey : way.key program = other.key program) :
    way.address = other.address ∧ way.place = other.place := by
  have hdivide {w : Way} (hw : w.Within program text) :
      w.key program % program.size = w.address ∧ w.key program / program.size = w.place := by
    have hlt := hw.address_lt
    rw [Way.key, Nat.mul_comm]
    exact ⟨by rw [Nat.mul_add_mod, Nat.mod_eq_of_lt hlt],
      by rw [Nat.mul_add_div (by omega), Nat.div_eq_of_lt hlt, Nat.add_zero]⟩
  exact ⟨by rw [← (hdivide hwithin).1, hkey, (hdivide hother).1],
    by rw [← (hdivide hwithin).2, hkey, (hdivide hother).2]⟩

/-- There is room for a number that has not been seen. -/
theorem size_lt_of_new (hbelow : ∀ key ∈ seen, key < limit) {key : Nat} (hkey : key < limit)
    (hnew : key ∉ seen) : seen.size < limit := by
  have hnodup : (key :: seen.toList).Nodup := by
    refine List.nodup_cons.mpr ⟨by simpa using hnew, ?_⟩
    exact seen.distinct_toList.imp fun h => by simpa using h
  have hsubset : key :: seen.toList ⊆ List.range limit := by
    intro other hother
    rw [List.mem_range]
    rcases List.mem_cons.mp hother with rfl | hmem
    · exact hkey
    · exact hbelow other (by simpa using hmem)
  have hlength := (hnodup.subperm hsubset).length_le
  rw [List.length_cons, Std.HashSet.length_toList, List.length_range] at hlength
  exact hlength

def Outcome.keys? (program : Program) : Outcome → Option (List Nat)
  | .accepted => none
  | .next ways => some (ways.map (Way.key program))

/-- Marks have no part in what becomes of a way. -/
theorem keys_outcome (haddress : way.address = other.address)
    (hplace : way.place = other.place) :
    (way.outcome program text).keys? program = (other.outcome program text).keys? program := by
  obtain ⟨address, place, marks⟩ := way
  obtain ⟨_, _, others⟩ := other
  cases haddress
  cases hplace
  unfold Way.outcome
  cases program[address]? with
  | none => rfl
  | some instruction =>
    cases instruction with
    | take s =>
      cases text[place]? with
      | none => rfl
      | some c => by_cases hmem : s.contains c = true <;> simp [hmem, Outcome.keys?, Way.key]
    | check l => by_cases hholds : l.holds text place = true <;>
        simp [hholds, Outcome.keys?, Way.key]
    | mark | fork | jump | accept => rfl

/-! ## Following ways -/

/-- Ways with some numbers are not accepted, and go on to ways with such numbers or with
those of ways that wait. -/
def Followed (program : Program) (text : Text) (seen : Seen) (waiting : List Nat) : Prop :=
  ∀ way : Way, way.Within program text → way.key program ∈ seen →
    ∃ keys, (way.outcome program text).keys? program = some keys ∧
      ∀ key ∈ keys, key ∈ seen ∨ key ∈ waiting

/-- Where nothing waits, the ways that have been followed lead to no match. -/
theorem Followed.not_leads (hclosed : program.Closed)
    (hfollowed : Followed program text seen []) (hwithin : way.Within program text)
    (hseen : way.key program ∈ seen) : ¬Leads program text way := by
  rintro ⟨last, hreaches, haccepted⟩
  induction hreaches using ReflTransGen.head_induction_on with
  | refl =>
    obtain ⟨keys, hkeys, -⟩ := hfollowed last hwithin hseen
    rw [haccepted] at hkeys
    cases hkeys
  | @head first next hstep _ ih =>
    refine ih (hstep.within hclosed hwithin) ?_
    obtain ⟨keys, hkeys, hgoes⟩ := hfollowed first hwithin hseen
    obtain ⟨ways, houtcome, hnext⟩ := hstep
    rw [houtcome, Outcome.keys?, Option.some.injEq] at hkeys
    rcases hgoes _ (hkeys ▸ List.mem_map_of_mem hnext) with hnext | hwaiting
    · exact hnext
    · cases hwaiting

/-- A way that is followed takes its place among those that have been, and the ways that
it goes on to wait in its stead. -/
theorem Followed.insert {rest : List Way} (hwithin : way.Within program text)
    (houtcome : way.outcome program text = .next ways)
    (hfollowed : Followed program text seen ((way :: rest).map (Way.key program))) :
    Followed program text (seen.insert (way.key program))
      ((ways ++ rest).map (Way.key program)) := by
  intro other hother hmem
  rw [List.map_append]
  rcases Std.HashSet.mem_insert.mp hmem with hsame | hold
  · obtain ⟨haddress, hplace⟩ := hwithin.eq_of_key hother (eq_of_beq hsame)
    refine ⟨ways.map (Way.key program), ?_, fun key hkey => .inr (by simp [hkey])⟩
    rw [← keys_outcome haddress hplace, houtcome]
    rfl
  · obtain ⟨keys, hkeys, hgoes⟩ := hfollowed other hother hold
    refine ⟨keys, hkeys, fun key hkey => ?_⟩
    rcases hgoes key hkey with hseen | hwaiting
    · exact .inl (by simp [hseen])
    · rcases List.mem_cons.mp hwaiting with heq | hrest
      · exact .inl (by simp [heq])
      · exact .inr (List.mem_append_right _ hrest)

/-- A way that is found can be reached, and is accepted. -/
theorem follow_some (hfollow : follow program text limit ways seen = (some last, after)) :
    ∃ way ∈ ways, ReflTransGen (Steps program text) way last ∧
      last.outcome program text = .accepted := by
  fun_induction follow program text limit ways seen with
  | case1 => cases hfollow
  | case2 way rest seen hseen ih =>
    obtain ⟨first, hmem, hfirst⟩ := ih hfollow
    exact ⟨first, List.mem_cons_of_mem _ hmem, hfirst⟩
  | case3 way rest seen hnew hroom haccepted =>
    cases hfollow
    exact ⟨_, List.mem_cons_self, .refl, haccepted⟩
  | case4 way rest seen hnew hroom ways houtcome ih =>
    obtain ⟨first, hmem, hreaches, haccepted⟩ := ih hfollow
    rcases List.mem_append.mp hmem with hnext | hrest
    · exact ⟨way, by simp, .head ⟨ways, houtcome, hnext⟩ hreaches, haccepted⟩
    · exact ⟨first, by simp [hrest], hreaches, haccepted⟩
  | case5 => cases hfollow

/-- What stays true of the numbers of the ways that have been followed. -/
structure Searched (program : Program) (text : Text) (seen : Seen) (waiting : List Nat) :
    Prop where
  below : ∀ key ∈ seen, key < wayCount program text
  followed : Followed program text seen waiting

/-- If nothing is found, all ways have been followed. -/
theorem follow_none (hclosed : program.Closed)
    (hways : ∀ way ∈ ways, way.Within program text)
    (hsearched : Searched program text seen (ways.map (Way.key program)))
    (hfollow : follow program text (wayCount program text) ways seen = (none, after)) :
    Searched program text after [] ∧ (∀ key ∈ seen, key ∈ after) ∧
      ∀ way ∈ ways, way.key program ∈ after := by
  fun_induction follow program text (wayCount program text) ways seen with
  | case1 seen =>
    cases hfollow
    exact ⟨hsearched, fun _ hkey => hkey, by simp⟩
  | case2 way rest seen hseen ih =>
    have hrest : Searched program text seen (rest.map (Way.key program)) := by
      refine ⟨hsearched.below, fun other hother hmem => ?_⟩
      obtain ⟨keys, hkeys, hgoes⟩ := hsearched.followed other hother hmem
      refine ⟨keys, hkeys, fun key hkey => ?_⟩
      rcases hgoes key hkey with hold | hwaiting
      · exact .inl hold
      · rcases List.mem_cons.mp hwaiting with heq | hlater
        · exact .inl (heq ▸ hseen)
        · exact .inr hlater
    obtain ⟨hdone, hkeeps, hall⟩ := ih (fun w hw => hways w (by simp [hw])) hrest hfollow
    refine ⟨hdone, hkeeps, fun w hw => ?_⟩
    rcases List.mem_cons.mp hw with rfl | hlater
    · exact hkeeps _ hseen
    · exact hall w hlater
  | case3 => cases hfollow
  | case4 way rest seen hnew hroom ways houtcome ih =>
    have hway := hways way (by simp)
    have hnext : ∀ w ∈ ways ++ rest, w.Within program text := by
      intro w hw
      rcases List.mem_append.mp hw with hstep | hrest
      · exact Steps.within hclosed hway ⟨ways, houtcome, hstep⟩
      · exact hways w (by simp [hrest])
    have hbelow : ∀ key ∈ seen.insert (way.key program), key < wayCount program text := by
      intro key hkey
      rcases Std.HashSet.mem_insert.mp hkey with hsame | hold
      · exact eq_of_beq hsame ▸ hway.key_lt
      · exact hsearched.below key hold
    obtain ⟨hdone, hkeeps, hall⟩ :=
      ih hnext ⟨hbelow, hsearched.followed.insert hway houtcome⟩ hfollow
    refine ⟨hdone, fun key hkey => hkeeps key (by simp [hkey]), fun w hw => ?_⟩
    rcases List.mem_cons.mp hw with rfl | hrest
    · exact hkeeps _ (by simp)
    · exact hall w (by simp [hrest])
  | case5 way rest seen hnew hroom =>
    exact absurd (size_lt_of_new hsearched.below (hways way (by simp)).key_lt hnew) hroom

/-! ## Searching -/

/-- A match can be reached from its start, and from no place before that, counted from
where the search began, any match can. -/
structure Leftmost (program : Program) (text : Text) (start : Nat) (found : Match) : Prop where
  start_le : start ≤ found.start
  start_le_size : found.start ≤ text.size
  reached : ∃ last, ReflTransGen (Steps program text) ⟨0, found.start, []⟩ last ∧
    last.outcome program text = .accepted ∧ last.place = found.stop ∧ last.marks = found.marks
  first : ∀ place, start ≤ place → place < found.start → ¬Leads program text ⟨0, place, []⟩

/-- A starting place from which nothing is found leads to no match, and leaves the search
as it should be for the next one. -/
theorem searched_next (hclosed : program.Closed) (hsearched : Searched program text seen [])
    (hplace : place ≤ text.size)
    (hfollow : follow program text (wayCount program text) [⟨0, place, []⟩] seen =
      (none, after)) :
    Searched program text after [] ∧ ¬Leads program text ⟨0, place, []⟩ := by
  have hwithin : Way.Within program text ⟨0, place, []⟩ := ⟨hclosed.pos, hplace⟩
  have hwaits : Searched program text seen ([⟨0, place, []⟩].map (Way.key program)) := by
    refine ⟨hsearched.below, fun way hway hmem => ?_⟩
    obtain ⟨keys, hkeys, hgoes⟩ := hsearched.followed way hway hmem
    refine ⟨keys, hkeys, fun key hkey => .inl ?_⟩
    rcases hgoes key hkey with hseen | hwaiting
    · exact hseen
    · cases hwaiting
  obtain ⟨hafter, -, hall⟩ := follow_none hclosed (by simpa using hwithin) hwaits hfollow
  exact ⟨hafter, hafter.followed.not_leads hclosed hwithin (hall _ (by simp))⟩

/-- Where a search finds nothing, no place that it tried leads to a match. -/
theorem searchFrom_none (hclosed : program.Closed) (hsearched : Searched program text seen [])
    (hend : start + tries ≤ text.size + 1)
    (hnone : searchFrom program text tries start seen = none)
    (hfrom : start ≤ place) (hto : place < start + tries) :
    ¬Leads program text ⟨0, place, []⟩ := by
  induction tries generalizing start seen with
  | zero => omega
  | succ tries ih =>
    rw [searchFrom] at hnone
    rcases hfollow : follow program text (wayCount program text) [⟨0, start, []⟩] seen with
      ⟨_ | last, after⟩
    · simp only [hfollow] at hnone
      obtain ⟨hafter, hstart⟩ := searched_next hclosed hsearched (by omega) hfollow
      by_cases heq : place = start
      · rwa [heq]
      · exact ih hafter (by omega) hnone (by omega) (by omega)
    · simp only [hfollow] at hnone
      cases hnone

/-- The match that a search finds is the leftmost. -/
theorem searchFrom_some (hclosed : program.Closed) (hsearched : Searched program text seen [])
    (hend : start + tries ≤ text.size + 1)
    (hsome : searchFrom program text tries start seen = some found) :
    Leftmost program text start found := by
  induction tries generalizing start seen with
  | zero => cases hsome
  | succ tries ih =>
    rw [searchFrom] at hsome
    rcases hfollow : follow program text (wayCount program text) [⟨0, start, []⟩] seen with
      ⟨_ | last, after⟩
    · simp only [hfollow] at hsome
      obtain ⟨hafter, hstart⟩ := searched_next hclosed hsearched (by omega) hfollow
      have hrest := ih hafter (by omega) hsome
      refine ⟨Nat.le_trans (Nat.le_succ _) hrest.start_le, hrest.start_le_size, hrest.reached,
        fun place hfrom hto => ?_⟩
      by_cases heq : place = start
      · rwa [heq]
      · exact hrest.first place (by omega) hto
    · simp only [hfollow, Option.some.injEq] at hsome
      subst hsome
      obtain ⟨way, hway, hreaches, haccepted⟩ := follow_some hfollow
      rw [List.mem_singleton] at hway
      subst hway
      have hle : start ≤ text.size := by omega
      exact ⟨Nat.le_refl _, hle, ⟨last, hreaches, haccepted, rfl, rfl⟩,
        fun place hfrom hto => absurd hto (Nat.not_lt.mpr hfrom)⟩

theorem searched_empty (program : Program) (text : Text) : Searched program text ∅ [] :=
  ⟨fun _ hkey => absurd hkey Std.HashSet.not_mem_empty,
    fun _ _ hkey => absurd hkey Std.HashSet.not_mem_empty⟩

/-- If a search finds nothing, there is no match from any place on. -/
theorem search_none (hclosed : program.Closed) (hnone : search program text start = none)
    (hfrom : start ≤ place) (hto : place ≤ text.size) : ¬Leads program text ⟨0, place, []⟩ := by
  apply searchFrom_none hclosed (searched_empty program text) _ hnone hfrom
  · omega
  · omega

/-- A search finds the leftmost match. -/
theorem search_some (hclosed : program.Closed) (hsome : search program text start = some found) :
    Leftmost program text start found := by
  by_cases hstart : start ≤ text.size
  · exact searchFrom_some hclosed (searched_empty program text) (by omega) hsome
  · rw [search, show text.size + 1 - start = 0 by omega] at hsome
    cases hsome

end Emend.Pattern
