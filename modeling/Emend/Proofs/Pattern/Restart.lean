import Emend.Proofs.Pattern.Search

/-!
# Searching from another place

What has been followed in vain from one place takes nothing away from the next one.  The
match that a search finds is therefore the one that a search from its own start finds: what
is preferred at a place does not depend on where the search has begun.
-/

namespace Emend.Pattern

variable {program : Program} {text : Text} {way : Way} {ways fewer front : List Way}
  {seen more dead : Seen} {start tries : Nat} {found : Match}

/-- Some ways are left out, with numbers that have been followed in vain. -/
inductive Thins (program : Program) (dead : Seen) : List Way → List Way → Prop
  | nil : Thins program dead [] []
  | keep {way : Way} {fewer ways : List Way} (hrest : Thins program dead fewer ways) :
    Thins program dead (way :: fewer) (way :: ways)
  | leave {way : Way} {fewer ways : List Way} (hdead : way.key program ∈ dead)
    (hrest : Thins program dead fewer ways) : Thins program dead fewer (way :: ways)

namespace Thins

theorem refl : ∀ ways : List Way, Thins program dead ways ways
  | [] => .nil
  | _ :: ways => .keep (refl ways)

theorem append (hrest : Thins program dead fewer ways) :
    ∀ front : List Way, Thins program dead (front ++ fewer) (front ++ ways)
  | [] => hrest
  | _ :: front => .keep (hrest.append front)

theorem leave_all (hrest : Thins program dead fewer ways)
    (hfront : ∀ way ∈ front, way.key program ∈ dead) : Thins program dead fewer (front ++ ways) := by
  induction front with
  | nil => exact hrest
  | cons way front ih =>
    exact .leave (hfront way List.mem_cons_self)
      (ih fun other hother => hfront other (List.mem_cons_of_mem _ hother))

end Thins

/-- What has been followed in vain goes on to nothing else. -/
theorem Followed.exists_next (hdead : Followed program text dead [])
    (hwithin : way.Within program text) (hmem : way.key program ∈ dead) :
    ∃ ways, way.outcome program text = .next ways ∧ ∀ next ∈ ways, next.key program ∈ dead := by
  obtain ⟨keys, hkeys, hgoes⟩ := hdead way hwithin hmem
  cases houtcome : way.outcome program text with
  | accepted =>
    rw [houtcome] at hkeys
    cases hkeys
  | next ways =>
    rw [houtcome, Outcome.keys?, Option.some.injEq] at hkeys
    refine ⟨ways, rfl, fun next hnext => ?_⟩
    rcases hgoes _ (hkeys ▸ List.mem_map_of_mem hnext) with hold | hwaiting
    · exact hold
    · cases hwaiting

/-- Whether ways that have been followed in vain are followed again makes no difference. -/
theorem follow_thinned (hclosed : program.Closed) (hdead : Searched program text dead [])
    (hways : ∀ way ∈ ways, way.Within program text)
    (hbelow : ∀ key ∈ seen, key < wayCount program text) (hthins : Thins program dead fewer ways)
    (hmore : ∀ key, key ∈ more ↔ key ∈ seen ∨ key ∈ dead) :
    (follow program text (wayCount program text) fewer more).1 =
      (follow program text (wayCount program text) ways seen).1 := by
  have hroom {way : Way} (hwithin : way.Within program text) {more : Seen}
      (hmore : ∀ key ∈ more, key < wayCount program text) (hnew : way.key program ∉ more) :
      more.size < wayCount program text := size_lt_of_new hmore hwithin.key_lt hnew
  fun_induction follow program text (wayCount program text) ways seen generalizing fewer more with
  | case1 seen =>
    cases hthins
    rw [follow]
  | case2 way rest seen hseen ih =>
    have hrest := fun w hw => hways w (List.mem_cons_of_mem way hw)
    cases hthins with
    | keep hthins =>
      rw [follow, if_pos ((hmore _).mpr (.inl hseen))]
      exact ih hrest hbelow hthins hmore
    | leave _ hthins => exact ih hrest hbelow hthins hmore
  | case3 way rest seen hnew _ haccepted =>
    have hwithin := hways way List.mem_cons_self
    have halive : way.key program ∉ dead := fun hmem => by
      obtain ⟨ways, hnext, -⟩ := hdead.followed.exists_next hwithin hmem
      rw [haccepted] at hnext
      cases hnext
    cases hthins with
    | keep _ =>
      have hout : way.key program ∉ more := fun hmem => ((hmore _).mp hmem).elim hnew halive
      have hall : ∀ key ∈ more, key < wayCount program text := fun key hkey =>
        ((hmore key).mp hkey).elim (hbelow key) (hdead.below key)
      rw [follow, if_neg hout, if_pos (hroom hwithin hall hout), haccepted]
    | leave hmem _ => exact absurd hmem halive
  | case4 way rest seen hnew _ ways houtcome ih =>
    have hwithin := hways way List.mem_cons_self
    have hnext : ∀ w ∈ ways ++ rest, w.Within program text := by
      intro w hw
      rcases List.mem_append.mp hw with hstep | hrest
      · exact Steps.within hclosed hwithin ⟨ways, houtcome, hstep⟩
      · exact hways w (List.mem_cons_of_mem way hrest)
    have hinsert : ∀ key ∈ seen.insert (way.key program), key < wayCount program text := by
      intro key hkey
      rcases Std.HashSet.mem_insert.mp hkey with hsame | hold
      · exact eq_of_beq hsame ▸ hwithin.key_lt
      · exact hbelow key hold
    by_cases hmem : way.key program ∈ dead
    · -- all that the way goes on to has been followed in vain as well
      obtain ⟨_, hsame, hkeys⟩ := hdead.followed.exists_next hwithin hmem
      rw [houtcome] at hsame
      cases hsame
      have hstill : ∀ key, key ∈ more ↔ key ∈ seen.insert (way.key program) ∨ key ∈ dead := by
        intro key
        rw [hmore, Std.HashSet.mem_insert, beq_iff_eq]
        grind
      cases hthins with
      | keep hthins =>
        rw [follow, if_pos ((hmore _).mpr (.inr hmem))]
        exact ih hnext hinsert (hthins.leave_all hkeys) hstill
      | leave _ hthins => exact ih hnext hinsert (hthins.leave_all hkeys) hstill
    · cases hthins with
      | keep hthins =>
        have hout : way.key program ∉ more := fun hin => ((hmore _).mp hin).elim hnew hmem
        have hall : ∀ key ∈ more, key < wayCount program text := fun key hkey =>
          ((hmore key).mp hkey).elim (hbelow key) (hdead.below key)
        rw [follow, if_neg hout, if_pos (hroom hwithin hall hout), houtcome]
        refine ih hnext hinsert (hthins.append ways) fun key => ?_
        rw [Std.HashSet.mem_insert, Std.HashSet.mem_insert, hmore, or_assoc]
      | leave hother _ => exact absurd hother hmem
  | case5 way rest seen hnew hfull =>
    exact absurd (hroom (hways way List.mem_cons_self) hbelow hnew) hfull

/-- From a starting place the same is found whatever has been followed in vain before. -/
theorem follow_restart (hclosed : program.Closed) (hdead : Searched program text dead [])
    (hstart : start ≤ text.size) :
    (follow program text (wayCount program text) [⟨0, start, []⟩] dead).1 =
      (follow program text (wayCount program text) [⟨0, start, []⟩] ∅).1 := by
  refine follow_thinned hclosed hdead ?_ (searched_empty program text).below (.refl _) fun key => ?_
  · intro way hway
    rw [List.mem_singleton] at hway
    rw [hway]
    exact ⟨hclosed.pos, hstart⟩
  · simp

/-- What a search finds after starts in vain is what it finds right from where the match begins. -/
theorem searchFrom_restart (hclosed : program.Closed) (hsearched : Searched program text seen [])
    (hend : start + tries ≤ text.size + 1)
    (hsome : searchFrom program text tries start seen = some found) :
    search program text found.start = some found := by
  induction tries generalizing start seen with
  | zero => cases hsome
  | succ tries ih =>
    have hstart : start ≤ text.size := by omega
    have hrestart := follow_restart hclosed hsearched hstart
    rw [searchFrom] at hsome
    rcases hfollow : follow program text (wayCount program text) [⟨0, start, []⟩] seen with
      ⟨_ | last, after⟩
    · simp only [hfollow] at hsome
      exact ih (searched_next hclosed hsearched hstart hfollow).1 (by omega) hsome
    · simp only [hfollow, Option.some.injEq] at hsome
      subst hsome
      rcases hagain : follow program text (wayCount program text) [⟨0, start, []⟩] ∅ with
        ⟨other, rest⟩
      rw [hfollow, hagain] at hrestart
      cases hrestart
      change search program text start = _
      rw [search, show text.size + 1 - start = text.size - start + 1 by omega, searchFrom, hagain]

/-- A search from where a match begins finds this match again. -/
theorem search_restart (hclosed : program.Closed) (hsome : search program text start = some found) :
    search program text found.start = some found := by
  by_cases hstart : start ≤ text.size
  · exact searchFrom_restart hclosed (searched_empty program text) (by omega) hsome
  · rw [search, show text.size + 1 - start = 0 by omega] at hsome
    cases hsome

end Emend.Pattern
