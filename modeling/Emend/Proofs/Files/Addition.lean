import Emend.Proofs.Files.Growth

/-!
# One file more

Where one file has come to a tree, a path leads where it led, unless it was free to make
that file, or led nowhere and may end at the file now.  Writing past the new file is
writing as before.
-/

namespace Emend.Files

variable {files before after : Files} {place location : Location} {content : Bytes}
  {path : Path} {manner : Manner} {links : Nat} {directory : Location} {names : List Name}

/-- A file has come to a place where nothing was, and nothing else has changed. -/
structure Adds (place : Location) (content : Bytes) (before after : Files) : Prop where
  here : before.here = after.here
  sizeLimit : before.sizeLimit = after.sizeLimit
  free : before.tree.entry? place = none
  entry : ∀ location, after.tree.entry? location =
    if location = place then some (.file content) else before.tree.entry? location

theorem adds_store (hfree : files.tree.entry? place = none) (content : Bytes) :
    Adds place content files (files.store place content) :=
  ⟨rfl, rfl, hfree, fun _ => entry_store (.inl hfree)⟩

namespace Adds

variable (hadds : Adds place content before after)
include hadds

theorem ne_of_entry {entry : Entry} (hentry : before.tree.entry? location = some entry) :
    location ≠ place := by
  rintro rfl
  rw [hadds.free] at hentry
  cases hentry

theorem entry_of_ne (hne : location ≠ place) :
    after.tree.entry? location = before.tree.entry? location := by
  rw [hadds.entry, if_neg hne]

/-- What was there stays as it was. -/
theorem keeps {entry : Entry} (hentry : before.tree.entry? location = some entry) :
    after.tree.entry? location = some entry := by
  rw [hadds.entry_of_ne (hadds.ne_of_entry hentry), hentry]

theorem grows : before.Grows after := by
  refine ⟨⟨hadds.here, hadds.sizeLimit, fun location entry hkind => ?_⟩,
    fun location content hentry => ⟨content, hadds.keeps hentry⟩⟩
  refine ⟨hadds.keeps, fun hentry => ?_⟩
  rw [hadds.entry] at hentry
  split_ifs at hentry
  · cases hentry
    exact absurd rfl hkind
  · exact hentry

/-- Storing the same elsewhere leaves the new file the only difference. -/
theorem store (hopen : before.tree.IsOpen location) (hne : location ≠ place) (stored : Bytes) :
    Adds place content (before.store location stored) (after.store location stored) := by
  have hopen' : after.tree.IsOpen location := hadds.grows.shape.tree.isOpen hopen
  refine ⟨hadds.here, hadds.sizeLimit, ?_, fun other => ?_⟩
  · rw [entry_store hopen, if_neg hne.symm, hadds.free]
  · rw [entry_store hopen, entry_store hopen', hadds.entry]
    by_cases hother : other = location
    · simp [hother, hne]
    · simp [hother]

/-! ## Where paths lead -/

/-- A walk ends as it did, unless it came to the free place, or to where something was
missing on its way. -/
theorem walk_cases (manner : Manner) (links : Nat) (directory : Location) (names : List Name) :
    walk after.tree manner links directory names =
        walk before.tree manner links directory names ∨
      walk before.tree manner links directory names = .ok (.free place) ∨
      walk before.tree manner links directory names = .error .notFound := by
  fun_induction walk before.tree manner links directory names with
  | case1 links directory => exact .inl (walk.eq_def ..)
  | case2 links directory name rest hname ih =>
    rw [walk_of_stay hname]
    exact ih
  | case3 links directory rest hmoves ih =>
    rw [walk_up]
    exact ih
  | case4 links directory name rest hmoves hdots hopens =>
    rw [walk.eq_def]
    simp only [if_neg hmoves, if_neg hdots, if_pos hopens]
    exact .inl trivial
  | case5 links directory name rest hmoves hdots hopens hlength =>
    rw [walk.eq_def]
    simp only [if_neg hmoves, if_neg hdots, if_neg hopens, if_pos hlength]
    exact .inl trivial
  | case6 links directory name hmoves hdots hlength location hentry hopens =>
    by_cases hplace : location = place
    · exact .inr (.inl (by rw [hplace]))
    · rw [walk_of_looksUp ⟨hmoves, hdots, hopens, Nat.not_lt.mp hlength⟩,
        hadds.entry_of_ne hplace, hentry]
      exact .inl rfl
  | case7 => exact .inr (.inr rfl)
  | case8 links directory name rest hmoves hdots hopens hlength location hentry ih =>
    rw [walk_of_looksUp ⟨hmoves, hdots, hopens, Nat.not_lt.mp hlength⟩, hadds.keeps hentry]
    exact ih
  | case9 links directory name hmoves hdots hlength location content hentry hopens =>
    rw [walk_of_looksUp ⟨hmoves, hdots, hopens, Nat.not_lt.mp hlength⟩, hadds.keeps hentry]
    exact .inl rfl
  | case10 links directory name rest hmoves hdots hopens hlength location content hentry hrest =>
    rw [walk_of_looksUp ⟨hmoves, hdots, hopens, Nat.not_lt.mp hlength⟩, hadds.keeps hentry]
    simp only [if_neg hrest]
    exact .inl trivial
  | case11 links directory name rest hmoves hdots hopens hlength location target hentry hend =>
    rw [walk_of_looksUp ⟨hmoves, hdots, hopens, Nat.not_lt.mp hlength⟩, hadds.keeps hentry]
    simp only [if_pos hend]
    exact .inl rfl
  | case12 directory name rest hmoves hdots hopens hlength location target hentry hend =>
    rw [walk_of_looksUp ⟨hmoves, hdots, hopens, Nat.not_lt.mp hlength⟩, hadds.keeps hentry]
    simp only [if_neg hend]
    exact .inl trivial
  | case13 directory name rest hmoves hdots hopens hlength location target hentry hend links ih =>
    rw [walk_of_looksUp ⟨hmoves, hdots, hopens, Nat.not_lt.mp hlength⟩, hadds.keeps hentry]
    simp only [if_neg hend]
    simpa only [origin, dite_eq_ite] using ih

theorem locate_cases (manner : Manner) (path : Path) :
    after.locate manner path = before.locate manner path ∨
      before.locate manner path = .ok (.free place) ∨
      before.locate manner path = .error .notFound := by
  simp only [locate, ← hadds.here]
  split_ifs
  · exact .inl rfl
  · exact .inl rfl
  · exact .inl rfl
  · exact hadds.walk_cases manner linkLimit _ (steps path)
  · exact hadds.walk_cases manner linkLimit _ (steps path)

end Adds

/-- With a file to be made, a walk ends as without, or is refused for a slash at its end. -/
theorem walk_create (tree : Tree) (follow : Bool) (links : Nat) (directory : Location)
    (names : List Name) :
    walk tree ⟨follow, true⟩ links directory names =
        walk tree ⟨follow, false⟩ links directory names ∨
      walk tree ⟨follow, true⟩ links directory names = .error .isDirectory := by
  generalize hmanner : Manner.mk follow true = manner
  fun_induction walk tree manner links directory names with
  | case1 links directory =>
    rw [walk.eq_def]
    exact .inl rfl
  | case2 links directory name rest hname ih =>
    rw [walk_of_stay hname]
    exact ih
  | case3 links directory rest hmoves ih =>
    rw [walk_up]
    exact ih
  | case4 => exact .inr rfl
  | case5 links directory name rest hmoves hdots hopens hlength =>
    rw [walk.eq_def]
    simp [hmoves, hdots, hlength]
  | case6 links directory name hmoves hdots hlength location hentry hopens =>
    rw [walk_of_looksUp ⟨hmoves, hdots, by simp, Nat.not_lt.mp hlength⟩, hentry]
    exact .inl rfl
  | case7 links directory name rest hmoves hdots hopens hlength location hentry hrest =>
    rw [walk_of_looksUp ⟨hmoves, hdots, by simp, Nat.not_lt.mp hlength⟩, hentry]
    simp only [if_neg hrest]
    exact .inl trivial
  | case8 links directory name rest hmoves hdots hopens hlength location hentry ih =>
    rw [walk_of_looksUp ⟨hmoves, hdots, by simp, Nat.not_lt.mp hlength⟩, hentry]
    exact ih
  | case9 links directory name hmoves hdots hlength location content hentry hopens =>
    rw [walk_of_looksUp ⟨hmoves, hdots, by simp, Nat.not_lt.mp hlength⟩, hentry]
    exact .inl rfl
  | case10 links directory name rest hmoves hdots hopens hlength location content hentry hrest =>
    rw [walk_of_looksUp ⟨hmoves, hdots, by simp, Nat.not_lt.mp hlength⟩, hentry]
    simp only [if_neg hrest]
    exact .inl trivial
  | case11 links directory name rest hmoves hdots hopens hlength location target hentry hend =>
    subst hmanner
    rw [walk_of_looksUp ⟨hmoves, hdots, by simp, Nat.not_lt.mp hlength⟩, hentry]
    simp only [if_pos hend]
    exact .inl rfl
  | case12 directory name rest hmoves hdots hopens hlength location target hentry hend =>
    subst hmanner
    rw [walk_of_looksUp ⟨hmoves, hdots, by simp, Nat.not_lt.mp hlength⟩, hentry]
    simp only [if_neg hend]
    exact .inl trivial
  | case13 directory name rest hmoves hdots hopens hlength location target hentry hend links ih =>
    subst hmanner
    rw [walk_of_looksUp ⟨hmoves, hdots, by simp, Nat.not_lt.mp hlength⟩, hentry]
    simp only [if_neg hend]
    simpa only [origin, dite_eq_ite] using ih

theorem locate_create (files : Files) (follow : Bool) (path : Path) :
    files.locate ⟨follow, true⟩ path = files.locate ⟨follow, false⟩ path ∨
      files.locate ⟨follow, true⟩ path = .error .isDirectory := by
  simp only [locate]
  split_ifs
  · exact .inl rfl
  · exact .inl rfl
  · exact .inl rfl
  · exact walk_create ..
  · exact walk_create ..

namespace Adds

variable (hadds : Adds place content before after)
  (hslot : before.slot? path ≠ some place)
  (hfound : before.locate ⟨true, false⟩ path ≠ .error .notFound)
include hadds hslot hfound

/-- Where a path misses the new file, it leads where it led. -/
theorem locate_eq (create : Bool) :
    after.locate ⟨true, create⟩ path = before.locate ⟨true, create⟩ path := by
  have hmissing : before.locate ⟨true, create⟩ path ≠ .error .notFound := by
    cases create with
    | false => exact hfound
    | true =>
      rcases before.locate_create true path with hsame | hslash
      · rwa [hsame]
      · simp [hslash]
  have hfree : before.locate ⟨true, create⟩ path ≠ .ok (.free place) := by
    intro hlocate
    apply hslot
    cases create with
    | false =>
      obtain ⟨hpath, hreaches⟩ := locate_eq_ok_iff.mp hlocate
      have hopens := locate_eq_ok_iff.mpr ⟨hpath, hreaches.opening (by simp)⟩
      exact slot_eq_some_iff.mpr ⟨_, hopens, rfl⟩
    | true => exact slot_eq_some_iff.mpr ⟨_, hlocate, rfl⟩
  rcases hadds.locate_cases ⟨true, create⟩ path with hsame | hplace | hnone
  · exact hsame
  · exact absurd hplace hfree
  · exact absurd hnone hmissing

/-- A path that misses the new file reads what it read. -/
theorem read_eq : after.read path = before.read path := by
  rw [read, read, Files.entry, Files.entry, hadds.locate_eq hslot hfound]

/-- Writing has the same outcome, and leaves the new file the only difference. -/
theorem write (stored : Bytes) :
    (after.write path stored).1 = (before.write path stored).1 ∧
      Adds place content (before.write path stored).2 (after.write path stored).2 := by
  have hkept : after.kept stored = before.kept stored := by
    rw [kept, kept, hadds.sizeLimit]
  cases hplace : before.slot? path with
  | none =>
    simp only [Files.write, hadds.locate_eq hslot hfound]
    cases hlocate : before.locate ⟨true, true⟩ path with
    | error e => exact ⟨rfl, hadds⟩
    | ok spot =>
      have hnone : spot.slot? = none := by
        simpa [slot?, hlocate] using hplace
      rcases spot with ⟨_, _ | _ | _⟩ | _ <;> cases hnone <;> exact ⟨rfl, hadds⟩
  | some location =>
    have hafter : after.slot? path = some location := by
      rw [← hadds.grows.shape.slot_eq, hplace]
    rw [write_of_slot hplace, write_of_slot hafter, fill, fill, hkept]
    have hne : location ≠ place := fun heq => hslot (heq ▸ hplace)
    exact ⟨rfl, hadds.store (isOpen_of_slot hplace) hne _⟩

end Adds

end Emend.Files
