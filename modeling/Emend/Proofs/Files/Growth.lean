import Emend.Proofs.Files.Access

/-!
# Trees that grow

Files are made and written, but nothing is taken away: what was there stays there and
stays of its kind, and every path that led somewhere leads to the same place.  A tree
that is well formed stays so, since no path leads to a location with an improper name.
-/

namespace Emend

namespace Path

variable {path : Path} {part : Bytes}

theorem no_slash_of_split (hpart : part ∈ split path) : slash ∉ part := by
  rw [split] at hpart
  induction path generalizing part with
  | nil => simp_all [List.splitOn_nil]
  | cons byte path ih =>
    rw [List.splitOn_cons_eq_if_modifyHead] at hpart
    split_ifs at hpart with hbyte
    · rcases List.mem_cons.mp hpart with rfl | hlater
      · simp
      · exact ih hlater
    · cases hsplit : path.splitOn slash with
      | nil => exact absurd hsplit (List.splitOn_ne_nil _ _)
      | cons first rest =>
        rw [hsplit] at hpart ih
        rcases List.mem_cons.mp hpart with rfl | hlater
        · simpa [eq_comm] using ⟨by simpa using hbyte, ih (by simp)⟩
        · exact ih (by simp [hlater])

end Path

namespace Files

variable {files before middle after : Files} {path : Path} {location : Location}
  {entry : Entry} {content : Bytes}

/-! ## Growing -/

/-- The trees have the same directories and links, and every file of the first is one of
the second. -/
structure Grows (before after : Files) : Prop where
  shape : before.SameShape after
  kept : ∀ location content, before.tree.entry? location = some (.file content) →
    ∃ now, after.tree.entry? location = some (.file now)

namespace Grows

theorem refl (files : Files) : files.Grows files :=
  ⟨.refl files, fun _ content hentry => ⟨content, hentry⟩⟩

theorem trans (hfirst : before.Grows middle) (hsecond : middle.Grows after) :
    before.Grows after := by
  refine ⟨hfirst.shape.trans hsecond.shape, fun location content hentry => ?_⟩
  obtain ⟨now, hnow⟩ := hfirst.kept location content hentry
  exact hsecond.kept location now hnow

theorem store (hopen : files.tree.IsOpen location) (content : Bytes) :
    files.Grows (files.store location content) := by
  refine ⟨sameShape_store hopen, fun place old hold => ?_⟩
  rw [entry_store hopen]
  split_ifs
  · exact ⟨content, rfl⟩
  · exact ⟨old, hold⟩

/-- Everything keeps its kind, and directories and links are what they were. -/
theorem stays (hgrows : before.Grows after) (hentry : before.tree.entry? location = some entry) :
    ∃ now, after.tree.entry? location = some now ∧ now.kind = entry.kind ∧
      (entry.kind ≠ .file → now = entry) := by
  by_cases hkind : entry.kind = .file
  · cases entry with
    | file content =>
      obtain ⟨now, hnow⟩ := hgrows.kept location content hentry
      exact ⟨_, hnow, rfl, fun hne => absurd hkind hne⟩
    | directory | link => cases hkind
  · exact ⟨entry, (hgrows.shape.tree location entry hkind).mp hentry, rfl, fun _ => rfl⟩

/-- What is new is a file. -/
theorem file_of_new (hgrows : before.Grows after) (hnone : before.tree.entry? location = none)
    (hentry : after.tree.entry? location = some entry) : entry.kind = .file :=
  Tree.isOpen_iff.mp (hgrows.shape.tree.isOpen (.inl hnone)) entry hentry

/-- A path leads where it led. -/
theorem leads {follow : Bool} (hgrows : before.Grows after)
    (hlocate : before.locate ⟨follow, false⟩ path = .ok (.found location entry)) :
    ∃ now, after.locate ⟨follow, false⟩ path = .ok (.found location now) ∧
      now.kind = entry.kind := by
  have hafter := locate_renew hgrows.shape hlocate
  cases entry with
  | file content =>
    obtain ⟨-, hreaches⟩ := locate_eq_ok_iff.mp hlocate
    obtain ⟨now, hnow⟩ :=
      hgrows.kept location content (hreaches.found_entry rfl (by simp))
    rw [Spot.renew_open (.inr ⟨content, rfl⟩), hnow] at hafter
    exact ⟨_, hafter, rfl⟩
  | directory | link => exact ⟨_, hafter, rfl⟩

end Grows

/-! ## Well-formed files -/

/-- The tree is well formed, and it is seen from a directory with a proper location. -/
structure WellFormed (files : Files) : Prop where
  tree : files.tree.WellFormed
  here : ∀ name ∈ files.here, name.Proper

theorem no_slash_of_steps {name : Name} (hname : name ∈ steps path) : Path.slash ∉ name := by
  have hsplit {part : Bytes} (hpart : part ∈ (Path.split path).filter (· ≠ [])) :
      Path.slash ∉ part := Path.no_slash_of_split (List.mem_of_mem_filter hpart)
  unfold steps at hname
  split_ifs at hname
  · rcases List.mem_append.mp hname with hpart | hend
    · exact hsplit hpart
    · simp [List.mem_singleton.mp hend]
  · exact hsplit hname

theorem LooksUp.proper {manner : Manner} {name : Name} {rest : List Name}
    (hname : LooksUp manner name rest) (hslash : Path.slash ∉ name) : name.Proper where
  ne_nil hnil := hname.moves (.inl hnil)
  no_slash := hslash
  ne_dot hdot := hname.moves (.inr hdot)
  ne_dots := hname.ne_dots

/-- A free name that a walk comes to is proper, and so are those above it. -/
theorem Reaches.proper {tree : Tree} {manner : Manner} {links : Nat} {directory : Location}
    {names : List Name} {spot : Spot} (hwell : tree.WellFormed)
    (hreaches : Reaches tree manner links directory names spot)
    (hdirectory : ∀ name ∈ directory, name.Proper) (hnames : ∀ name ∈ names, Path.slash ∉ name)
    (hspot : spot = .free location) : ∀ name ∈ location, name.Proper := by
  -- Everything on the way stands in the tree, but for the last name.
  induction hreaches with
  | here | file | link => cases hspot
  | stay _ _ ih => exact ih hdirectory (fun name hname => hnames name (by simp [hname])) hspot
  | up _ ih =>
    exact ih (fun name hname => hdirectory name (List.dropLast_subset _ hname))
      (fun name hname => hnames name (by simp [hname])) hspot
  | free hname _ =>
    cases hspot
    intro part hpart
    rcases List.mem_append.mp hpart with hfront | hlast
    · exact hdirectory part hfront
    · rw [List.mem_singleton.mp hlast]
      exact hname.proper (hnames _ (by simp))
  | enter _ hentry _ ih =>
    exact ih (fun name hname => hwell.proper_of_entry hentry hname)
      (fun name hname => hnames name (by simp [hname])) hspot
  | @follow _ directory _ _ target _ _ _ _ _ ih =>
    refine ih (fun name hname => ?_) (fun name hname => ?_) hspot
    · unfold origin at hname
      split_ifs at hname
      · cases hname
      · exact hdirectory name hname
    · rcases List.mem_append.mp hname with hstep | hlater
      · exact no_slash_of_steps hstep
      · exact hnames name (by simp [hlater])

namespace WellFormed

theorem proper_of_slot (hwell : files.WellFormed) (hslot : files.slot? path = some location) :
    ∀ name ∈ location, name.Proper := by
  obtain ⟨spot, hlocate, hspot⟩ := slot_eq_some_iff.mp hslot
  obtain ⟨-, hreaches⟩ := locate_eq_ok_iff.mp hlocate
  rcases spot with ⟨_, _ | _ | _⟩ | _ <;> cases hspot
  · have hentry := hreaches.found_entry rfl (by simp)
    exact fun name hname => hwell.tree.proper_of_entry hentry hname
  · apply hreaches.proper hwell.tree _ (fun _ => no_slash_of_steps) rfl
    intro name hname
    unfold origin at hname
    split_ifs at hname
    · cases hname
    · exact hwell.here name hname

theorem store (hwell : files.WellFormed) (hslot : files.slot? path = some location) :
    (files.store location content).WellFormed :=
  ⟨hwell.tree.put (isOpen_of_slot hslot).ne_nil (hwell.proper_of_slot hslot), hwell.here⟩

end WellFormed

end Files

end Emend
