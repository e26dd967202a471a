import Emend.Proofs.Files.Resolution

/-!
# Reading and writing through paths

Every path has at most one slot: the location of the file that it leads to, or of
the file that writing to it would make.  Reading gives what is at the slot, and
writing puts content there.  Slots depend on the shape of the tree alone, so they
stay the same however many files are written.
-/

namespace Emend

def Spot.slot? : Spot → Option Location
  | .free location | .found location (.file _) => some location
  | .found _ .directory | .found _ (.link _) => none

@[simp]
theorem Spot.slot_renew (tree : Tree) (spot : Spot) : (spot.renew tree).slot? = spot.slot? := by
  rcases spot with ⟨location, _ | _ | _⟩ | location
  · simp only [renew]
    split <;> rfl
  · rfl
  · rfl
  · simp only [renew]
    split <;> rfl

namespace Files

variable {files before after : Files} {path other : Path} {location : Location}
  {manner : Manner} {spot : Spot} {content kept : Bytes}

/-- The location of the file that a path leads to, or that writing to it would make. -/
def slot? (files : Files) (path : Path) : Option Location :=
  match files.locate ⟨true, true⟩ path with
  | .ok spot => spot.slot?
  | .error _ => none

def fileAt? (files : Files) (path : Path) : Option Location :=
  match files.locate ⟨true, false⟩ path with
  | .ok (.found location (.file _)) => some location
  | _ => none

/-- The files lie in trees of one shape and are seen from the same place. -/
structure SameShape (before after : Files) : Prop where
  here : before.here = after.here
  sizeLimit : before.sizeLimit = after.sizeLimit
  tree : before.tree.SameShape after.tree

namespace SameShape

theorem refl (files : Files) : files.SameShape files := ⟨rfl, rfl, .refl _⟩

theorem symm (hshape : before.SameShape after) : after.SameShape before :=
  ⟨hshape.here.symm, hshape.sizeLimit.symm, hshape.tree.symm⟩

theorem trans {middle : Files} (hfirst : before.SameShape middle)
    (hsecond : middle.SameShape after) : before.SameShape after :=
  ⟨hfirst.here.trans hsecond.here, hfirst.sizeLimit.trans hsecond.sizeLimit,
    hfirst.tree.trans hsecond.tree⟩

end SameShape

/-! ## Slots -/

structure Admits (path : Path) : Prop where
  no_nul : path.contains 0 = false
  ne_nil : path ≠ []
  length_lt : path.length < pathLimit

theorem locate_of_admits (hpath : Admits path) :
    files.locate manner path =
      walk files.tree manner linkLimit (origin files.here path) (steps path) := by
  rw [locate, if_neg (by rw [hpath.no_nul]; simp), if_neg hpath.ne_nil,
    if_neg (Nat.not_le.mpr hpath.length_lt), origin]

/-- A path leads to a spot just when it is admitted and its steps reach the spot. -/
theorem locate_eq_ok_iff :
    files.locate manner path = .ok spot ↔ Admits path ∧
      Reaches files.tree manner linkLimit (origin files.here path) (steps path) spot := by
  constructor
  · intro hlocate
    have hpath : Admits path := by
      unfold locate at hlocate
      split at hlocate
      · cases hlocate
      · split at hlocate
        · cases hlocate
        · split at hlocate
          · cases hlocate
          · rename_i hnul hnil hlength
            exact ⟨by simpa using hnul, hnil, Nat.not_le.mp hlength⟩
    rw [locate_of_admits hpath, walk_eq_ok_iff] at hlocate
    exact ⟨hpath, hlocate⟩
  · rintro ⟨hpath, hreaches⟩
    rwa [locate_of_admits hpath, walk_eq_ok_iff]

theorem locate_renew (hshape : before.SameShape after)
    (hlocate : before.locate manner path = .ok spot) :
    after.locate manner path = .ok (spot.renew after.tree) := by
  rw [locate_eq_ok_iff] at hlocate ⊢
  rw [← hshape.here]
  exact ⟨hlocate.1, hlocate.2.renew hshape.tree⟩

theorem slot_eq_some_iff :
    files.slot? path = some location ↔
      ∃ spot, files.locate ⟨true, true⟩ path = .ok spot ∧ spot.slot? = some location := by
  unfold slot?
  split <;> simp_all

/-- In trees of one shape a path has the same slot. -/
theorem SameShape.slot_eq (hshape : before.SameShape after) :
    before.slot? path = after.slot? path := by
  have hslot {first second : Files} (hshape : first.SameShape second) {location : Location}
      (hslot : first.slot? path = some location) : second.slot? path = some location := by
    obtain ⟨spot, hlocate, hspot⟩ := slot_eq_some_iff.mp hslot
    exact slot_eq_some_iff.mpr ⟨_, locate_renew hshape hlocate, by rw [Spot.slot_renew, hspot]⟩
  apply Option.ext
  intro location
  exact ⟨hslot hshape, hslot hshape.symm⟩

/-- The slot of a path holds a file or nothing. -/
theorem isOpen_of_slot (hslot : files.slot? path = some location) :
    files.tree.IsOpen location := by
  obtain ⟨spot, hlocate, hspot⟩ := slot_eq_some_iff.mp hslot
  obtain ⟨-, hreaches⟩ := locate_eq_ok_iff.mp hlocate
  rcases spot with ⟨_, content | _ | _⟩ | _
  · cases hspot
    exact .inr ⟨content, hreaches.found_entry rfl (by simp)⟩
  · cases hspot
  · cases hspot
  · cases hspot
    exact .inl (hreaches.free_entry rfl)

/-! ## Trees without links -/

/-- Where there are no links, steps by proper names lead nowhere else. -/
theorem Reaches.of_proper {tree : Tree} {links : Nat} {directory : Location} {names : List Name}
    (hfree : tree.LinkFree)
    (hreaches : Reaches tree manner links directory names spot)
    (hnames : ∀ name ∈ names, name.Proper) :
    spot = .free (directory ++ names) ∨ ∃ entry, spot = .found (directory ++ names) entry := by
  induction hreaches with
  | here =>
    rw [List.append_nil]
    exact .inr ⟨_, rfl⟩
  | stay hname _ _ =>
    have hproper := hnames _ List.mem_cons_self
    rcases hname with rfl | rfl
    · exact absurd rfl hproper.ne_nil
    · exact absurd rfl hproper.ne_dot
  | up => exact absurd rfl (hnames _ List.mem_cons_self).ne_dots
  | free => exact .inl rfl
  | enter _ _ _ ih =>
    simpa using ih fun name hname => hnames name (List.mem_cons_of_mem _ hname)
  | file | link => exact .inr ⟨_, rfl⟩
  | follow _ _ hentry => exact absurd hentry (hfree _ _)

/-- A path of proper names has its slot at the end of them. -/
theorem slot_of_proper (hfree : files.tree.LinkFree) (hnames : ∀ name ∈ steps path, name.Proper)
    (hslot : files.slot? path = some location) :
    location = origin files.here path ++ steps path := by
  obtain ⟨spot, hlocate, hspot⟩ := slot_eq_some_iff.mp hslot
  obtain ⟨-, hreaches⟩ := locate_eq_ok_iff.mp hlocate
  rcases hreaches.of_proper hfree hnames with rfl | ⟨entry, rfl⟩
  · cases hspot
    rfl
  · cases entry <;> cases hspot
    rfl

/-! ## Reading -/

/-- A path leads to the file at its slot. -/
theorem locate_file_iff :
    files.locate ⟨true, false⟩ path = .ok (.found location (.file content)) ↔
      files.slot? path = some location ∧
        files.tree.entry? location = some (.file content) := by
  constructor
  · intro hlocate
    obtain ⟨hpath, hreaches⟩ := locate_eq_ok_iff.mp hlocate
    have hopens := locate_eq_ok_iff.mpr ⟨hpath, hreaches.opening (by simp)⟩
    exact ⟨slot_eq_some_iff.mpr ⟨_, hopens, rfl⟩,
      hreaches.found_entry rfl (by simp)⟩
  · rintro ⟨hslot, hentry⟩
    obtain ⟨spot, hlocate, hspot⟩ := slot_eq_some_iff.mp hslot
    obtain ⟨hpath, hreaches⟩ := locate_eq_ok_iff.mp hlocate
    have hfound : spot = .found location (.file content) := by
      rcases spot with ⟨_, found | _ | _⟩ | _
      · cases hspot
        have := hreaches.found_entry rfl (by simp)
        rw [hentry] at this
        cases this
        rfl
      · cases hspot
      · cases hspot
      · cases hspot
        rw [hreaches.free_entry rfl] at hentry
        cases hentry
    rw [hfound] at hreaches
    exact locate_eq_ok_iff.mpr ⟨hpath, hreaches.reading⟩

/-- A path reads what is at its slot. -/
theorem read_eq_ok_iff :
    files.read path = .ok content ↔
      ∃ location, files.slot? path = some location ∧
        files.tree.entry? location = some (.file content) := by
  rw [← exists_congr fun _ => locate_file_iff]
  unfold read entry
  rcases files.locate ⟨true, false⟩ path with e | ⟨l, _ | _ | _⟩ | l <;>
    simp [bind, Except.bind]

theorem fileAt_eq_some_iff :
    files.fileAt? path = some location ↔
      files.slot? path = some location ∧
        ∃ content, files.tree.entry? location = some (.file content) := by
  rw [← exists_and_left, ← exists_congr fun _ => locate_file_iff]
  unfold fileAt?
  rcases files.locate ⟨true, false⟩ path with e | ⟨l, _ | _ | _⟩ | l <;> simp

theorem read_of_slot (hslot : files.slot? path = some location)
    (hentry : files.tree.entry? location = some (.file content)) :
    files.read path = .ok content :=
  read_eq_ok_iff.mpr ⟨location, hslot, hentry⟩

/-! ## Storing -/

/-- Writing where a file stands, or nothing, keeps the shape of the tree. -/
theorem sameShape_store (hopen : files.tree.IsOpen location) :
    files.SameShape (files.store location content) :=
  ⟨rfl, rfl, Tree.sameShape_put hopen⟩

/-- Writing to an open location changes the entry there alone. -/
theorem entry_store (hopen : files.tree.IsOpen location) {place : Location} :
    (files.store location content).tree.entry? place =
      if place = location then some (.file content) else files.tree.entry? place :=
  Tree.entry_put hopen.ne_nil

/-- After storing at its slot, a path reads what was stored. -/
theorem read_store_self (hslot : files.slot? path = some location) :
    (files.store location content).read path = .ok content := by
  have hopen := isOpen_of_slot hslot
  have hsame : (files.store location content).slot? path = some location := by
    rw [← (sameShape_store hopen).slot_eq, hslot]
  apply read_of_slot hsame
  rw [entry_store hopen, if_pos rfl]

/-- Storing elsewhere changes nothing for a path that reads. -/
theorem read_store_of_ne (hopen : files.tree.IsOpen location)
    (hread : files.read path = .ok content) (hslot : files.slot? path ≠ some location)
    {stored : Bytes} : (files.store location stored).read path = .ok content := by
  obtain ⟨place, hplace, hentry⟩ := read_eq_ok_iff.mp hread
  have hne : place ≠ location := by
    rintro rfl
    exact hslot hplace
  have hsame : (files.store location stored).slot? path = some place := by
    rw [← (sameShape_store hopen).slot_eq, hplace]
  apply read_of_slot hsame
  rw [entry_store hopen, if_neg hne, hentry]

/-! ## Writing -/

theorem kept_prefix (files : Files) (content : Bytes) : files.kept content <+: content := by
  unfold kept
  split
  · exact List.take_prefix _ _
  · exact List.prefix_rfl

theorem fill_eq (files : Files) (location : Location) (content : Bytes) :
    files.fill location content =
      (if (files.kept content).length < content.length then .error .fileTooLarge else .ok (),
        files.store location (files.kept content)) := rfl

theorem fill_of_kept (hkept : files.kept content = content) :
    files.fill location content = (.ok (), files.store location content) := by
  simp [fill_eq, hkept]

theorem fill_of_cut (hkept : files.kept content ≠ content) :
    files.fill location content =
      (.error .fileTooLarge, files.store location (files.kept content)) := by
  have hlength : (files.kept content).length < content.length := by
    rcases Nat.lt_or_eq_of_le (files.kept_prefix content).length_le with hlt | heq
    · exact hlt
    · exact absurd ((files.kept_prefix content).eq_of_length heq) hkept
  simp [fill_eq, hlength]

/-- Writing to a path fills its slot. -/
theorem write_of_slot (hslot : files.slot? path = some location) :
    files.write path content = files.fill location content := by
  obtain ⟨spot, hlocate, hspot⟩ := slot_eq_some_iff.mp hslot
  rcases spot with ⟨_, _ | _ | _⟩ | _ <;> cases hspot <;> simp [write, hlocate]

/-- Without a slot nothing is written. -/
theorem write_of_no_slot (hslot : files.slot? path = none) :
    ∃ e, files.write path content = (.error e, files) := by
  cases hlocate : files.locate ⟨true, true⟩ path with
  | error e => exact ⟨e, by simp [write, hlocate]⟩
  | ok spot =>
    have hspot : spot.slot? = none := by simpa [slot?, hlocate] using hslot
    rcases spot with ⟨_, _ | _ | _⟩ | _ <;> cases hspot <;> simp [write, hlocate]

/-- All that writing can do: nothing, put the content at the slot of the path, or put
there what the size limit lets through. -/
theorem write_cases (files : Files) (path : Path) (content : Bytes) :
    (files.slot? path = none ∧ ∃ e, files.write path content = (.error e, files)) ∨
    ∃ location, files.slot? path = some location ∧
      (files.write path content = (.ok (), files.store location content) ∨
        files.kept content ≠ content ∧
          files.write path content =
            (.error .fileTooLarge, files.store location (files.kept content))) := by
  cases hslot : files.slot? path with
  | none => exact .inl ⟨rfl, write_of_no_slot hslot⟩
  | some location =>
    refine .inr ⟨location, rfl, ?_⟩
    rw [write_of_slot hslot]
    by_cases hkept : files.kept content = content
    · exact .inl (fill_of_kept hkept)
    · exact .inr ⟨hkept, fill_of_cut hkept⟩

end Files

end Emend
