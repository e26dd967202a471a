import Emend.Proofs.Files.Listing
import Emend.Proofs.Patch.Series

/-!
# Where files are patched

A file below a root that is no link is written where it stands, and its backup
beside it.  Patching therefore changes the listing of one directory, the one that
the file is in.
-/

namespace Emend

open Emend.Path (descend)

def backupTail : Bytes := Path.ofString ".backup"

theorem backupTail_eq : backupTail = [0x2E, 0x62, 0x61, 0x63, 0x6B, 0x75, 0x70] := by
  decide +kernel

def backupName (name : Name) : Name := name ++ backupTail

theorem proper_backupName {name : Name} (hname : name.Proper) : (backupName name).Proper := by
  have hlength : 7 ≤ (backupName name).length := by
    simp [backupName, backupTail_eq]
  constructor
  · intro heq
    simp [heq] at hlength
  · rw [backupName, List.mem_append, not_or]
    exact ⟨hname.no_slash, by rw [backupTail_eq]; decide⟩
  · intro heq
    simp [heq] at hlength
  · intro heq
    simp [heq] at hlength

/-- The backup of a path has the same names but the last. -/
theorem backupPath_descend {root : Path} {names : List Name} {name : Name}
    (hname : name.Proper) :
    backupPath (descend root (names ++ [name])) = descend root (names ++ [backupName name]) := by
  calc
    backupPath (descend root (names ++ [name])) =
        Path.fence (descend root names) ++ name ++ backupTail := by
      rw [Path.descend_concat, Path.join_eq_append hname, backupPath, backupTail]
    _ = Path.fence (descend root names) ++ backupName name := List.append_assoc _ _ _
    _ = descend root (names ++ [backupName name]) := by
      rw [Path.descend_concat, Path.join_eq_append (proper_backupName hname)]

namespace Files

variable {files before after middle : Files} {path root : Path} {name : Name}
  {names : List Name} {base location parent : Location} {table : RuleTable} {dryRun : Bool}

theorem SameShape.directoryAt_eq (hshape : before.SameShape after) :
    before.directoryAt? path = after.directoryAt? path := by
  have hdirectory {first second : Files} (hshape : first.SameShape second)
      {location : Location} (hlocation : first.directoryAt? path = some location) :
      second.directoryAt? path = some location := by
    rw [directoryAt_eq_some_iff] at hlocation ⊢
    exact locate_renew hshape hlocation
  ext location
  exact ⟨hdirectory hshape, hdirectory hshape.symm⟩

theorem SameShape.descends (hshape : before.SameShape after)
    (hdescends : Descends before.tree base names) : Descends after.tree base names :=
  fun part hpart hne =>
    (hshape.tree _ _ (by simp)).mp (hdescends part hpart hne)

/-- A last name that is no link leads to the location under it. -/
theorem slot_of_last {tree : Tree} {links : Nat} {spot : Spot} (hname : name.Proper)
    (hlink : ∀ target, tree.entry? (parent ++ [name]) ≠ some (.link target))
    (hwalk : walk tree ⟨true, false⟩ links parent [name] = .ok spot)
    (hspot : spot.slot? = some location) : location = parent ++ [name] := by
  by_cases hlength : name.length ≤ nameLimit
  · rw [walk_of_looksUp (.of_proper hname hlength)] at hwalk
    cases hentry : tree.entry? (parent ++ [name]) with
    | none =>
      rw [hentry] at hwalk
      cases hwalk
      exact (Option.some.inj hspot).symm
    | some entry =>
      rw [hentry] at hwalk
      cases entry with
      | file content =>
        cases hwalk
        exact (Option.some.inj hspot).symm
      | directory =>
        rw [walk.eq_def] at hwalk
        cases hwalk
        cases hspot
      | link target => exact absurd hentry (hlink target)
  · rw [walk_of_too_long hname (Nat.not_le.mp hlength)] at hwalk
    cases hwalk

/-- Below a root, the slot of a path is the location under its names. -/
theorem slot_below (hbase : files.directoryAt? root = some base)
    (hnames : ∀ name ∈ names, name.Proper) (hname : name.Proper)
    (hdescends : Descends files.tree base names)
    (hlink : ∀ target, files.tree.entry? (base ++ (names ++ [name])) ≠ some (.link target))
    (hslot : files.slot? (descend root (names ++ [name])) = some location) :
    location = base ++ (names ++ [name]) := by
  have hroot := ne_nil_of_directoryAt hbase
  have hall : ∀ part ∈ names ++ [name], part.Proper := by
    intro part hpart
    rcases List.mem_append.mp hpart with hfront | hlast
    · exact hnames part hfront
    · rwa [List.mem_singleton.mp hlast]
  obtain ⟨spot, hlocate, hspot⟩ := slot_eq_some_iff.mp hslot
  obtain ⟨-, hreaches⟩ := locate_eq_ok_iff.mp hlocate
  obtain ⟨left, hleft⟩ := walk_stem hbase
  have hwalk := hreaches.reading.walk_eq
  rw [steps_descend hroot (by simp) hall, origin, Path.isAbsolute_descend hroot hall,
    ← origin, hleft, walk_descends hdescends hnames] at hwalk
  rw [← List.append_assoc] at hlink ⊢
  split at hwalk
  · exact slot_of_last hname hlink hwalk hspot
  · cases hwalk

/-! ## One directory -/

/-- Nothing has changed but files, and listings but those of one directory. -/
structure Within (parent : Location) (before after : Files) : Prop where
  shape : before.SameShape after
  children : ∀ location, location ≠ parent →
    after.tree.children location = before.tree.children location

namespace Within

theorem refl (parent : Location) (files : Files) : Within parent files files :=
  ⟨.refl files, fun _ _ => rfl⟩

theorem store (hwithin : Within parent before after) (hopen : after.tree.IsOpen location)
    (hparent : location.dropLast = parent) {content : Bytes} :
    Within parent before (after.store location content) := by
  refine ⟨hwithin.shape.trans (sameShape_store hopen), fun other hother => ?_⟩
  rw [← hwithin.children other hother]
  exact Tree.children_put_of_ne (by rw [hparent]; exact hother.symm)

end Within

/-- Patching changes the listing of one directory. -/
theorem Patches.within {outcome : Except Error Patched}
    (hpatches : Patches before path table dryRun outcome after)
    (hplace : ∀ location, before.slot? path = some location → location.dropLast = parent)
    (hspare : ∀ location, before.slot? (backupPath path) = some location →
      location.dropLast = parent) : Within parent before after := by
  have hsaved {spare : Location} (hslot : before.slot? (backupPath path) = some spare)
      (content : Bytes) : Within parent before (before.store spare content) :=
    (Within.refl parent before).store (isOpen_of_slot hslot) (hspare spare hslot)
  cases hpatches with
  | unreadable | notText | unchanged | foreseen | backupRefused => exact .refl _ _
  | backupCut _ _ hslot => exact hsaved hslot _
  | overwriteCut _ _ hslot hfile | fixed _ _ hslot hfile =>
    refine (hsaved hslot _).store ?_ (hplace _ hfile)
    exact (sameShape_store (isOpen_of_slot hslot)).tree.isOpen (isOpen_of_slot hfile)

/-- A file that stands in a directory below a root is patched there. -/
theorem patch_within (hfree : files.tree.LinkFree) (hbase : files.directoryAt? root = some base)
    (hnames : ∀ name ∈ names, name.Proper) (hname : name.Proper)
    (hdescends : Descends files.tree base names) :
    Within (base ++ names) files
      (files.patch (descend root (names ++ [name])) table dryRun).2 := by
  have hparent {last : Name} (hlast : last.Proper) {location : Location}
      (hslot : files.slot? (descend root (names ++ [last])) = some location) :
      location.dropLast = base ++ names := by
    rw [slot_below hbase hnames hlast hdescends (hfree _) hslot, ← List.append_assoc,
      List.dropLast_concat]
  apply (files.patch_patches _ table dryRun).within
  · exact fun location hslot => hparent hname hslot
  · intro location hslot
    rw [backupPath_descend hname] at hslot
    exact hparent (proper_backupName hname) hslot

/-! ## Different files -/

/-- A path leads from a root to an entry, through directories alone. -/
def Beneath (files : Files) (root : Path) (base : Location) (path : Path) : Prop :=
  ∃ names name, path = descend root (names ++ [name]) ∧
    (∀ part ∈ names ++ [name], part.Proper) ∧ Descends files.tree base names

/-- Different paths have different backups. -/
theorem backupPath_injective {other : Path} (heq : backupPath path = backupPath other) :
    path = other :=
  List.append_cancel_right heq

/-- The backup of a path below a root is below the root too. -/
theorem Beneath.backup (hpath : files.Beneath root base path) :
    files.Beneath root base (backupPath path) := by
  obtain ⟨names, name, rfl, hproper, hdescends⟩ := hpath
  refine ⟨names, backupName name, backupPath_descend (hproper name (by simp)), ?_, hdescends⟩
  intro part hpart
  rcases List.mem_append.mp hpart with hfront | hlast
  · exact hproper part (by simp [hfront])
  · rw [List.mem_singleton.mp hlast]
    exact proper_backupName (hproper name (by simp))

/-- Without links, paths below one root share no slot. -/
theorem Beneath.eq_of_slot (hfree : files.tree.LinkFree)
    (hbase : files.directoryAt? root = some base) (hpath : files.Beneath root base path)
    {other : Path} (hother : files.Beneath root base other)
    (hslot : files.slot? path = some location) (hshared : files.slot? other = some location) :
    path = other := by
  have hlocation {path : Path} (hpath : files.Beneath root base path)
      (hslot : files.slot? path = some location) :
      ∃ names, path = descend root names ∧ location = base ++ names := by
    obtain ⟨names, name, rfl, hproper, hdescends⟩ := hpath
    exact ⟨_, rfl, slot_below hbase (fun part hpart => hproper part (by simp [hpart]))
      (hproper name (by simp)) hdescends (hfree _) hslot⟩
  obtain ⟨names, rfl, hnames⟩ := hlocation hpath hslot
  obtain ⟨others, rfl, hothers⟩ := hlocation hother hshared
  rw [hnames, List.append_cancel_left_eq] at hothers
  rw [hothers]

/-- Files below one root and their backups share no slot, if none of the files is the
backup of another. -/
theorem slots_nodup (hfree : files.tree.LinkFree)
    (hbase : files.directoryAt? root = some base) {paths : List Path} (hnodup : paths.Nodup)
    (hbeneath : ∀ path ∈ paths, files.Beneath root base path)
    (hbackup : ∀ path ∈ paths, backupPath path ∉ paths) : (files.slots paths).Nodup := by
  have hall : (paths.flatMap fun path => [backupPath path, path]).Nodup := by
    rw [List.Nodup, List.pairwise_flatMap]
    constructor
    · intro path hpath
      have hne : backupPath path ≠ path := fun heq => hbackup path hpath (heq.symm ▸ hpath)
      simpa using hne
    · apply hnodup.imp_of_mem
      intro path other hpath hother hne first hfirst second hsecond
      simp only [List.mem_cons, List.not_mem_nil, or_false] at hfirst hsecond
      rcases hfirst with rfl | rfl <;> rcases hsecond with rfl | rfl
      · exact fun heq => hne (backupPath_injective heq)
      · exact fun heq => hbackup path hpath (heq ▸ hother)
      · exact fun heq => hbackup other hother (heq ▸ hpath)
      · exact hne
  rw [slots, List.Nodup, List.pairwise_filterMap]
  apply hall.imp_of_mem
  rintro first second hfirst hsecond hne location hslot _ hshared rfl
  have hplaced {path : Path}
      (hpath : path ∈ paths.flatMap fun path => [backupPath path, path]) :
      files.Beneath root base path := by
    obtain ⟨source, hsource, hmem⟩ := List.mem_flatMap.mp hpath
    simp only [List.mem_cons, List.not_mem_nil, or_false] at hmem
    rcases hmem with rfl | rfl
    · exact (hbeneath source hsource).backup
    · exact hbeneath path hsource
  exact hne ((hplaced hfirst).eq_of_slot hfree hbase (hplaced hsecond) hslot hshared)

end Files

end Emend
