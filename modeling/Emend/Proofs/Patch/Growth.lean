import Emend.Proofs.Files.Growth
import Emend.Proofs.Patch.Placement

/-!
# How a tree grows

Patching files adds to a tree nothing but their backups.  Everything else stays what it
was, and a tree that is well formed stays so, since a backup stands beside its file
under a proper name.
-/

namespace Emend

open Emend.Path (descend)

namespace Files

variable {files before after : Files} {table : RuleTable} {path root : Path}
  {log : List (Path × String)} {base location place spare : Location} {names : List Name}

theorem Beneath.of_shape (hshape : before.SameShape after)
    (hpath : before.Beneath root base path) : after.Beneath root base path := by
  obtain ⟨names, name, heq, hproper, hdescends⟩ := hpath
  exact ⟨names, name, heq, hproper, hshape.descends hdescends⟩

/-- Without links, a file below a root and its backup stand side by side. -/
theorem Beneath.slots_eq (hfree : files.tree.LinkFree)
    (hbase : files.directoryAt? root = some base) (hpath : files.Beneath root base path)
    (hplace : files.slot? path = some place)
    (hspare : files.slot? (backupPath path) = some spare) :
    ∃ names name, name.Proper ∧ place = base ++ (names ++ [name]) ∧
      spare = base ++ (names ++ [backupName name]) := by
  obtain ⟨names, name, rfl, hproper, hdescends⟩ := hpath
  have hname : name.Proper := hproper name (by simp)
  have hnames : ∀ part ∈ names, part.Proper := fun part hpart => hproper part (by simp [hpart])
  rw [backupPath_descend hname] at hspare
  exact ⟨names, name, hname, slot_below hbase hnames hname hdescends (hfree _) hplace,
    slot_below hbase hnames (proper_backupName hname) hdescends (hfree _) hspare⟩

/-- Without links, the location of a slot tells the path. -/
theorem Beneath.path_eq (hfree : files.tree.LinkFree)
    (hbase : files.directoryAt? root = some base) (hpath : files.Beneath root base path)
    (hslot : files.slot? path = some (base ++ names)) : path = descend root names := by
  obtain ⟨front, name, rfl, hproper, hdescends⟩ := hpath
  have hlocation := slot_below hbase (fun part hpart => hproper part (by simp [hpart]))
    (hproper name (by simp)) hdescends (hfree _) hslot
  rw [List.append_cancel_left_eq] at hlocation
  rw [hlocation]

namespace Series

/-- Patching takes nothing away. -/
theorem grows (hseries : Series table log before after) : before.Grows after := by
  induction hseries with
  | done => exact .refl _
  | keeps _ _ _ ih => exact ih
  | @fixes _ _ _ text _ _ _ _ hplace hspare _ ih =>
    have hsaved := Grows.store (isOpen_of_slot hspare) (Utf8.encode text)
    have hopen := hsaved.shape.tree.isOpen (isOpen_of_slot hplace)
    exact (hsaved.trans (.store hopen _)).trans ih

/-- A tree stays well formed when files below a root are patched. -/
theorem wellFormed (hseries : Series table log before after) (hwell : before.tree.WellFormed)
    (hfree : before.tree.LinkFree) (hbase : before.directoryAt? root = some base)
    (hbeneath : ∀ e ∈ log, before.Beneath root base e.1) : after.tree.WellFormed := by
  induction hseries with
  | done => exact hwell
  | keeps _ _ _ ih => exact ih hwell hfree hbase fun e he => hbeneath e (by simp [he])
  | @fixes files after path text rest place spare hchanges hplace hspare _ ih =>
    have hshape : files.SameShape
        ((files.store spare (Utf8.encode text)).store place (Utf8.encode (table.apply text))) :=
      sameShape_fixed hplace hspare
    have hproper : ∀ name ∈ place, name.Proper := by
      obtain ⟨location, hlocation, hentry⟩ := hchanges.exists_slot
      rw [hplace, Option.some.injEq] at hlocation
      exact fun name hname => hwell.proper_of_entry (hlocation ▸ hentry) hname
    have hbeside : ∀ name ∈ spare, name.Proper := by
      obtain ⟨names, name, hname, rfl, rfl⟩ :=
        (hbeneath (path, text) (by simp)).slots_eq hfree hbase hplace hspare
      intro part hpart
      rcases List.mem_append.mp hpart with hfront | hpart
      · exact hproper part (by simp [hfront])
      · rcases List.mem_append.mp hpart with hfront | hlast
        · exact hproper part (by simp [hfront])
        · rw [List.mem_singleton.mp hlast]
          exact proper_backupName hname
    apply ih
    · exact (hwell.put (isOpen_of_slot hspare).ne_nil hbeside).put
        (isOpen_of_slot hplace).ne_nil hproper
    · exact hshape.tree.linkFree hfree
    · rw [← hshape.directoryAt_eq, hbase]
    · exact fun e he => (hbeneath e (by simp [he])).of_shape hshape

/-- Where no backup goes, everything keeps its kind, and nothing comes or goes. -/
theorem kind_eq (hseries : Series table log before after)
    (hspare : ∀ e ∈ log, before.slot? (backupPath e.1) ≠ some location) :
    (after.tree.entry? location).map Entry.kind =
      (before.tree.entry? location).map Entry.kind := by
  induction hseries with
  | done => rfl
  | keeps _ _ _ ih => exact ih fun e he => hspare e (by simp [he])
  | @fixes files after path text rest place saved hchanges hplace hsaved _ ih =>
    have hshape : files.SameShape
        ((files.store saved (Utf8.encode text)).store place (Utf8.encode (table.apply text))) :=
      sameShape_fixed hplace hsaved
    rw [ih fun e he => by rw [← hshape.slot_eq]; exact hspare e (by simp [he])]
    have hne : location ≠ saved := by
      rintro rfl
      exact hspare (path, text) (by simp) hsaved
    rw [entry_fixed hplace hsaved]
    by_cases hlast : location = place
    · obtain ⟨found, hfound, hentry⟩ := hchanges.exists_slot
      rw [hplace, Option.some.injEq] at hfound
      rw [hlast, hfound, hentry]
      simp [lastWrite?, Entry.kind]
    · simp [lastWrite?, Ne.symm hlast, Ne.symm hne]

end Series

end Files

end Emend
