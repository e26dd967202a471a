import Emend.Proofs.Patch.Placement

/-!
# A file and its backup are two files

A path leads through all of its steps but the last one into a directory, whatever that
last step is.  A file and its backup therefore lie in one directory under two names,
unless one of the two paths ends in a link.
-/

namespace Emend.Files

open Emend.Path (slash)

variable {files : Files} {tree : Tree} {follow : Bool} {links : Nat} {start path : Path}
  {directory location parent place : Location} {front : List Name} {name last : Name}
  {spot : Spot}

/-! ## The directory of a path -/

/-- The steps before the last one lead into a directory, and any step can be taken there. -/
theorem Reaches.exists_parent
    (hreaches : Reaches tree ⟨follow, false⟩ links directory (front ++ [last]) spot) :
    ∃ left parent, ∀ (follow : Bool) (name : Name),
      walk tree ⟨follow, false⟩ links directory (front ++ [name]) =
        walk tree ⟨follow, false⟩ left parent [name] := by
  generalize hsteps : front ++ [last] = steps at hreaches
  induction hreaches generalizing front with
  | here => simp at hsteps
  | @stay links directory _ _ _ hname _ ih =>
    cases front with
    | nil => exact ⟨links, directory, fun _ _ => rfl⟩
    | cons first front =>
      obtain ⟨rfl, rfl⟩ := List.cons.inj hsteps
      obtain ⟨left, parent, hleft⟩ := ih rfl
      refine ⟨left, parent, fun follow name => ?_⟩
      rw [← hleft, List.cons_append, walk_of_stay hname]
  | @up links directory _ _ _ ih =>
    cases front with
    | nil => exact ⟨links, directory, fun _ _ => rfl⟩
    | cons first front =>
      obtain ⟨rfl, rfl⟩ := List.cons.inj hsteps
      obtain ⟨left, parent, hleft⟩ := ih rfl
      refine ⟨left, parent, fun follow name => ?_⟩
      rw [← hleft, List.cons_append, walk_up]
  | @free links directory | @file links directory | @link links directory =>
    cases front with
    | nil => exact ⟨links, directory, fun _ _ => rfl⟩
    | cons first front => simp at hsteps
  | @enter links directory _ _ _ hname hentry _ ih =>
    cases front with
    | nil => exact ⟨links, directory, fun _ _ => rfl⟩
    | cons first front =>
      obtain ⟨rfl, rfl⟩ := List.cons.inj hsteps
      obtain ⟨left, parent, hleft⟩ := ih rfl
      refine ⟨left, parent, fun follow name => ?_⟩
      rw [← hleft, List.cons_append, walk_of_looksUp hname.reading, hentry]
  | @follow links directory _ _ _ _ hname _ hentry _ ih =>
    cases front with
    | nil => exact ⟨links + 1, directory, fun _ _ => rfl⟩
    | cons first front =>
      obtain ⟨rfl, rfl⟩ := List.cons.inj hsteps
      obtain ⟨left, parent, hleft⟩ := ih (List.append_assoc ..)
      refine ⟨left, parent, fun follow name => ?_⟩
      rw [← hleft, List.cons_append, walk_of_looksUp hname.reading, hentry]
      simp [List.append_assoc]

/-- With every name behind it, a path leads into one directory. -/
def LeadsInto (files : Files) (start : Path) (parent : Location) : Prop :=
  ∃ left, ∀ (follow : Bool) (name : Name), name ≠ [] → slash ∉ name →
    walk files.tree ⟨follow, false⟩ linkLimit (origin files.here (start ++ name))
        (steps (start ++ name)) =
      walk files.tree ⟨follow, false⟩ left parent [name]

/-- A path begins where it does without its last component. -/
theorem origin_append (hstart : start = [] ∨ start.getLast? = some slash)
    (hslash : slash ∉ name) : origin directory (start ++ name) = origin directory start := by
  have habsolute : Path.isAbsolute (start ++ name) = Path.isAbsolute start := by
    cases start with
    | cons first start => rfl
    | nil =>
      cases name with
      | nil => rfl
      | cons first name =>
        have hne : first ≠ slash := fun heq => hslash (heq ▸ List.mem_cons_self)
        simp [Path.isAbsolute, hne]
  rw [origin, origin, habsolute]

/-- The last component is the last step, if it is not empty. -/
theorem steps_append (hne : name ≠ []) (hslash : slash ∉ name)
    (hsplit : Path.split (start ++ name) = front ++ [name]) :
    steps (start ++ name) = front.filter (· ≠ []) ++ [name] := by
  have hlast : (start ++ name).getLast? ≠ some slash := by
    rw [List.getLast?_append_of_ne_nil _ hne]
    exact fun hlast => hslash (List.mem_of_getLast? hlast)
  have hkeep : [name].filter (· ≠ []) = [name] := by simp [hne]
  unfold steps
  rw [if_neg hlast, hsplit, List.filter_append, hkeep]

/-- The path to a file leads into a directory, up to a proper name. -/
theorem exists_leadsInto (hplace : files.fileAt? path = some place) :
    ∃ (start : Path) (name : Name) (parent : Location), path = start ++ name ∧ name.Proper ∧
      files.LeadsInto start parent := by
  obtain ⟨hslot, content, hentry⟩ := fileAt_eq_some_iff.mp hplace
  obtain ⟨hpath, hreaches⟩ := locate_eq_ok_iff.mp (locate_file_iff.mpr ⟨hslot, hentry⟩)
  obtain ⟨start, name, front, rfl, hslash, hstart, hsplit⟩ := Path.exists_last path
  have hne : name ≠ [] := by
    rintro rfl
    rw [List.append_nil] at hpath hreaches
    have hlast : (steps start).getLast? = some [] := by
      simp [steps, hstart.resolve_left hpath.ne_nil]
    obtain ⟨location, hdirectory⟩ := hreaches.directory_of_slash hlast
    cases hdirectory
  rw [steps_append hne hslash (hsplit name hslash)] at hreaches
  obtain ⟨left, parent, hleft⟩ := hreaches.exists_parent
  refine ⟨start, name, parent, rfl, ⟨hne, hslash, ?_, ?_⟩, left, fun follow other hne hother => ?_⟩
  · rintro rfl
    have hwalk := hreaches.walk_eq
    rw [hleft, walk_of_stay (.inr rfl), walk.eq_def] at hwalk
    cases hwalk
  · rintro rfl
    have hwalk := hreaches.walk_eq
    rw [hleft, walk_up, walk.eq_def] at hwalk
    cases hwalk
  · rw [steps_append hne hother (hsplit other hother), ← hleft, origin_append hstart hother,
      origin_append hstart hslash]

/-- A path that ends in no link leads to the location under its last name. -/
theorem LeadsInto.slot_eq (hleads : files.LeadsInto start parent) (hname : name.Proper)
    (hlink : files.linkKind (start ++ name) ≠ .ok .link)
    (hslot : files.slot? (start ++ name) = some location) : location = parent ++ [name] := by
  obtain ⟨left, hleft⟩ := hleads
  obtain ⟨spot, hlocate, hspot⟩ := slot_eq_some_iff.mp hslot
  obtain ⟨hpath, hreaches⟩ := locate_eq_ok_iff.mp hlocate
  have hwalk := hreaches.reading.walk_eq
  rw [hleft _ _ hname.ne_nil hname.no_slash] at hwalk
  refine slot_of_last hname (fun target hentry => hlink ?_) hwalk hspot
  have hlength : name.length ≤ nameLimit := by
    by_contra hlong
    rw [walk_of_too_long hname (Nat.not_le.mp hlong)] at hwalk
    cases hwalk
  have hfound : files.locate ⟨false, false⟩ (start ++ name) =
      .ok (.found (parent ++ [name]) (.link target)) := by
    rw [locate_of_admits hpath, hleft _ _ hname.ne_nil hname.no_slash,
      walk_of_looksUp (.of_proper hname hlength), hentry]
    rfl
  exact linkKind_eq_ok_iff.mpr ⟨_, _, hfound, rfl⟩

/-- A file that is no link, with a backup that is none, is not its own backup. -/
theorem apart_of_linkKind (hpath : files.linkKind path ≠ .ok .link)
    (hbackup : files.linkKind (backupPath path) ≠ .ok .link) : files.Apart path := by
  intro place hplace hspare
  obtain ⟨start, name, parent, rfl, hname, hleads⟩ := exists_leadsInto hplace
  have hsplit : backupPath (start ++ name) = start ++ backupName name := List.append_assoc ..
  rw [hsplit] at hbackup hspare
  have hown := hleads.slot_eq hname hpath (fileAt_eq_some_iff.mp hplace).1
  have hother := hleads.slot_eq (proper_backupName hname) hbackup (fileAt_eq_some_iff.mp hspare).1
  rw [hown, List.append_cancel_left_eq, List.cons.injEq] at hother
  have hlength := congrArg List.length hother.1
  simp [backupName, backupTail_eq] at hlength

end Emend.Files
