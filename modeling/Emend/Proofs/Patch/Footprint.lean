import Emend.Proofs.Files.Growth
import Emend.Proofs.Patch.Progress

/-!
# What patching may touch

Patching writes wherever a path and its backup lead, through links if there are any.  It
makes files where there are none, and replaces what files hold.  Everything that it has
made stands where the backup of a patched file leads, and everything that it has
replaced where the file or its backup leads.
-/

namespace Emend.Files

variable {files before middle after : Files} {table : RuleTable} {dryRun : Bool} {path : Path}
  {paths : List Path} {written first second : Path → Prop} {location : Location}
  {started : List (Path × Patched)} {outcome : Except Error Patched}

def Writes (path : Path) : Except Error Patched → Prop
  | .ok outcome => outcome = .fixed
  | .error (.backupFailed target _) => target = backupPath path
  | .error (.overwriteFailed target _) => target = path
  | .error _ => False

/-- A path that has been written to when patching has come so far: it was fixed, or the
failure is that of writing to it. -/
def Progress.Writes (progress : Progress) (path : Path) : Prop :=
  (path, .fixed) ∈ progress.done ∨
    ∃ e, progress.failure = some e ∧ Files.Writes path (.error e)

/-- The trees differ only by what writing to some paths and their backups can do. -/
structure Framed (written : Path → Prop) (before after : Files) : Prop
    extends before.Grows after where
  added : ∀ location entry, before.tree.entry? location = none →
    after.tree.entry? location = some entry →
    ∃ path, written path ∧ before.slot? (backupPath path) = some location
  changed : ∀ location, after.tree.entry? location ≠ before.tree.entry? location →
    ∃ path, written path ∧ location ∈ before.slots [path]

namespace Framed

theorem refl (written : Path → Prop) (files : Files) : Framed written files files where
  toGrows := .refl files
  added _ _ hnone hentry := by
    rw [hnone] at hentry
    cases hentry
  changed _ hne := absurd rfl hne

theorem mono (hframed : Framed first before after) (hall : ∀ path, first path → second path) :
    Framed second before after where
  toGrows := hframed.toGrows
  added location entry hnone hentry := by
    obtain ⟨path, hpath, hslot⟩ := hframed.added location entry hnone hentry
    exact ⟨path, hall path hpath, hslot⟩
  changed location hne := by
    obtain ⟨path, hpath, hslot⟩ := hframed.changed location hne
    exact ⟨path, hall path hpath, hslot⟩

theorem slots_eq (hframed : Framed written before after) (paths : List Path) :
    after.slots paths = before.slots paths := by
  have hslots : after.slot? = before.slot? := funext fun _ => hframed.shape.slot_eq.symm
  rw [slots, hslots, slots]

theorem trans (hfirst : Framed written before middle) (hsecond : Framed written middle after) :
    Framed written before after where
  toGrows := hfirst.toGrows.trans hsecond.toGrows
  added location entry hnone hentry := by
    cases hmiddle : middle.tree.entry? location with
    | some found => exact hfirst.added location found hnone hmiddle
    | none =>
      obtain ⟨path, hpath, hslot⟩ := hsecond.added location entry hmiddle hentry
      exact ⟨path, hpath, hfirst.shape.slot_eq.trans hslot⟩
  changed location hne := by
    by_cases hmiddle : middle.tree.entry? location = before.tree.entry? location
    · obtain ⟨path, hpath, hslot⟩ := hsecond.changed location (hmiddle ▸ hne)
      exact ⟨path, hpath, hfirst.slots_eq [path] ▸ hslot⟩
    · exact hfirst.changed location hmiddle

/-- Content is put where a path or its backup leads.  A file is made only for a backup. -/
theorem store (hpath : written path) (hslot : location ∈ files.slots [path])
    (hspare : files.tree.entry? location = none →
      files.slot? (backupPath path) = some location) (content : Bytes) :
    Framed written files (files.store location content) := by
  have hopen : files.tree.IsOpen location := by
    rcases mem_slots_singleton.mp hslot with hbackup | hfile
    · exact isOpen_of_slot hbackup
    · exact isOpen_of_slot hfile
  have hentry {place : Location} (hne : place ≠ location) :
      (files.store location content).tree.entry? place = files.tree.entry? place := by
    rw [entry_store hopen, if_neg hne]
  refine ⟨.store hopen content, ?_, ?_⟩
  · intro place entry hnone hnew
    by_cases hplace : place = location
    · subst hplace
      exact ⟨path, hpath, hspare hnone⟩
    · rw [hentry hplace, hnone] at hnew
      cases hnew
  · intro place hne
    by_cases hplace : place = location
    · subst hplace
      exact ⟨path, hpath, hslot⟩
    · exact absurd (hentry hplace) hne

end Framed

/-! ## Files in turn -/

/-- Patching a file writes to the file and its backup, or leaves everything alone. -/
theorem Patches.framed (hpatches : Patches before path table dryRun outcome after) :
    Framed (fun other => other = path ∧ Writes path outcome) before after := by
  have hsaved {spare : Location} (hspare : before.slot? (backupPath path) = some spare)
      (hwrites : Writes path outcome) (content : Bytes) :
      Framed (fun other => other = path ∧ Writes path outcome) before
        (before.store spare content) :=
    .store ⟨rfl, hwrites⟩ (mem_slots_singleton.mpr (.inl hspare)) (fun _ => hspare) content
  have hstored {old : String} {spare place : Location}
      (hchanges : before.Changes path table old) (hwrites : Writes path outcome)
      (hspare : before.slot? (backupPath path) = some spare)
      (hplace : before.slot? path = some place) (content : Bytes) :
      Framed (fun other => other = path ∧ Writes path outcome) before
        ((before.store spare (Utf8.encode old)).store place content) := by
    have hfirst := hsaved hspare hwrites (Utf8.encode old)
    refine hfirst.trans (.store ⟨rfl, hwrites⟩ ?_ ?_ content)
    · rw [hfirst.slots_eq]
      exact mem_slots_singleton.mpr (.inr hplace)
    · -- The file was read, so the second write makes none.
      obtain ⟨_, hlocation, hentry⟩ := hchanges.exists_slot
      rw [hplace, Option.some.injEq] at hlocation
      obtain ⟨now, hnow⟩ := hfirst.kept place _ (hlocation ▸ hentry)
      intro hnone
      rw [hnow] at hnone
      cases hnone
  cases hpatches with
  | unreadable | notText | unchanged | foreseen | backupRefused => exact .refl _ _
  | backupCut _ _ hspare => exact hsaved hspare rfl _
  | overwriteCut hchanges _ hspare hplace => exact hstored hchanges rfl hspare hplace _
  | fixed hchanges _ hspare hplace => exact hstored hchanges rfl hspare hplace _

/-- A failure of writing tells the path. -/
theorem path_eq_of_writes {other : Path} {e : Error}
    (hpatch : files.patch path table dryRun = (.error e, after))
    (hwrites : Writes other (.error e)) : other = path := by
  have hpatches := files.patch_patches path table dryRun
  rw [hpatch] at hpatches
  cases hpatches with
  | unreadable | notText => cases hwrites
  | backupRefused | backupCut => exact List.append_cancel_right (Eq.symm hwrites)
  | overwriteCut => exact Eq.symm hwrites

/-- Patching files in turn touches nothing but what it has written. -/
theorem patchAll_framed (files : Files) (table : RuleTable) (dryRun : Bool) (paths : List Path) :
    Framed (files.patchAll table dryRun paths).Writes files
      (files.patchAll table dryRun paths).files := by
  induction paths generalizing files with
  | nil => exact .refl _ files
  | cons path paths ih =>
    have hpatches := files.patch_patches path table dryRun
    rcases hpatch : files.patch path table dryRun with ⟨e | outcome, middle⟩
    · rw [hpatch] at hpatches
      rw [patchAll_cons_error hpatch]
      apply hpatches.framed.mono
      rintro _ ⟨rfl, hwrites⟩
      exact .inr ⟨e, rfl, hwrites⟩
    · rw [hpatch] at hpatches
      rw [patchAll_cons_ok hpatch]
      refine (hpatches.framed.mono ?_).trans ((ih middle).mono ?_)
      · rintro _ ⟨rfl, rfl⟩
        exact .inl (by simp)
      · rintro other (hfixed | hfailed)
        · exact .inl (by simp [hfixed])
        · exact .inr hfailed

/-- The first of the files that have been patched can be patched alone, and come to the
same outcomes. -/
theorem patchAll_started (hstarted : started <+: (files.patchAll table dryRun paths).done) :
    (files.patchAll table dryRun (started.map Prod.fst)).done = started ∧
      (files.patchAll table dryRun (started.map Prod.fst)).failure = none := by
  induction paths generalizing files started with
  | nil =>
    obtain rfl := List.prefix_nil.mp hstarted
    exact ⟨rfl, rfl⟩
  | cons path paths ih =>
    rcases hpatch : files.patch path table dryRun with ⟨e | outcome, middle⟩
    · rw [patchAll_cons_error hpatch] at hstarted
      obtain rfl := List.prefix_nil.mp hstarted
      exact ⟨rfl, rfl⟩
    · rw [patchAll_cons_ok hpatch] at hstarted
      rcases List.prefix_cons_iff.mp hstarted with rfl | ⟨rest, rfl, hrest⟩
      · exact ⟨rfl, rfl⟩
      · obtain ⟨hdone, hnone⟩ := ih hrest
        rw [List.map_cons, patchAll_cons_ok hpatch]
        exact ⟨by rw [hdone], hnone⟩

/-! ## Where backups go -/

/-- A backup that is made comes to a location: under its own path, or where the link
leads that has this path. -/
def MakesBackup (files : Files) (path : Path) (location : Location) : Prop :=
  files.locate ⟨false, false⟩ (backupPath path) = .ok (.free location) ∨
    (∃ link target,
      files.locate ⟨false, false⟩ (backupPath path) = .ok (.found link (.link target))) ∧
      files.locate ⟨true, false⟩ (backupPath path) = .ok (.free location)

theorem makesBackup_of_slot (hslot : files.slot? (backupPath path) = some location)
    (hnone : files.tree.entry? location = none) : files.MakesBackup path location := by
  obtain ⟨spot, hlocate, hspot⟩ := slot_eq_some_iff.mp hslot
  obtain ⟨hadmits, hreaches⟩ := locate_eq_ok_iff.mp hlocate
  have hfree : spot = .free location := by
    rcases spot with ⟨_, _ | _ | _⟩ | _
    · cases hspot
      rw [hreaches.found_entry rfl (by simp)] at hnone
      cases hnone
    · cases hspot
    · cases hspot
    · cases hspot
      rfl
  subst hfree
  rcases hreaches.reading.unfollowed with hsame | ⟨link, target, hlink⟩
  · exact .inl (locate_eq_ok_iff.mpr ⟨hadmits, hsame⟩)
  · exact .inr ⟨⟨link, target, locate_eq_ok_iff.mpr ⟨hadmits, hlink⟩⟩,
      locate_eq_ok_iff.mpr ⟨hadmits, hreaches.reading⟩⟩

/-- What may have come of a tree when some paths and their backups have been written. -/
structure Footprint (written : Path → Prop) (before after : Files) : Prop where
  /-- What was there is there, and of its kind.  Directories and links are what they were. -/
  kept : ∀ location entry, before.tree.entry? location = some entry →
    ∃ now, after.tree.entry? location = some now ∧ now.kind = entry.kind ∧
      (entry.kind ≠ .file → now = entry)
  /-- A path that led somewhere leads to the same place, and to the same kind of thing. -/
  leads : ∀ follow path location entry,
    before.locate ⟨follow, false⟩ path = .ok (.found location entry) →
    ∃ now, after.locate ⟨follow, false⟩ path = .ok (.found location now) ∧
      now.kind = entry.kind
  /-- What is new is a file, and stands where the backup of a written path goes. -/
  added : ∀ location entry, before.tree.entry? location = none →
    after.tree.entry? location = some entry →
    entry.kind = .file ∧ ∃ path, written path ∧ before.MakesBackup path location
  /-- A file holds something else only where a written path or its backup leads. -/
  changed : ∀ location old new, before.tree.entry? location = some (.file old) →
    after.tree.entry? location = some (.file new) → new ≠ old →
    ∃ path, written path ∧
      (before.fileAt? path = some location ∨ before.fileAt? (backupPath path) = some location)

/-- What is framed leaves no more than its footprint. -/
theorem Framed.footprint (hframed : Framed written before after) :
    Footprint written before after where
  kept _ _ hentry := hframed.stays hentry
  leads _ _ _ _ hlocate := hframed.leads hlocate
  added location entry hnone hentry := by
    obtain ⟨path, hpath, hslot⟩ := hframed.added location entry hnone hentry
    exact ⟨hframed.file_of_new hnone hentry, path, hpath, makesBackup_of_slot hslot hnone⟩
  changed location old new hold hnew hne := by
    have hother : after.tree.entry? location ≠ before.tree.entry? location := by
      rw [hold, hnew]
      simpa using hne
    obtain ⟨path, hpath, hslot⟩ := hframed.changed location hother
    refine ⟨path, hpath, ?_⟩
    rcases mem_slots_singleton.mp hslot with hbackup | hfile
    · exact .inr (fileAt_eq_some_iff.mpr ⟨hbackup, old, hold⟩)
    · exact .inl (fileAt_eq_some_iff.mpr ⟨hfile, old, hold⟩)

end Emend.Files
