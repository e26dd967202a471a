import Mathlib
import Emend.Patch
import Emend.Proofs.Files.Access
import Emend.Proofs.Pattern.Letters
import Emend.Proofs.Text.Decoding

/-!
# What patching a file leaves behind

Patching can stop at the reading, at the decoding, at the backup or at the new
text, and a write that fails may have put a part of its content down.  The cases
are listed once, each with the files that it leaves.  If a file is not its own
backup, its whole old text stands in one of the two places in every case.
-/

namespace Emend.Files

variable {files before after : Files} {path : Path} {table : RuleTable} {dryRun : Bool}
  {old : String} {place spare : Location}

structure Holds (files : Files) (path : Path) (text : String) : Prop where
  read : files.read path = .ok (Utf8.encode text)
  decode : Utf8.decode (Utf8.encode text) = .ok text

structure Changes (files : Files) (path : Path) (table : RuleTable) (old : String) : Prop
    extends Holds files path old where
  ne : table.apply old ≠ old

/-- The outcomes of patching a file, with the files that each leaves. -/
inductive Patches (files : Files) (path : Path) (table : RuleTable) (dryRun : Bool) :
    Except Error Patched → Files → Prop
  | unreadable {cause : OsError} (hread : files.read path = .error cause) :
      Patches files path table dryRun (.error (.fileUnreadable path cause)) files
  | notText {bytes : Bytes} {fault : Utf8.Fault} (hread : files.read path = .ok bytes)
      (hdecode : Utf8.decode bytes = .error fault) :
      Patches files path table dryRun (.error (.fileNotText path fault)) files
  | unchanged {text : String} (hholds : files.Holds path text)
      (hsame : table.apply text = text) :
      Patches files path table dryRun (.ok .unchanged) files
  | foreseen {old : String} (hchanges : files.Changes path table old)
      (hdry : dryRun = true) :
      Patches files path table dryRun (.ok .fixed) files
  | backupRefused {old : String} {cause : OsError} (hchanges : files.Changes path table old)
      (hdry : dryRun = false) (hspare : files.slot? (backupPath path) = none) :
      Patches files path table dryRun (.error (.backupFailed (backupPath path) cause)) files
  | backupCut {old : String} {spare : Location} (hchanges : files.Changes path table old)
      (hdry : dryRun = false) (hspare : files.slot? (backupPath path) = some spare) :
      Patches files path table dryRun (.error (.backupFailed (backupPath path) .fileTooLarge))
        (files.store spare (files.kept (Utf8.encode old)))
  | overwriteCut {old : String} {place spare : Location}
      (hchanges : files.Changes path table old)
      (hdry : dryRun = false) (hspare : files.slot? (backupPath path) = some spare)
      (hplace : files.slot? path = some place) :
      Patches files path table dryRun (.error (.overwriteFailed path .fileTooLarge))
        ((files.store spare (Utf8.encode old)).store place
          (files.kept (Utf8.encode (table.apply old))))
  | fixed {old : String} {place spare : Location} (hchanges : files.Changes path table old)
      (hdry : dryRun = false) (hspare : files.slot? (backupPath path) = some spare)
      (hplace : files.slot? path = some place) :
      Patches files path table dryRun (.ok .fixed)
        ((files.store spare (Utf8.encode old)).store place (Utf8.encode (table.apply old)))

theorem Holds.exists_slot {text : String} (hholds : files.Holds path text) :
    ∃ place, files.slot? path = some place ∧
      files.tree.entry? place = some (.file (Utf8.encode text)) :=
  read_eq_ok_iff.mp hholds.read

theorem overwrite_patches (hchanges : files.Changes path table old) :
    Patches files path table false (files.overwrite path old (table.apply old)).1
      (files.overwrite path old (table.apply old)).2 := by
  obtain ⟨place, hplace, -⟩ := hchanges.exists_slot
  unfold overwrite
  rcases files.write_cases (backupPath path) (Utf8.encode old) with
    ⟨hspare, cause, hwrite⟩ | ⟨spare, hspare, hwrite | ⟨-, hwrite⟩⟩
  · rw [hwrite]
    exact .backupRefused hchanges rfl hspare
  · rw [hwrite]
    -- The backup keeps the shape of the tree, so the file still has its slot.
    have hshape : files.SameShape (files.store spare (Utf8.encode old)) :=
      sameShape_store (isOpen_of_slot hspare)
    rcases (files.store spare (Utf8.encode old)).write_cases path
        (Utf8.encode (table.apply old)) with
      ⟨hnone, -⟩ | ⟨location, hlocation, hwrite | ⟨-, hwrite⟩⟩
    · rw [← hshape.slot_eq, hplace] at hnone
      cases hnone
    · rw [← hshape.slot_eq] at hlocation
      simp only [hwrite]
      exact .fixed hchanges rfl hspare hlocation
    · rw [← hshape.slot_eq] at hlocation
      simp only [hwrite]
      exact .overwriteCut hchanges rfl hspare hlocation
  · rw [hwrite]
    exact .backupCut hchanges rfl hspare

/-- Patching comes to one of its outcomes. -/
theorem patch_patches (files : Files) (path : Path) (table : RuleTable) (dryRun : Bool) :
    Patches files path table dryRun (files.patch path table dryRun).1
      (files.patch path table dryRun).2 := by
  unfold patch
  cases hread : files.read path with
  | error cause => exact .unreadable hread
  | ok bytes =>
    cases hdecode : Utf8.decode bytes with
    | error fault => simpa only [hdecode] using .notText hread hdecode
    | ok old =>
      obtain rfl := Utf8.encode_of_decode hdecode
      simp only [hdecode]
      by_cases hsame : table.apply old = old
      · rw [if_pos hsame]
        exact .unchanged ⟨hread, hdecode⟩ hsame
      · rw [if_neg hsame]
        have hchanges : files.Changes path table old := ⟨⟨hread, hdecode⟩, hsame⟩
        cases dryRun with
        | true => exact .foreseen hchanges rfl
        | false => exact overwrite_patches hchanges

/-- A text that the rules change is overwritten. -/
theorem Changes.patch_eq (hchanges : files.Changes path table old) :
    files.patch path table false = files.overwrite path old (table.apply old) := by
  simp [patch, hchanges.read, hchanges.decode, hchanges.ne]

/-- A file whose text the rules do not change is left alone. -/
theorem Holds.patch_eq {text : String} (hholds : files.Holds path text)
    (hsame : table.apply text = text) : files.patch path table dryRun = (.ok .unchanged, files) := by
  simp [patch, hholds.read, hholds.decode, hsame]

/-! ## What has changed -/

/-- The trees differ at most at the slots of some paths, where each has a file or nothing. -/
structure ChangedAt (paths : List Path) (before after : Files) : Prop where
  shape : before.SameShape after
  entry : ∀ location, (∀ path ∈ paths, before.slot? path ≠ some location) →
    after.tree.entry? location = before.tree.entry? location

namespace ChangedAt

variable {paths : List Path}

theorem refl (paths : List Path) (files : Files) : ChangedAt paths files files :=
  ⟨.refl files, fun _ _ => rfl⟩

theorem store (hchanged : ChangedAt paths before after) (hpath : path ∈ paths)
    (hslot : before.slot? path = some place) {content : Bytes} :
    ChangedAt paths before (after.store place content) := by
  have hsame : after.slot? path = some place := by
    rw [← hchanged.shape.slot_eq, hslot]
  have hopen := isOpen_of_slot hsame
  constructor
  · exact hchanged.shape.trans (sameShape_store hopen)
  · intro location hlocation
    have hne : location ≠ place := by
      rintro rfl
      exact hlocation path hpath hslot
    rw [entry_store hopen, if_neg hne, hchanged.entry location hlocation]

end ChangedAt

/-- Patching changes nothing but the file and its backup. -/
theorem Patches.changedAt {outcome : Except Error Patched}
    (hpatches : Patches before path table dryRun outcome after) :
    ChangedAt [path, backupPath path] before after := by
  cases hpatches with
  | unreadable | notText | unchanged | foreseen | backupRefused => exact .refl _ _
  | backupCut _ _ hspare => exact ChangedAt.store (.refl _ _) (by simp) hspare
  | overwriteCut _ _ hspare hplace | fixed _ _ hspare hplace =>
    exact ChangedAt.store (ChangedAt.store (.refl _ _) (by simp) hspare) (by simp) hplace

/-! ## The old text -/

/-- The backup of a path leads to another file than the path itself, if both lead to files. -/
def Apart (files : Files) (path : Path) : Prop :=
  ∀ place, files.fileAt? path = some place → files.fileAt? (backupPath path) ≠ some place

theorem Apart.ne_slot (hapart : files.Apart path) (hchanges : files.Changes path table old)
    (hplace : files.slot? path = some place) : files.slot? (backupPath path) ≠ some place := by
  intro hspare
  obtain ⟨location, hlocation, hentry⟩ := hchanges.exists_slot
  rw [hplace, Option.some.injEq] at hlocation
  subst hlocation
  exact hapart place (fileAt_eq_some_iff.mpr ⟨hplace, _, hentry⟩)
    (fileAt_eq_some_iff.mpr ⟨hspare, _, hentry⟩)

/-- The backup still reads the old text after the new one has been written. -/
theorem Apart.read_backup (hapart : files.Apart path) (hchanges : files.Changes path table old)
    (hspare : files.slot? (backupPath path) = some spare)
    (hplace : files.slot? path = some place) {content : Bytes} :
    ((files.store spare (Utf8.encode old)).store place content).read (backupPath path) =
      .ok (Utf8.encode old) := by
  have hshape : files.SameShape (files.store spare (Utf8.encode old)) :=
    sameShape_store (isOpen_of_slot hspare)
  apply read_store_of_ne
  · exact hshape.tree.isOpen (isOpen_of_slot hplace)
  · exact read_store_self hspare
  · rw [← hshape.slot_eq]
    exact hapart.ne_slot hchanges hplace

theorem read_overwritten {saved content : Bytes}
    (hspare : files.slot? (backupPath path) = some spare)
    (hplace : files.slot? path = some place) :
    ((files.store spare saved).store place content).read path = .ok content := by
  apply read_store_self
  rw [← (sameShape_store (isOpen_of_slot hspare)).slot_eq, hplace]

/-- How patching a file may leave the files, by its outcome. -/
def Settled (path : Path) (table : RuleTable) (before after : Files) :
    Except Error Patched → Prop
  | .error (.fileUnreadable source _) | .error (.fileNotText source _) =>
    source = path ∧ after = before
  | .ok .unchanged => after = before
  | .ok .fixed => ∃ old, before.Changes path table old ∧
      after.read path = .ok (Utf8.encode (table.apply old)) ∧
      after.read (backupPath path) = .ok (Utf8.encode old)
  | .error (.backupFailed target _) => target = backupPath path ∧
      ∃ old, before.Changes path table old ∧
        after.read path = .ok (Utf8.encode old) ∧
        ChangedAt [backupPath path] before after ∧
        (after = before ∨
          ∃ part, part <+: Utf8.encode old ∧ after.read (backupPath path) = .ok part)
  | .error (.overwriteFailed target _) => target = path ∧
      ∃ old, before.Changes path table old ∧
        after.read (backupPath path) = .ok (Utf8.encode old) ∧
        ∃ part, part <+: Utf8.encode (table.apply old) ∧ after.read path = .ok part
  | .error _ => False

/-- Patching leaves a file settled, however it ends, if the backup is another file. -/
theorem Patches.settled {outcome : Except Error Patched} (hapart : before.Apart path)
    (hpatches : Patches before path table false outcome after) :
    Settled path table before after outcome := by
  cases hpatches with
  | unreadable | notText => exact ⟨rfl, rfl⟩
  | unchanged => rfl
  | foreseen _ hdry => cases hdry
  | backupRefused hchanges => exact ⟨rfl, _, hchanges, hchanges.read, .refl _ _, .inl rfl⟩
  | @backupCut old spare hchanges _ hspare =>
    refine ⟨rfl, old, hchanges, ?_, ChangedAt.store (.refl _ _) (by simp) hspare, .inr ?_⟩
    · apply read_store_of_ne (isOpen_of_slot hspare) hchanges.read
      intro hplace
      exact hapart.ne_slot hchanges hplace hspare
    · exact ⟨_, before.kept_prefix _, read_store_self hspare⟩
  | overwriteCut hchanges _ hspare hplace =>
    exact ⟨rfl, _, hchanges, hapart.read_backup hchanges hspare hplace,
      _, before.kept_prefix _, read_overwritten hspare hplace⟩
  | fixed hchanges _ hspare hplace =>
    exact ⟨_, hchanges, read_overwritten hspare hplace,
      hapart.read_backup hchanges hspare hplace⟩

/-- However patching ends, what the path read before is read there or at the backup. -/
theorem Settled.keeps {outcome : Except Error Patched} {bytes : Bytes}
    (hsettled : Settled path table before after outcome)
    (hread : before.read path = .ok bytes) :
    after.read path = .ok bytes ∨ after.read (backupPath path) = .ok bytes := by
  have hbytes {old : String} (hchanges : before.Changes path table old) :
      Utf8.encode old = bytes := by
    rw [hchanges.read, Except.ok.injEq] at hread
    exact hread
  match outcome, hsettled with
  | .error (.fileUnreadable _ _), ⟨_, hsame⟩ | .error (.fileNotText _ _), ⟨_, hsame⟩ =>
    exact .inl (hsame ▸ hread)
  | .ok .unchanged, hsame => exact .inl (hsame ▸ hread)
  | .ok .fixed, ⟨_, hchanges, _, hspare⟩ => exact .inr (hbytes hchanges ▸ hspare)
  | .error (.backupFailed _ _), ⟨_, _, hchanges, hplace, _⟩ =>
    exact .inl (hbytes hchanges ▸ hplace)
  | .error (.overwriteFailed _ _), ⟨_, _, hchanges, hspare, _⟩ =>
    exact .inr (hbytes hchanges ▸ hspare)

def letterRule : CompiledRule :=
  let expr := Pattern.Expr.set (.singleton 'a')
  ⟨⟨"a", "b"⟩, ⟨expr, expr.program, [], rfl⟩, [.char 'b']⟩

theorem letterRule_apply (text : String) : RuleTable.apply [letterRule] text =
    String.ofList (text.toList.flatMap (Pattern.replaceChar (.singleton 'a') ['b'])) :=
  Pattern.replaceAll_set rfl ['b'] text

theorem letterRule_changes : RuleTable.apply [letterRule] "a" = "b" :=
  (letterRule_apply "a").trans (by decide)

theorem letterRule_leaves : RuleTable.apply [letterRule] "c" = "c" :=
  (letterRule_apply "c").trans (by decide)

/-- A file that the letter rule changes is overwritten. -/
theorem patch_letter (hread : files.read path = .ok (Utf8.encode "a")) :
    files.patch path [letterRule] false = files.overwrite path "a" "b" := by
  have hchanges : files.Changes path [letterRule] "a" := by
    refine ⟨⟨hread, by cbv⟩, ?_⟩
    rw [letterRule_changes]
    decide
  rw [hchanges.patch_eq, letterRule_changes]

/-- No text is lost on any outcome of patching a file that is not its own backup.
Every outcome leaves the file and the backup in a known state and changes nothing
else, and the text that was there is whole in one of the two. -/
theorem patch_keeps_text (files : Files) (path : Path) (table : RuleTable)
    (hapart : files.Apart path) :
    Settled path table files (files.patch path table false).2
        (files.patch path table false).1 ∧
      ChangedAt [path, backupPath path] files (files.patch path table false).2 ∧
      ∀ bytes, files.read path = .ok bytes →
        (files.patch path table false).2.read path = .ok bytes ∨
          (files.patch path table false).2.read (backupPath path) = .ok bytes := by
  have hpatches := files.patch_patches path table false
  have hsettled := hpatches.settled hapart
  exact ⟨hsettled, hpatches.changedAt, fun bytes hread => hsettled.keeps hread⟩

def letterFiles : Files :=
  ⟨⟨[([Path.ofString "a.hx"], .file (Utf8.encode "a")),
    ([Path.ofString "a.hx.backup"], .file (Utf8.encode "c"))]⟩, [], none⟩

theorem patch_keeps_text_letter :
    letterFiles.Apart (Path.ofString "a.hx") ∧
      letterFiles.Changes (Path.ofString "a.hx") [letterRule] "a" ∧
      Settled (Path.ofString "a.hx") [letterRule] letterFiles
        (letterFiles.patch (Path.ofString "a.hx") [letterRule] false).2
        (letterFiles.patch (Path.ofString "a.hx") [letterRule] false).1 := by
  have hapart : letterFiles.Apart (Path.ofString "a.hx") := by
    intro place hplace
    rw [show letterFiles.fileAt? (Path.ofString "a.hx") = some [Path.ofString "a.hx"] by cbv]
      at hplace
    rw [show letterFiles.fileAt? (backupPath (Path.ofString "a.hx")) =
      some [Path.ofString "a.hx.backup"] by cbv, ← hplace]
    decide
  have hchanges : letterFiles.Changes (Path.ofString "a.hx") [letterRule] "a" := by
    refine ⟨⟨by cbv, by cbv⟩, ?_⟩
    rw [letterRule_changes]
    decide
  have hkeeps := patch_keeps_text letterFiles (Path.ofString "a.hx") [letterRule] hapart
  exact ⟨hapart, hchanges, hkeeps.1⟩

end Emend.Files
