import Emend.Proofs.Patch.Outcome
import Emend.Proofs.Text.Faults

/-!
# Files that are no text

A file is patched only if its whole content is text.  Otherwise the error says where and why
it is not, whatever the rules are.  The text that was read is saved as the bytes that it was
read from.
-/

namespace Emend.Files

open Utf8 (FaultOf)

variable {files after : Files} {path source : Path} {table : RuleTable} {dryRun : Bool}
  {bytes : Bytes} {fault : Utf8.Fault} {old new : String}

/-- Only a file whose content does not decode is reported as no text. -/
theorem patch_eq_notText_iff (hread : files.read path = .ok bytes) :
    (files.patch path table dryRun).1 = .error (.fileNotText source fault) ↔
      source = path ∧ Utf8.decode bytes = .error fault := by
  constructor
  · intro hpatch
    have hpatches := files.patch_patches path table dryRun
    rw [hpatch] at hpatches
    generalize (files.patch path table dryRun).2 = left at hpatches
    cases hpatches with
    | @notText found _ hread' hdecode =>
      rw [hread, Except.ok.injEq] at hread'
      exact ⟨rfl, hread' ▸ hdecode⟩
  · rintro ⟨rfl, hdecode⟩
    simp [patch, hread, hdecode]

/-- A file counts as overwritten if both writes succeed. -/
theorem overwrite_eq_fixed (hfixed : files.overwrite path old new = (.ok .fixed, after)) :
    ∃ saved, files.write (backupPath path) (Utf8.encode old) = (.ok (), saved) ∧
      saved.write path (Utf8.encode new) = (.ok (), after) := by
  unfold overwrite at hfixed
  split at hfixed
  · cases hfixed
  · next saved hsave =>
    split at hfixed
    · cases hfixed
    · next left hwrite =>
      cases hfixed
      exact ⟨saved, hsave, hwrite⟩

/-- What is fixed has had its whole content saved, byte for byte. -/
theorem saved_of_fixed (hread : files.read path = .ok bytes)
    (hfixed : files.patch path table false = (.ok .fixed, after)) :
    ∃ saved new, files.write (backupPath path) bytes = (.ok (), saved) ∧
      saved.write path new = (.ok (), after) := by
  cases hdecode : Utf8.decode bytes with
  | error fault => simp [patch, hread, hdecode] at hfixed
  | ok old =>
    obtain rfl := Utf8.encode_of_decode hdecode
    simp only [patch, hread, hdecode, Bool.false_eq_true, if_false] at hfixed
    split at hfixed
    · cases hfixed
    · obtain ⟨saved, hsave, hwrite⟩ := overwrite_eq_fixed hfixed
      exact ⟨saved, _, hsave, hwrite⟩

/-- A file that was fixed has its former bytes in the backup. -/
theorem read_backup_of_fixed (hread : files.read path = .ok bytes) (hapart : files.Apart path)
    (hfixed : files.patch path table false = (.ok .fixed, after)) :
    after.read (backupPath path) = .ok bytes := by
  have hsettled := (files.patch_patches path table false).settled hapart
  rw [hfixed] at hsettled
  obtain ⟨old, hchanges, -, hspare⟩ := hsettled
  rw [hchanges.read, Except.ok.injEq] at hread
  rw [hspare, hread]

/-- Patching a file takes its content for text exactly if it is the encoding of one, whatever
the rules are.  Otherwise the error tells the length of the text before the fault, and either
that the content ends inside a character or how many bytes are invalid there.  What is saved
of a file that is fixed is its content. -/
theorem patch_decodes (hread : files.read path = .ok bytes) (table : RuleTable) (dryRun : Bool) :
    ((∃ source fault, (files.patch path table dryRun).1 = .error (.fileNotText source fault)) ↔
      ¬∃ text, bytes = Utf8.encode text) ∧
    (∀ source fault, (files.patch path table dryRun).1 = .error (.fileNotText source fault) →
      source = path ∧ FaultOf bytes fault ∧
        (fault.length = none → (Error.fileNotText source fault).cause? =
          some ("incomplete utf-8 byte sequence from index " ++ toString fault.index)) ∧
        ∀ n, fault.length = some n → (Error.fileNotText source fault).cause? =
          some ("invalid utf-8 sequence of " ++ toString n ++ " bytes from index " ++
            toString fault.index)) ∧
    ∀ after, files.patch path table false = (.ok .fixed, after) →
      (∃ saved new, files.write (backupPath path) bytes = (.ok (), saved) ∧
        saved.write path new = (.ok (), after)) ∧
      (files.Apart path → after.read (backupPath path) = .ok bytes) := by
  refine ⟨⟨?_, ?_⟩, ?_, ?_⟩
  · rintro ⟨source, fault, hpatch⟩
    exact (Utf8.decode_eq_error_iff.mp ((patch_eq_notText_iff hread).mp hpatch).2).1
  · intro hnot
    cases hdecode : Utf8.decode bytes with
    | error fault => exact ⟨path, fault, (patch_eq_notText_iff hread).mpr ⟨rfl, hdecode⟩⟩
    | ok text => exact absurd ⟨text, (Utf8.encode_of_decode hdecode).symm⟩ hnot
  · intro source fault hpatch
    obtain ⟨hsource, hdecode⟩ := (patch_eq_notText_iff hread).mp hpatch
    refine ⟨hsource, (Utf8.decode_eq_error_iff.mp hdecode).2, ?_, ?_⟩
    · intro hlength
      simp only [Error.cause?, Utf8.Fault.message, hlength]
    · intro n hlength
      simp only [Error.cause?, Utf8.Fault.message, hlength]
  · intro after hfixed
    exact ⟨saved_of_fixed hread hfixed, fun hapart => read_backup_of_fixed hread hapart hfixed⟩

def tornFiles : Files :=
  ⟨⟨[([Path.ofString "a.hx"], .file [0x61, 0xE2, 0x82])]⟩, [], none⟩

theorem patch_decodes_torn :
    tornFiles.read (Path.ofString "a.hx") = .ok [0x61, 0xE2, 0x82] ∧
      (tornFiles.patch (Path.ofString "a.hx") [letterRule] false).1 =
        .error (.fileNotText (Path.ofString "a.hx") ⟨1, none⟩) ∧
      FaultOf [0x61, 0xE2, 0x82] ⟨1, none⟩ := by
  have hread : tornFiles.read (Path.ofString "a.hx") = .ok [0x61, 0xE2, 0x82] := by cbv
  have hpatch : (tornFiles.patch (Path.ofString "a.hx") [letterRule] false).1 =
      .error (.fileNotText (Path.ofString "a.hx") ⟨1, none⟩) := by
    have hdecode : Utf8.decode [0x61, 0xE2, 0x82] = .error ⟨1, none⟩ := by decide +kernel
    exact (patch_eq_notText_iff hread).mpr ⟨rfl, hdecode⟩
  obtain ⟨-, htells, -⟩ := patch_decodes hread [letterRule] false
  exact ⟨hread, hpatch, (htells _ _ hpatch).2.1⟩

end Emend.Files
