import Emend.Proofs.Patch.Placement
import Emend.Proofs.Path.Parent
import Emend.Proofs.Text.Endings
import Emend.Scan

/-!
# Backups in a scan

The name of a backup ends in its own extension, whatever file it belongs to.  Only an
extension that ends so itself can make a scan take a backup for a file.
-/

namespace Emend

open Emend.Path (slash dot)

namespace Path

/-- The last component of the path of a backup ends as backups do. -/
theorem fileName?_backupPath (path : Path) :
    ∃ front, fileName? (backupPath path) = some (front ++ backupTail) := by
  have htail : slash ∉ backupTail := by
    rw [backupTail_eq]
    decide
  obtain ⟨start, last, front, rfl, hlast, -, hsplit⟩ := exists_last path
  have hlength : 7 ≤ (last ++ backupTail).length := by
    simp [backupTail_eq]
  have hne {short : Name} (hshort : short.length < 7) : last ++ backupTail ≠ short := by
    intro heq
    rw [heq] at hlength
    omega
  have hkeep : [last ++ backupTail].filter (fun c => c ≠ [] ∧ c ≠ [dot]) =
      [last ++ backupTail] :=
    List.filter_cons_of_pos (decide_eq_true ⟨hne (by decide), hne (by decide)⟩)
  refine ⟨last, ?_⟩
  rw [fileName?, backupPath, ← backupTail, List.append_assoc,
    hsplit _ (List.not_mem_append hlast htail), List.filter_append, hkeep,
    List.getLast?_append_of_ne_nil _ (by simp), List.getLast?_singleton]
  exact if_neg (hne (by decide))

end Path

/-- The extensions that a scan may look for without taking backups for files. -/
def SparesBackups (extensions : List String) : Prop :=
  ∀ e ∈ extensions, LowerCase.ofChars (bareExtension e) ≠ "backup".toList ∧
    ¬".backup".toList <:+ LowerCase.ofChars (bareExtension e)

namespace Scanner

theorem small_letters : ∀ c ∈ ".backup".toList, LowerCase.IsSmall c := by
  have hall : ".backup".toList.all (fun c => decide (LowerCase.IsSmall c)) = true := by
    decide +kernel
  intro c hc
  exact of_decide_eq_true (List.all_eq_true.mp hall c hc)

theorem display_backup (front : Bytes) :
    ∃ start, (Path.display (front ++ backupTail)).toList = start ++ ".backup".toList := by
  have hdot : (0x2E : UInt8) < 0x80 := by decide
  have htail : (Utf8.lossy backupTail).toList = ".backup".toList := by decide +kernel
  obtain ⟨start, hstart⟩ := Utf8.lossy_append hdot front backupTail.tail
  refine ⟨start, ?_⟩
  rw [← htail]
  exact hstart

/-- Nothing but `.backup` and what ends so comes before the end of a backup's name. -/
theorem not_suffix_backup {letters image : List Char} (hne : letters ≠ "backup".toList)
    (hend : ¬".backup".toList <:+ letters) : ¬ '.' :: letters <:+ image ++ ".backup".toList := by
  intro hsuffix
  have hletters : ".backup".toList = '.' :: "backup".toList := by decide +kernel
  rcases List.suffix_or_suffix_of_suffix hsuffix (List.suffix_append image _) with h | h
  · rw [hletters, List.suffix_cons_iff] at h
    rcases h with heq | hlater
    · exact hne (List.cons.inj heq).2
    · have hdot : '.' ∉ "backup".toList := by decide +kernel
      exact hdot (hlater.subset (by simp))
  · rcases List.suffix_cons_iff.mp h with heq | hlater
    · rw [hletters] at heq
      exact hne (List.cons.inj heq).2.symm
    · exact hend hlater

/-- A scan that spares backups wants the backup of no file. -/
theorem wants_backupPath (root : Path) {extensions : List String}
    (hspares : SparesBackups extensions) (path : Path) :
    (ofExtensions root extensions).wants (backupPath path) = false := by
  obtain ⟨front, hname⟩ := Path.fileName?_backupPath path
  obtain ⟨start, hdisplay⟩ := display_backup front
  obtain ⟨image, himage⟩ := LowerCase.ofChars_append small_letters start
  unfold wants
  rw [hname]
  simp only [hdisplay, himage, ofExtensions, List.any_map, List.any_eq_false,
    Function.comp_apply, List.isSuffixOf_iff_suffix]
  intro e he
  obtain ⟨hne, hend⟩ := hspares e he
  exact not_suffix_backup hne hend

/-- A backup lies beside its file, under a path that belongs to no other file, and no scan
that spares backups wants it. -/
theorem backups_apart {extensions : List String} (hspares : SparesBackups extensions) :
    (∀ root path, (ofExtensions root extensions).wants (backupPath path) = false) ∧
      Function.Injective backupPath ∧ (∀ path, backupPath path ≠ path) ∧
      ∀ path name, (Path.split path).getLast? = some name → name ≠ [] → name ≠ [dot] →
        Path.parent? (backupPath path) = Path.parent? path := by
  refine ⟨fun root path => wants_backupPath root hspares path,
    fun path other heq => Files.backupPath_injective heq, fun path => ?_,
    fun path name hname hne hdot => ?_⟩
  · have hlength : path.length < (backupPath path).length := by
      rw [backupPath, ← backupTail, backupTail_eq, List.length_append]
      simp
    exact fun heq => hlength.ne (congrArg List.length heq.symm)
  · have hlonger : name ++ backupTail ≠ [dot] := by
      intro heq
      simpa [backupTail_eq] using congrArg List.length heq
    have htail : slash ∉ backupTail := by
      rw [backupTail_eq]
      decide
    exact Path.parent?_longer hname hne hdot hlonger htail

/-- The extension `ackup` is the end of `backup` but does not make a scan take backups, and
the parent of a file on the top level is the empty path. -/
theorem backups_apart_ackup :
    SparesBackups ["hx", "ackup", "BACKUPS"] ∧
      (ofExtensions [slash] ["hx", "ackup", "BACKUPS"]).wants
        (backupPath (Path.ofString "A.hx")) = false ∧
      Path.parent? (backupPath (Path.ofString "A.hx")) = Path.parent? (Path.ofString "A.hx") ∧
      Path.parent? (Path.ofString "A.hx") = some [] := by
  have hspares : SparesBackups ["hx", "ackup", "BACKUPS"] := by
    unfold SparesBackups
    decide +kernel
  obtain ⟨hwants, -, -, hparent⟩ := backups_apart hspares
  exact ⟨hspares, hwants _ _,
    hparent _ (Path.ofString "A.hx") (by decide +kernel) (by decide +kernel) (by decide +kernel),
    by decide +kernel⟩

end Scanner

end Emend
