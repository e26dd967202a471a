import Emend.Proofs.Patch.Addition
import Emend.Proofs.Patch.Footprint
import Emend.Proofs.Run.Cut
import Emend.Proofs.Run.ScanFirst
import Emend.Proofs.Scan.Growth

/-!
# Runs beside a new file

A file that has come to the working directory is noticed by no run that does not look for
its name.  The scan finds what it found before, and what it finds is patched as before:
the result, the output and the warnings are the same, and the new file stays the only
difference between the trees.
-/

namespace Emend

open Emend.Path (descend)

variable {files before after : Files} {root : Path} {base place location : Location}
  {content : Bytes} {name : Name} {scanner : Scanner} {path : Path}

namespace Files

/-- A directory that a walk comes to stands in the tree, or above where the walk began. -/
theorem Reaches.directory_stands {tree : Tree} {manner : Manner} {links : Nat}
    {here directory : Location} {names : List Name} {spot : Spot}
    (hreaches : Reaches tree manner links directory names spot)
    (hdirectory : ∀ part, part <+: directory → part ≠ [] →
      part <+: here ∨ tree.entry? part = some .directory)
    (hspot : spot = .found location .directory) :
    ∀ part, part <+: location → part ≠ [] →
      part <+: here ∨ tree.entry? part = some .directory := by
  induction hreaches with
  | here =>
    cases hspot
    exact hdirectory
  | stay _ _ ih => exact ih hdirectory hspot
  | up _ ih =>
    exact ih (fun part hpart => hdirectory part (hpart.trans (List.dropLast_prefix _))) hspot
  | free | file | link => cases hspot
  | enter _ hentry _ ih =>
    refine ih (fun part hpart hne => ?_) hspot
    rcases List.prefix_concat_iff.mp hpart with rfl | hfront
    · exact .inr hentry
    · exact hdirectory part hfront hne
  | @follow _ directory _ _ target _ _ _ _ _ ih =>
    refine ih (fun part hpart hne => ?_) hspot
    unfold origin at hpart
    split_ifs at hpart
    · exact absurd (List.prefix_nil.mp hpart) hne
    · exact hdirectory part hpart hne

/-- No path leads to a directory in place of a free name of the working directory. -/
theorem directoryAt_ne (hfree : files.tree.entry? (files.here ++ [name]) = none) :
    files.directoryAt? root ≠ some (files.here ++ [name]) := by
  intro hbase
  obtain ⟨-, hreaches⟩ := locate_eq_ok_iff.mp (directoryAt_eq_some_iff.mp hbase)
  have hstart : ∀ part, part <+: origin files.here root → part ≠ [] →
      part <+: files.here ∨ files.tree.entry? part = some .directory := by
    intro part hpart hne
    unfold origin at hpart
    split_ifs at hpart
    · exact absurd (List.prefix_nil.mp hpart) hne
    · exact .inl hpart
  rcases hreaches.directory_stands hstart rfl _ List.prefix_rfl (by simp) with habove | hentry
  · have hlength := habove.length_le
    simp at hlength
  · rw [hfree] at hentry
    cases hentry

end Files

namespace Scanner

theorem wants_descend (hname : name.Proper) (names : List Name) :
    scanner.wants (descend root (names ++ [name])) = scanner.wants name := by
  have hsplit : Path.split name = [] ++ [name] := List.splitOn_eq_singleton hname.no_slash
  rw [wants, wants, Path.descend_concat, Path.fileName?_join _ hname,
    Path.fileName?_of_split hsplit hname]

/-- A file of a name that a scan does not look for comes to its tree unnoticed. -/
theorem Grown.of_adds (hadds : Files.Adds (before.here ++ [name]) content before after)
    (hname : name.Proper) (hwants : scanner.wants name = false)
    (hbase : before.directoryAt? scanner.root = some base) : Grown scanner base before after := by
  refine ⟨hadds.grows.shape, fun location entry hentry => ⟨entry, hadds.keeps hentry, rfl⟩,
    fun names entry hentry hnone => ?_⟩
  rw [hadds.entry] at hentry
  split_ifs at hentry with hplace
  · cases hentry
    refine ⟨rfl, ?_⟩
    rcases List.eq_nil_or_concat' names with rfl | ⟨front, last, rfl⟩
    · rw [List.append_nil] at hplace
      exact absurd (hplace ▸ hbase) (Files.directoryAt_ne hadds.free)
    · rw [← List.append_assoc] at hplace
      obtain ⟨-, hlast⟩ := List.append_inj' hplace rfl
      rw [List.singleton_inj.mp hlast, wants_descend hname, hwants]
  · rw [hnone] at hentry
    cases hentry

/-- What a scan finds passes a free place, if no backup has its name. -/
theorem passes_of_scan (hwell : before.tree.WellFormed) (hfree : before.tree.LinkFree)
    (hbase : before.directoryAt? scanner.root = some base)
    (hplace : before.tree.entry? (location ++ [name]) = none) (hname : ¬backupTail <:+ name)
    (hfound : .file path ∈ scanner.scan before) :
    before.Passes scanner.root base (location ++ [name]) path := by
  obtain ⟨names, last, entry, rfl, hproper, hdescends, hentry, -, -⟩ :=
    exists_of_scan hwell hbase hfound
  have hnames : ∀ part ∈ names, part.Proper := fun part hpart => hproper part (by simp [hpart])
  have hlast : last.Proper := hproper last (by simp)
  refine ⟨⟨names, last, rfl, hproper, hdescends⟩, fun hslot => ?_, fun hslot => ?_⟩
  · rw [← Files.slot_below hbase hnames hlast hdescends (hfree _) hslot, hplace] at hentry
    cases hentry
  · rw [backupPath_descend hlast] at hslot
    have heq := Files.slot_below hbase hnames (proper_backupName hlast) hdescends (hfree _) hslot
    rw [← List.append_assoc] at heq
    obtain ⟨-, hsame⟩ := List.append_inj' heq rfl
    rw [List.singleton_inj.mp hsame] at hname
    exact hname (List.suffix_append last backupTail)

end Scanner

namespace Run

variable {config : Config} {table : RuleTable} {options : Options} {entries : List Scanned}

/-- Results that are the same, but that there is one file more. -/
inductive OneMore (place : Location) (content : Bytes) :
    EStateM.Result Error RunState Summary → EStateM.Result Error RunState Summary → Prop
  | ok (summary : Summary) {state : RunState} {now : Files}
      (hadds : Files.Adds place content state.files now) :
      OneMore place content (.ok summary state) (.ok summary { state with files := now })
  | error (e : Error) {state : RunState} {now : Files}
      (hadds : Files.Adds place content state.files now) :
      OneMore place content (.error e state) (.error e { state with files := now })

/-- Reports about files that pass the new one are dealt with as before. -/
theorem announce_adds (hadds : Files.Adds place content before after)
    (hfree : before.tree.LinkFree) (hbase : before.directoryAt? root = some base)
    (hpasses : ∀ path ∈ filePaths entries, before.Passes root base place path)
    (config : Config) (table : RuleTable) (options : Options) :
    OneMore place content (announce config table options entries (start before none))
      (announce config table options entries (start after none)) := by
  rcases done_or_failing table options before entries with
    hdone | ⟨first, path, second, e, last, rfl, hdone, hpatch, -⟩
  · obtain ⟨hsame, hfailure, hfiles⟩ := hadds.patchAll hfree hbase hpasses table options.dryRun
    have hdone' : (progressOf table options after entries).failure = none :=
      hfailure.trans hdone
    rw [announce_of_done config hdone, announce_of_done config hdone']
    simp only [advanced, progressOf, hsame]
    exact .ok _ hfiles
  · rw [filePaths_append, filePaths_file] at hpasses
    have hfirst : ∀ path ∈ filePaths first, before.Passes root base place path :=
      fun path hpath => hpasses path (by simp [hpath])
    obtain ⟨hsame, hfailure, hfiles⟩ := hadds.patchAll hfree hbase hfirst table options.dryRun
    have hdone' : (progressOf table options after first).failure = none :=
      hfailure.trans hdone
    have hshape := (before.patchAll_framed table options.dryRun (filePaths first)).shape
    obtain ⟨hcause, hlast⟩ := hfiles.patch (hshape.tree.linkFree hfree)
      (hshape.directoryAt_eq ▸ hbase) ((hpasses path (by simp)).of_shape hshape)
      table options.dryRun
    rcases hpatch' : (progressOf table options after first).files.patch path table
      options.dryRun with ⟨outcome, last'⟩
    rw [progressOf] at hpatch hpatch'
    rw [hpatch, hpatch'] at hcause hlast
    obtain rfl : outcome = .error e := hcause
    rw [announce_of_failing config hdone hpatch, announce_of_failing config hdone' hpatch']
    simp only [advanced, progressOf, hsame]
    exact .error e hlast

/-- A run that does not look for the name of a new file in the working directory does not
notice the file. -/
theorem run_adds (hwell : before.tree.WellFormed) (hwell' : after.tree.WellFormed)
    (hfree : before.tree.LinkFree) (hname : name.Proper) (hbackup : ¬backupTail <:+ name)
    (hadds : Files.Adds (before.here ++ [name]) content before after)
    (hwants : (Scanner.ofConfig config).wants name = false) (options : Options) :
    OneMore (before.here ++ [name]) content (run config options (start before none))
      (run config options (start after none)) := by
  have hrefused (e : Error) : OneMore (before.here ++ [name]) content
      (.error e (start before none)) (.error e (start after none)) := .error e hadds
  cases hvalid : config.validate with
  | error e =>
    rw [run_of_invalid hvalid, run_of_invalid hvalid]
    exact hrefused e
  | ok =>
    cases hcompile : RuleTable.compile config.rules with
    | error e =>
      rw [run_of_uncompiled hvalid hcompile, run_of_uncompiled hvalid hcompile]
      exact hrefused e
    | ok table =>
      have hsame : after.isDirectory config.root = before.isDirectory config.root := by
        rw [Bool.eq_iff_iff, Files.isDirectory_iff, Files.isDirectory_iff,
          hadds.grows.shape.directoryAt_eq]
      cases hroot : before.isDirectory config.root with
      | false =>
        rw [run_of_no_directory hvalid hcompile hroot,
          run_of_no_directory hvalid hcompile (hsame.trans hroot)]
        exact hrefused _
      | true =>
        obtain ⟨base, hbase⟩ := Files.isDirectory_iff.mp hroot
        have hscan : (Scanner.ofConfig config).scan after =
            (Scanner.ofConfig config).scan before :=
          (Scanner.Grown.of_adds hadds hname hwants hbase).scan_eq hwell hwell' hfree hbase
        rw [run_eq_announce_scan hwell hfree hvalid hcompile hroot,
          run_eq_announce_scan hwell' (hadds.grows.shape.tree.linkFree hfree) hvalid hcompile
            (hsame.trans hroot), hscan]
        refine announce_adds hadds hfree hbase (fun path hpath => ?_) config table options
        exact Scanner.passes_of_scan hwell hfree hbase hadds.free hbackup
          (Scanner.mem_files_iff.mp hpath)

end Run

end Emend
