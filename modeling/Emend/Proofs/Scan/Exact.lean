import Mathlib
import Emend.Proofs.Scan.Order

/-!
# What a scan finds

A scan finds the files that a walk through real directories leads to and whose
names are wanted, each of them once and in the order of the names on the way.
What it cannot read it reports once, and loses only what lies below.
-/

namespace Emend

open Emend.Path (descend)

def Scanned.file? : Scanned → Option Path
  | file path => some path
  | skipped _ _ => none

def Scanned.skipped? : Scanned → Option (Option Path)
  | file _ => none
  | skipped path _ => some path

namespace Files

/-- The kind of what stands under names below a root.  The root itself may be reached
through links, but a link among the names leads nowhere. -/
def kindBelow? (files : Files) (root : Path) (names : List Name) : Option EntryKind :=
  if names = [] then (files.linkKind root).toOption
  else (files.directoryAt? root).bind fun base =>
    (files.tree.entry? (base ++ names)).map Entry.kind

/-- There is a directory under names below a root.  The root itself may be a link to one. -/
def EntersBelow (files : Files) (root : Path) (names : List Name) : Prop :=
  if names = [] then files.isDirectory root = true
  else files.kindBelow? root names = some .directory

/-- There is a file under names below a root, or a link that leads to a file. -/
def CountsBelow (files : Files) (root : Path) (names : List Name) : Prop :=
  files.kindBelow? root names = some .file ∨
    files.kindBelow? root names = some .link ∧ files.isFile (descend root names) = true

/-- Nothing can be learned of the root, or there is a directory under names below it that
cannot be listed. -/
def FailsBelow (files : Files) (root : Path) (names : List Name) (cause : OsError) : Prop :=
  names = [] ∧ (files.linkKind root = .error cause ∨
      files.linkKind root = .ok .link ∧ files.kind root = .error cause) ∨
    files.EntersBelow root names ∧ files.list (descend root names) = .error cause

end Files

namespace Scanner

/-- There are directories alone on the way along some names, and none of them was
skipped. -/
structure GetsTo (scanner : Scanner) (files : Files) (names : List Name) : Prop where
  way : ∀ part, part <+: names → part ≠ names → files.EntersBelow scanner.root part
  passes : ∀ part, part <+: names → part ≠ names → ∀ reason,
    .skipped (some (descend scanner.root part)) reason ∉ scanner.scan files

/-- The names of a file that a scan has to find. -/
structure Seeks (scanner : Scanner) (files : Files) (names : List Name) : Prop
    extends GetsTo scanner files names where
  counts : files.CountsBelow scanner.root names
  wanted : scanner.wants (descend scanner.root names) = true

/-- The names of a place that a scan has to report as unreadable. -/
structure Misses (scanner : Scanner) (files : Files) (names : List Name) (cause : OsError) :
    Prop extends GetsTo scanner files names where
  fails : files.FailsBelow scanner.root names cause

/-- A scan finds the files with the given names, and reports what it cannot read and
nothing else. -/
structure Finds (scanner : Scanner) (files : Files) (found : List (List Name)) : Prop where
  paths : (scanner.scan files).filterMap Scanned.file? = found.map (descend scanner.root)
  mem_iff : ∀ names, names ∈ found ↔ scanner.Seeks files names
  increasing : found.Pairwise (· < ·)
  once : ((scanner.scan files).filterMap Scanned.file?).Nodup
  /-- A root or directory is skipped just if it cannot be read. -/
  skipped_iff : ∀ path reason, .skipped path reason ∈ scanner.scan files ↔
    ∃ names cause, path = some (descend scanner.root names) ∧
      reason = "IO error for operation on " ++ (descend scanner.root names).display ++ ": " ++
        cause.message ∧
      scanner.Misses files names cause
  skipped_once : ((scanner.scan files).filterMap Scanned.skipped?).Nodup
  /-- The other reports are those of a scan that finds an empty directory there. -/
  skipped_hollow : ∀ before path reason after,
    scanner.scan files = before ++ .skipped (some path) reason :: after →
      before ++ after = scanner.scanHollow files path

end Scanner

variable {scanner : Scanner} {files : Files} {visit : Visit} {path root : Path} {name : Name}
  {names part : List Name} {base : Location} {entry : Entry}

namespace Files

theorem kindBelow_eq (hbase : files.directoryAt? root = some base) (hne : names ≠ []) :
    files.kindBelow? root names = (files.tree.entry? (base ++ names)).map Entry.kind := by
  simp [kindBelow?, hne, hbase]

theorem isDirectory_iff :
    files.isDirectory path ↔ ∃ base, files.directoryAt? path = some base := by
  rw [← kind_eq_directory_iff, isDirectory]
  rcases files.kind path with e | _ | _ | _ <;> simp

/-- To enter at some names, and at all before them, is to go down through directories. -/
theorem entersBelow_iff (hbase : files.directoryAt? root = some base) (hne : names ≠ []) :
    files.EntersBelow root names ↔ files.tree.entry? (base ++ names) = some .directory := by
  rw [EntersBelow, if_neg hne, kindBelow_eq hbase hne, Option.map_eq_some_iff]
  constructor
  · rintro ⟨entry, hentry, hkind⟩
    cases entry <;> simp [Entry.kind] at hkind
    exact hentry
  · intro hentry
    exact ⟨_, hentry, rfl⟩

end Files

namespace Scanner

/-! ## What is found is there -/

theorem counts_root_iff :
    (Visit.root path).Counts files ↔ files.CountsBelow path [] := by
  simp only [Visit.Counts, Visit.kind, Visit.path, Files.CountsBelow, Files.kindBelow?, if_pos,
    Path.descend_nil, Files.isFile]
  rcases files.linkKind path with e | _ | _ | _ <;>
    rcases files.kind path with e | _ | _ | _ <;> simp [Except.toOption]

namespace Comes

/-- A directory that a scan comes to can be entered below the root. -/
theorem entersBelow (hwell : files.tree.WellFormed) (hcomes : Comes scanner files names visit)
    (hkind : visit.kind files = .ok .directory) : files.EntersBelow scanner.root names := by
  obtain ⟨base, hbase, hdescends⟩ := hcomes.descends hwell hkind
  by_cases hne : names = []
  · rw [Files.EntersBelow, if_pos hne]
    exact Files.isDirectory_iff.mpr ⟨base, hbase⟩
  · exact (Files.entersBelow_iff hbase hne).mpr (hdescends names List.prefix_rfl hne)

theorem countsBelow (hwell : files.tree.WellFormed) (hcomes : Comes scanner files names visit)
    (hcounts : visit.Counts files) : files.CountsBelow scanner.root names := by
  rcases List.eq_nil_or_concat' names with rfl | ⟨front, last, rfl⟩
  · obtain rfl := hcomes.unique hwell .root
    exact counts_root_iff.mp hcounts
  · rw [Visit.Counts, hcomes.path_eq] at hcounts
    obtain ⟨base, entry, hbase, -, hentry, rfl⟩ := hcomes.found_below hwell
    rw [Files.CountsBelow, Files.kindBelow_eq hbase (by simp), hentry]
    simpa [Visit.kind] using hcounts

/-- A scan comes to a place through directories that it can read. -/
theorem through (hcomes : Comes scanner files names visit) (hpart : part <+: names)
    (hne : part ≠ names) :
    ∃ other entries, Comes scanner files part other ∧ other.kind files = .ok .directory ∧
      files.list other.path = .ok entries := by
  induction hcomes with
  | root => exact absurd (List.prefix_nil.mp hpart) hne
  | @child names visit name kind entries hvisit hkind hlist _ ih =>
    by_cases hlast : part = names
    · subst hlast
      exact ⟨visit, entries, hvisit, hkind, hlist⟩
    · exact ih ((List.prefix_concat_iff.mp hpart).resolve_left hne) hlast

/-- Nothing is skipped where a directory can be read. -/
theorem not_skipped (hwell : files.tree.WellFormed) (hcomes : Comes scanner files names visit)
    (hkind : visit.kind files = .ok .directory) {entries : List (Name × EntryKind)}
    (hlist : files.list visit.path = .ok entries) (reason : String) :
    .skipped (some (descend scanner.root names)) reason ∉ scanner.scan files := by
  intro hskipped
  obtain ⟨others, other, hother, hfound⟩ := (mem_scan_iff hwell).mp hskipped
  have hpath : other.path = visit.path := by
    have := path_of_found hfound
    rw [Scanned.path?, Option.some.injEq] at this
    rw [hcomes.path_eq, this]
  obtain rfl : others = names := hother.names_eq hwell hcomes hpath
  obtain rfl : other = visit := hother.unique hwell hcomes
  rw [expand_eq, hkind] at hfound
  simp [look, enter, hlist] at hfound

theorem getsTo (hwell : files.tree.WellFormed) (hcomes : Comes scanner files names visit) :
    scanner.GetsTo files names := by
  refine ⟨fun part hpart hne => ?_, fun part hpart hne => ?_⟩
  · obtain ⟨other, entries, hother, hkind, -⟩ := hcomes.through hpart hne
    exact hother.entersBelow hwell hkind
  · obtain ⟨other, entries, hother, hkind, hlist⟩ := hcomes.through hpart hne
    exact hother.not_skipped hwell hkind hlist

theorem seeks (hwell : files.tree.WellFormed) (hcomes : Comes scanner files names visit)
    (hcounts : visit.Counts files) (hwants : scanner.wants visit.path) :
    scanner.Seeks files names :=
  ⟨hcomes.getsTo hwell, hcomes.countsBelow hwell hcounts, hcomes.path_eq ▸ hwants⟩

theorem failsBelow (hwell : files.tree.WellFormed) (hcomes : Comes scanner files names visit)
    {cause : OsError} (hfails : visit.Fails files cause) :
    files.FailsBelow scanner.root names cause := by
  rcases hfails with hkind | ⟨hkind, hlist⟩
  · left
    cases hcomes with
    | child => cases hkind
    | root =>
      simp only [Visit.kind] at hkind
      split at hkind
      · split at hkind <;> simp_all
      · exact ⟨rfl, .inl hkind⟩
  · right
    rw [hcomes.path_eq] at hlist
    exact ⟨hcomes.entersBelow hwell hkind, hlist⟩

/-! ## What is there is found -/

/-- From a directory that was not skipped, a scan comes to all that is in it. -/
theorem step (hwell : files.tree.WellFormed) (hcomes : Comes scanner files names visit)
    (hkind : visit.kind files = .ok .directory)
    (hpasses : ∀ reason,
      .skipped (some (descend scanner.root names)) reason ∉ scanner.scan files)
    (hbase : files.directoryAt? scanner.root = some base)
    (hentry : files.tree.entry? (base ++ (names ++ [name])) = some entry) :
    Comes scanner files (names ++ [name])
      (.entry (descend scanner.root (names ++ [name])) entry.kind) := by
  have hdescends := hcomes.descends_from hwell hbase hkind
  cases hlist : files.list visit.path with
  | error cause =>
    have hskipped : skip visit.path cause ∈ scanner.scan files := by
      refine (mem_scan_iff hwell).mpr ⟨names, visit, hcomes, ?_⟩
      exact mem_expand_found.mpr (.inr ⟨cause, rfl, .inr ⟨hkind, hlist⟩⟩)
    rw [hcomes.path_eq] at hskipped
    exact absurd hskipped (hpasses _)
  | ok entries =>
    have hlisted : (name, entry.kind) ∈ entries := by
      rw [hcomes.path_eq] at hlist
      rw [Files.entries_eq_listing hbase (hcomes.proper hwell) hdescends hlist,
        Files.mem_listing_iff hwell]
      exact ⟨entry, by rwa [List.append_assoc], rfl⟩
    rw [Path.descend_concat, ← hcomes.path_eq]
    exact hcomes.child hkind hlist hlisted

end Comes

theorem ne_concat_of_part (hpart : part <+: names) : part ≠ names ++ [name] := by
  rintro rfl
  have hlength := hpart.length_le
  rw [List.length_append, List.length_singleton] at hlength
  omega

/-- A scan comes to every directory that is reached through directories that were not
skipped. -/
theorem comes_of_descends (hwell : files.tree.WellFormed)
    (hbase : files.directoryAt? scanner.root = some base)
    (hdescends : Files.Descends files.tree base names)
    (hpasses : ∀ part, part <+: names → part ≠ names → ∀ reason,
      .skipped (some (descend scanner.root part)) reason ∉ scanner.scan files) :
    ∃ visit, Comes scanner files names visit ∧ visit.kind files = .ok .directory := by
  induction names using List.reverseRecOn with
  | nil => exact ⟨_, .root, kind_of_directoryAt hbase⟩
  | append_singleton names name ih =>
    obtain ⟨hfront, hentry⟩ := Files.descends_concat.mp hdescends
    have hprefix : names <+: names ++ [name] := List.prefix_append _ _
    obtain ⟨visit, hcomes, hkind⟩ := ih hfront fun part hpart _ =>
      hpasses part (hpart.trans hprefix) (ne_concat_of_part hpart)
    exact ⟨_, hcomes.step hwell hkind (hpasses names hprefix (by simp)) hbase hentry, rfl⟩

namespace GetsTo

theorem exists_base (hgets : scanner.GetsTo files (names ++ [name])) :
    ∃ base, files.directoryAt? scanner.root = some base := by
  have hroot := hgets.way [] List.nil_prefix (by simp)
  rw [Files.EntersBelow, if_pos rfl] at hroot
  exact Files.isDirectory_iff.mp hroot

/-- Where a directory stands at the end of the names, one stands at every one before. -/
theorem descends (hgets : scanner.GetsTo files (names ++ [name]))
    (hbase : files.directoryAt? scanner.root = some base) :
    Files.Descends files.tree base names := by
  intro part hpart hne
  exact (Files.entersBelow_iff hbase hne).mp
    (hgets.way part (hpart.trans (List.prefix_append _ _)) (ne_concat_of_part hpart))

/-- A scan comes to a directory that it gets to. -/
theorem comes (hwell : files.tree.WellFormed) (hgets : scanner.GetsTo files names)
    (henters : files.EntersBelow scanner.root names) :
    ∃ visit, Comes scanner files names visit ∧ visit.kind files = .ok .directory := by
  rcases List.eq_nil_or_concat' names with rfl | ⟨front, last, rfl⟩
  · rw [Files.EntersBelow, if_pos rfl] at henters
    obtain ⟨base, hbase⟩ := Files.isDirectory_iff.mp henters
    exact ⟨_, .root, kind_of_directoryAt hbase⟩
  · obtain ⟨base, hbase⟩ := hgets.exists_base
    have hentry := (Files.entersBelow_iff hbase (by simp)).mp henters
    exact comes_of_descends hwell hbase
      (Files.descends_concat.mpr ⟨hgets.descends hbase, hentry⟩) hgets.passes

end GetsTo

/-- A scan comes to every file that it has to find. -/
theorem Seeks.comes (hwell : files.tree.WellFormed) (hseeks : scanner.Seeks files names) :
    ∃ visit, Comes scanner files names visit ∧ visit.Counts files := by
  rcases List.eq_nil_or_concat' names with rfl | ⟨front, last, rfl⟩
  · exact ⟨_, .root, counts_root_iff.mpr hseeks.counts⟩
  · obtain ⟨base, hbase⟩ := hseeks.exists_base
    have hprefix : front <+: front ++ [last] := List.prefix_append _ _
    obtain ⟨visit, hcomes, hkind⟩ := comes_of_descends hwell hbase (hseeks.descends hbase)
      fun part hpart _ => hseeks.passes part (hpart.trans hprefix) (ne_concat_of_part hpart)
    have hcounts := hseeks.counts
    rw [Files.CountsBelow, Files.kindBelow_eq hbase (by simp)] at hcounts
    obtain ⟨entry, hentry⟩ : ∃ entry,
        files.tree.entry? (base ++ (front ++ [last])) = some entry := by
      cases hentry : files.tree.entry? (base ++ (front ++ [last])) with
      | none => simp [hentry] at hcounts
      | some entry => exact ⟨entry, rfl⟩
    refine ⟨_, hcomes.step hwell hkind (hseeks.passes front hprefix (by simp)) hbase hentry, ?_⟩
    rw [hentry] at hcounts
    simpa [Visit.Counts, Visit.kind, Visit.path] using hcounts

/-- The files that a scan finds are those that it has to find. -/
theorem mem_scan_file_iff (hwell : files.tree.WellFormed) :
    .file path ∈ scanner.scan files ↔
      ∃ names, path = descend scanner.root names ∧ scanner.Seeks files names := by
  rw [mem_scan_iff hwell]
  constructor
  · rintro ⟨names, visit, hcomes, hfound⟩
    rcases mem_expand_found.mp hfound with ⟨hfile, hcounts, hwants⟩ | ⟨cause, hskip, -⟩
    · cases hfile
      exact ⟨names, hcomes.path_eq, hcomes.seeks hwell hcounts hwants⟩
    · cases hskip
  · rintro ⟨names, rfl, hseeks⟩
    obtain ⟨visit, hcomes, hcounts⟩ := hseeks.comes hwell
    have hpath := hcomes.path_eq
    refine ⟨names, visit, hcomes, mem_expand_found.mpr (.inl ⟨?_, hcounts, ?_⟩)⟩
    · rw [hpath]
    · rw [hpath]
      exact hseeks.wanted

/-- A scan comes to every place that it has to report. -/
theorem Misses.comes (hwell : files.tree.WellFormed) {cause : OsError}
    (hmisses : scanner.Misses files names cause) :
    ∃ visit, Comes scanner files names visit ∧ visit.Fails files cause := by
  rcases hmisses.fails with ⟨rfl, hroot⟩ | ⟨henters, hlist⟩
  · refine ⟨_, .root, .inl ?_⟩
    rcases hroot with hkind | ⟨hlink, hkind⟩
    · simp only [Visit.kind, hkind]
    · simp only [Visit.kind, hlink, hkind]
  · obtain ⟨visit, hcomes, hkind⟩ := hmisses.toGetsTo.comes hwell henters
    exact ⟨visit, hcomes, .inr ⟨hkind, hcomes.path_eq ▸ hlist⟩⟩

/-- What a scan skips is what it has to report as unreadable. -/
theorem mem_scan_skipped_iff (hwell : files.tree.WellFormed) {place : Option Path}
    {reason : String} :
    .skipped place reason ∈ scanner.scan files ↔
      ∃ names cause, Scanned.skipped place reason = skip (descend scanner.root names) cause ∧
        scanner.Misses files names cause := by
  rw [mem_scan_iff hwell]
  constructor
  · rintro ⟨names, visit, hcomes, hfound⟩
    rcases mem_expand_found.mp hfound with ⟨hfile, -⟩ | ⟨cause, hskip, hfails⟩
    · cases hfile
    · exact ⟨names, cause, by rw [hskip, hcomes.path_eq], hcomes.getsTo hwell,
        hcomes.failsBelow hwell hfails⟩
  · rintro ⟨names, cause, hskip, hmisses⟩
    obtain ⟨visit, hcomes, hfails⟩ := hmisses.comes hwell
    exact ⟨names, visit, hcomes,
      mem_expand_found.mpr (.inr ⟨cause, by rw [hskip, hcomes.path_eq], hfails⟩)⟩

/-- Reports about different places are about different paths. -/
theorem paths_nodup (hwell : files.tree.WellFormed) (scanner : Scanner) :
    ((scanner.scan files).map Scanned.path?).Nodup := by
  rw [List.Nodup, List.pairwise_map]
  apply (report_pairwise hwell Comes.root).imp
  intro first second hlt heq
  rw [Scanned.below, Scanned.below, heq] at hlt
  exact List.lt_irrefl _ hlt

theorem path_of_file {found : Scanned} (hfile : found.file? = some path) :
    found.path? = some path := by
  cases found with
  | file => exact hfile
  | skipped => cases hfile

theorem path_of_skipped {found : Scanned} {place : Option Path}
    (hskipped : found.skipped? = some place) : found.path? = place := by
  cases found with
  | file => cases hskipped
  | skipped => exact Option.some.inj hskipped

theorem files_nodup (hwell : files.tree.WellFormed) (scanner : Scanner) :
    ((scanner.scan files).filterMap Scanned.file?).Nodup := by
  have hpaths := paths_nodup hwell scanner
  rw [List.Nodup, List.pairwise_map] at hpaths
  rw [List.Nodup, List.pairwise_filterMap]
  apply hpaths.imp
  rintro first second hne path hpath _ hother rfl
  exact hne (by rw [path_of_file hpath, path_of_file hother])

theorem mem_files_iff :
    path ∈ (scanner.scan files).filterMap Scanned.file? ↔ .file path ∈ scanner.scan files := by
  rw [List.mem_filterMap]
  constructor
  · rintro ⟨found, hfound, hfile⟩
    cases found with
    | file => cases hfile; exact hfound
    | skipped => cases hfile
  · intro hfile
    exact ⟨_, hfile, rfl⟩

theorem Seeks.below_descend (hwell : files.tree.WellFormed)
    (hseeks : scanner.Seeks files names) :
    Path.below scanner.root (descend scanner.root names) = names := by
  obtain ⟨visit, hcomes, -⟩ := hseeks.comes hwell
  rw [← hcomes.path_eq, hcomes.below_path hwell]

def foundNames (scanner : Scanner) (files : Files) : List (List Name) :=
  ((scanner.scan files).filterMap Scanned.file?).map (Path.below scanner.root)

theorem map_foundNames (hwell : files.tree.WellFormed) :
    (scanner.foundNames files).map (descend scanner.root) =
      (scanner.scan files).filterMap Scanned.file? := by
  rw [foundNames, List.map_map]
  refine (List.map_congr_left fun path hpath => ?_).trans (List.map_id _)
  obtain ⟨names, rfl, hseeks⟩ := (mem_scan_file_iff hwell).mp (mem_files_iff.mp hpath)
  rw [Function.comp_apply, hseeks.below_descend hwell, id]

/-- The names that are found are those of the files that a scan has to find. -/
theorem mem_foundNames_iff (hwell : files.tree.WellFormed) :
    names ∈ scanner.foundNames files ↔ scanner.Seeks files names := by
  rw [foundNames, List.mem_map]
  constructor
  · rintro ⟨path, hpath, rfl⟩
    obtain ⟨names, rfl, hseeks⟩ := (mem_scan_file_iff hwell).mp (mem_files_iff.mp hpath)
    rwa [hseeks.below_descend hwell]
  · intro hseeks
    refine ⟨_, mem_files_iff.mpr ((mem_scan_file_iff hwell).mpr ⟨names, rfl, hseeks⟩), ?_⟩
    exact hseeks.below_descend hwell

theorem foundNames_pairwise (hwell : files.tree.WellFormed) (scanner : Scanner) :
    (scanner.foundNames files).Pairwise (· < ·) := by
  rw [foundNames, List.pairwise_map, List.pairwise_filterMap]
  apply (report_pairwise hwell Comes.root).imp
  intro first second hlt path hpath other hother
  rwa [Scanned.below, Scanned.below, path_of_file hpath, path_of_file hother] at hlt

/-- A scan is exact: it finds the files that it has to find, in the order of their
names and each of them once, and what it cannot read costs nothing else. -/
theorem scan_exact (scanner : Scanner) (files : Files) (hwell : files.tree.WellFormed) :
    ∃ found, scanner.Finds files found := by
  have hpaths := paths_nodup hwell scanner
  rw [List.Nodup, List.pairwise_map] at hpaths
  refine ⟨scanner.foundNames files, ?_⟩
  constructor
  · rw [map_foundNames hwell]
  · intro names
    exact mem_foundNames_iff hwell
  · exact foundNames_pairwise hwell scanner
  · exact files_nodup hwell scanner
  · intro place reason
    simp only [mem_scan_skipped_iff hwell, skip, Scanned.skipped.injEq, and_assoc]
  · rw [List.Nodup, List.pairwise_filterMap]
    apply hpaths.imp
    rintro first second hne place hplace _ hother rfl
    exact hne (by rw [path_of_skipped hplace, path_of_skipped hother])
  · intro before path reason after hscan
    rw [scanHollow_eq hwell hscan]

/-- A tree with a link to a file, a link to a directory and a directory whose name is
too long to be read. -/
def mixedFiles : Files :=
  let name := Path.ofString
  let long := List.replicate 256 0x78
  ⟨⟨[([name "s"], .directory), ([name "s", name "a"], .directory),
    ([name "s", name "a", name "z.hx"], .file []), ([name "s", name "a.hx"], .file []),
    ([name "s", name "d"], .link (name "a")), ([name "s", name "l.hx"], .link (name "a.hx")),
    ([name "s", long], .directory), ([name "s", long, name "q.hx"], .file [])]⟩, [], none⟩

theorem scan_exact_mixed :
    mixedFiles.tree.WellFormed ∧
      ∃ found, (ofExtensions (Path.ofString "s") ["hx"]).Finds mixedFiles found := by
  have hwell : mixedFiles.tree.WellFormed := by decide +kernel
  exact ⟨hwell, scan_exact _ mixedFiles hwell⟩

set_option maxRecDepth 10000 in
example : (ofExtensions (Path.ofString "s") ["hx"]).foundNames mixedFiles =
    [["a", "z.hx"], ["a.hx"], ["l.hx"]].map (·.map Path.ofString) := by
  cbv

end Scanner

end Emend
