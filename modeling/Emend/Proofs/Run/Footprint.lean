import Emend.Proofs.Patch.Footprint
import Emend.Proofs.Run.Ending

/-!
# What a run may touch

A run can end anywhere: after its footer, at a file that it cannot patch, or in the
middle of a line.  However it ends, each change that it leaves comes from writing a file
of its walk, and the output and the result of the run tell which files these can be: the
files whose lines say that they are fixed, one file whose line was still to be printed,
and the file that the run has failed to write.
-/

namespace Emend.Run

variable {config : Config} {table : RuleTable} {options : Options} {files : Files}
  {entries : List Scanned} {earlier done : List (Path × Patched)} {path : Path}
  {result : EStateM.Result Error RunState Summary} {n offset : Nat}

/-- What a run has printed when it comes to the next file. -/
def account (config : Config) (table : RuleTable) (options : Options)
    (earlier : List (Path × Patched)) : Bytes :=
  bytesOf (banner config table options ++ reportLines earlier)

/-- A run comes to a file after some others, and fixes it. -/
structure Fixes (config : Config) (table : RuleTable) (options : Options) (files : Files)
    (earlier : List (Path × Patched)) (path : Path) : Prop where
  compiled : RuleTable.compile config.rules = .ok table
  found : earlier.map Prod.fst ++ [path] <+: filePaths (encountered config table options files)
  fixed : (files.patchAll table options.dryRun (earlier.map Prod.fst ++ [path])).done =
    earlier ++ [(path, .fixed)]

/-- The files that a run may have written, as its result and its output tell. -/
inductive Touched (config : Config) (options : Options) (files : Files)
    (result : EStateM.Result Error RunState Summary) (path : Path) : Prop
  /-- The file was reported as fixed. -/
  | reported {table : RuleTable} {earlier : List (Path × Patched)}
      (hfixes : Fixes config table options files earlier path)
      (hprinted : account config table options (earlier ++ [(path, .fixed)]) <+: textOf result)
  /-- The file was fixed, and then its line could not be printed. -/
  | unprinted {table : RuleTable} {earlier : List (Path × Patched)}
      (hfixes : Fixes config table options files earlier path)
      (hfailure : failureOf result = some .outputFailed)
      (hprinted : account config table options earlier <+: textOf result)
      (hcut : textOf result <+: account config table options (earlier ++ [(path, .fixed)]))
      (hne : textOf result ≠ account config table options (earlier ++ [(path, .fixed)]))
  /-- The run ended when the file or its backup could not be written. -/
  | failed {table : RuleTable} {e : Error}
      (hcompiled : RuleTable.compile config.rules = .ok table)
      (hfound : path ∈ filePaths (encountered config table options files))
      (hfailure : failureOf result = some e) (hwrites : Files.Writes path (.error e))

/-! ## What has been printed -/

theorem account_mono {later : List (Path × Patched)} (hpart : earlier <+: later) :
    account config table options earlier <+: account config table options later := by
  obtain ⟨rest, rfl⟩ := hpart
  rw [account, account, bytesOf_append, bytesOf_append, reportLines, reportLines,
    List.map_append, bytesOf_append, ← List.append_assoc]
  exact List.prefix_append _ _

theorem length_account : (account config table options earlier).length =
    (bytesOf (banner config table options)).length +
      (bytesOf (reportLines earlier)).length := by
  rw [account, bytesOf_append, List.length_append]

/-- The account of all files that could be patched stands on the output in the end. -/
theorem account_of_announce (config : Config) (table : RuleTable) (options : Options)
    (files : Files) (entries : List Scanned) :
    account config table options (progressOf table options files entries).done <+:
      textOf (announce config table options entries (start files none)) := by
  rw [(announce_account ..).1, bytesOf_append]
  exact List.prefix_append _ _

/-- The files whose lines begin by an offset, and what stands before their lines. -/
theorem exists_started (n offset : Nat) (done : List (Path × Patched)) :
    ∃ started, started <+: done ∧ startedBy n offset done = started.map Prod.fst ∧
      ∀ earlier e, earlier ++ [e] <+: started →
        offset + (bytesOf (reportLines earlier)).length ≤ n := by
  induction done generalizing offset with
  | nil => exact ⟨[], List.prefix_rfl, rfl, fun _ _ hpart => by simp at hpart⟩
  | cons first done ih =>
    by_cases hoffset : offset ≤ n
    · obtain ⟨started, hpart, hpaths, hlines⟩ :=
        ih (offset + (bytesOf [first.2.line first.1]).length)
      refine ⟨first :: started, List.cons_prefix_cons.mpr ⟨rfl, hpart⟩, ?_, ?_⟩
      · rw [startedBy, if_pos hoffset, hpaths, List.map_cons]
      · rintro (_ | ⟨other, earlier⟩) e hearlier
        · simpa [reportLines, bytesOf] using hoffset
        · rw [List.cons_append, List.cons_prefix_cons] at hearlier
          obtain ⟨rfl, hearlier⟩ := hearlier
          rw [length_reportLines_cons, ← Nat.add_assoc]
          exact hlines earlier e hearlier
    · exact ⟨[], List.nil_prefix, startedBy_of_lt (Nat.not_le.mp hoffset),
        fun _ _ hpart => by simp at hpart⟩

/-! ## The files that were written -/

/-- A file that was fixed in its turn. -/
theorem fixes_of_done (hcompile : RuleTable.compile config.rules = .ok table)
    (hpart : earlier ++ [(path, .fixed)] <+:
      (progressOf table options files (encountered config table options files)).done) :
    Fixes config table options files earlier path := by
  obtain ⟨hdone, -⟩ := Files.patchAll_started hpart
  rw [List.map_append] at hdone
  refine ⟨hcompile, ?_, hdone⟩
  have hfirst := (files.patchAll_done table options.dryRun
    (filePaths (encountered config table options files))).1
  have hpaths := hpart.map Prod.fst
  rw [List.map_append] at hpaths
  exact hpaths.trans hfirst

/-- A run that is not cut off has reported what it has written, or its failure tells. -/
theorem touched_of_writes (hcompile : RuleTable.compile config.rules = .ok table)
    (hends : EndsLike result (announce config table options
      (encountered config table options files) (start files none)))
    (hwrites : (progressOf table options files
      (encountered config table options files)).Writes path) :
    Touched config options files result path := by
  rcases hwrites with hfixed | ⟨e, hfailure, hwrites⟩
  · obtain ⟨earlier, rest, hsplit⟩ := List.append_of_mem hfixed
    have hpart : earlier ++ [(path, .fixed)] <+:
        (progressOf table options files (encountered config table options files)).done :=
      ⟨rest, by simp [hsplit]⟩
    refine .reported (fixes_of_done hcompile hpart) ?_
    rw [hends.text]
    exact (account_mono hpart).trans (account_of_announce ..)
  · obtain ⟨first, other, second, hsplit, -, -, hpatch⟩ := Files.exists_failing hfailure
    obtain rfl := Files.path_eq_of_writes hpatch hwrites
    refine .failed hcompile (by simp [hsplit]) ?_ hwrites
    rw [hends.failure, failureOf_announce, hfailure]

/-- A run that is cut off has written the files whose lines have begun. -/
theorem touched_of_started {text : Bytes}
    (hcompile : RuleTable.compile config.rules = .ok table)
    (htext : account config table options (progressOf table options files
      (encountered config table options files)).done <+: text)
    (hfailure : failureOf result = some .outputFailed) (hresult : textOf result = text.take n)
    (hpart : earlier ++ [(path, .fixed)] <+:
      (progressOf table options files (encountered config table options files)).done)
    (hbegun : (bytesOf (banner config table options)).length +
      (bytesOf (reportLines earlier)).length ≤ n) :
    Touched config options files result path := by
  have hfixes := fixes_of_done hcompile hpart
  have hwhole : account config table options (earlier ++ [(path, .fixed)]) <+: text :=
    (account_mono hpart).trans htext
  by_cases hline : (account config table options (earlier ++ [(path, .fixed)])).length ≤ n
  · refine .reported hfixes ?_
    rw [hresult]
    exact List.prefix_take_iff.mpr ⟨hwhole, hline⟩
  · rw [Nat.not_le] at hline
    have hcut : text.take n <+: account config table options (earlier ++ [(path, .fixed)]) :=
      List.prefix_of_prefix_length_le (List.take_prefix n text) hwhole
        ((List.length_take_le n text).trans hline.le)
    refine .unprinted hfixes hfailure ?_ (hresult ▸ hcut) ?_
    · rw [hresult]
      refine List.prefix_take_iff.mpr ⟨(account_mono (List.prefix_append _ _)).trans hwhole, ?_⟩
      rw [length_account]
      exact hbegun
    · intro hsame
      have hshort := List.length_take_le n text
      rw [← hresult, hsame] at hshort
      omega

/-- Whatever a run returns, it has touched nothing but what comes from writing the files
that it has reported as fixed, or would have, or has failed to write. -/
theorem run_footprint (config : Config) (options : Options) (files : Files)
    (limit : Option Nat) :
    Files.Footprint
      (Touched config options files (run config options (start files limit))) files
      (stateOf (run config options (start files limit))).files := by
  apply Files.Framed.footprint
  rcases refused_or_accepted config options files with
    ⟨e, hrefused⟩ | ⟨hvalid, ⟨table, hcompile⟩, hroot⟩
  · rw [hrefused (start files limit) rfl]
    exact .refl _ files
  · rw [run_eq_announce hvalid hcompile hroot limit]
    rcases announce_endsLike_or_cut config table options
      (encountered config table options files) files limit with hends | ⟨n, rfl, hcut⟩
    · rw [hends.files, (announce_account ..).2]
      exact (files.patchAll_framed ..).mono fun path => touched_of_writes hcompile hends
    · obtain ⟨after, hafter, hwritten, hleft⟩ := announce_cutOff hcut
      obtain ⟨started, hpart, hpaths, hlines⟩ := exists_started n
        (bytesOf (banner config table options)).length
        (progressOf table options files (encountered config table options files)).done
      obtain ⟨hdone, hnone⟩ := Files.patchAll_started hpart
      rw [hafter, stateOf, hleft, hpaths]
      refine (files.patchAll_framed ..).mono ?_
      rintro path (hfixed | ⟨e, hfailed, -⟩)
      · rw [hdone] at hfixed
        obtain ⟨earlier, rest, hsplit⟩ := List.append_of_mem hfixed
        have hearlier : earlier ++ [(path, .fixed)] <+: started := ⟨rest, by simp [hsplit]⟩
        exact touched_of_started hcompile (account_of_announce ..) rfl hwritten
          (hearlier.trans hpart) (hlines _ _ hearlier)
      · rw [hnone] at hfailed
        cases hfailed

end Emend.Run
