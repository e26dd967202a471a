import Emend.Proofs.Scan.Visits

/-!
# The order of a scan

A scan reports in the order of the names that lead to a place from its root, and at
every place once at most.  It follows that a directory that cannot be read costs
nothing but its own report: without it, the scan is the one of an empty directory.
-/

namespace Emend

open Emend.Path (descend)

def Scanned.below (root : Path) (found : Scanned) : List Name :=
  found.path?.elim [] (Path.below root)

variable {scanner : Scanner} {files : Files} {visit : Visit} {path : Path} {name : Name}
  {names : List Name} {found : Scanned} {depth : Nat}

namespace Scanner

/-- At one place a scan makes a report, or goes on to what is listed there, or does
neither. -/
theorem expand_cases (scanner : Scanner) (files : Files) (visit : Visit) :
    (∃ found, scanner.expand files visit = ([found], [])) ∨
      scanner.expand files visit = ([], []) ∨
      ∃ entries, visit.kind files = .ok .directory ∧ files.list visit.path = .ok entries ∧
        scanner.expand files visit =
          ([], entries.map fun (name, kind) => .entry (visit.path.join name) kind) := by
  rw [expand_eq]
  rcases visit.kind files with e | _ | _ | _
  · exact .inl ⟨_, rfl⟩
  · by_cases hwants : scanner.wants visit.path <;> simp [look, hwants]
  · cases hlist : files.list visit.path <;> simp [look, enter, hlist]
  · by_cases hcounts : files.isFile visit.path && scanner.wants visit.path <;>
      simp [look, hcounts]

namespace Comes

theorem root_ne_nil (hwell : files.tree.WellFormed)
    (hcomes : Comes scanner files (names ++ [name]) visit) : scanner.root ≠ [] := by
  obtain ⟨base, -, hbase, -⟩ := hcomes.found_below hwell
  exact Files.ne_nil_of_directoryAt hbase

/-- The path of a place tells the names that lead there. -/
theorem below_path (hwell : files.tree.WellFormed) (hcomes : Comes scanner files names visit) :
    Path.below scanner.root visit.path = names := by
  rw [hcomes.path_eq]
  rcases List.eq_nil_or_concat' names with rfl | ⟨front, last, rfl⟩
  · rw [Path.descend_nil, Path.below_self]
  · exact Path.below_descend (hcomes.root_ne_nil hwell) (hcomes.proper hwell)

theorem below_eq (hwell : files.tree.WellFormed) (hcomes : Comes scanner files names visit)
    (hfound : found ∈ (scanner.expand files visit).1) :
    found.below scanner.root = names := by
  rw [Scanned.below, path_of_found hfound, Option.elim_some, hcomes.below_path hwell]

/-- What is reported below a place has the names of the place and more. -/
theorem below_of_report (hwell : files.tree.WellFormed)
    (hcomes : Comes scanner files names visit)
    (hfound : found ∈ scanner.report files depth visit) :
    ∃ rest, found.below scanner.root = names ++ rest := by
  obtain ⟨rest, other, hother, hreported⟩ := hcomes.of_report hfound
  exact ⟨rest, hother.below_eq hwell hreported⟩

/-- Different names lead to different paths. -/
theorem names_eq (hwell : files.tree.WellFormed) (hcomes : Comes scanner files names visit)
    {others : List Name} {other : Visit} (hother : Comes scanner files others other)
    (hpath : visit.path = other.path) : names = others := by
  rw [← hcomes.below_path hwell, hpath, hother.below_path hwell]

end Comes

/-! ## Increasing names -/

/-- A scan reports in the strictly increasing order of names. -/
theorem report_pairwise (hwell : files.tree.WellFormed)
    (hcomes : Comes scanner files names visit) :
    (scanner.report files depth visit).Pairwise fun a b =>
      a.below scanner.root < b.below scanner.root := by
  induction depth generalizing names visit with
  | zero => exact .nil
  | succ depth ih =>
    rw [report_succ]
    rcases expand_cases scanner files visit with
      ⟨found, hfound⟩ | hnone | ⟨entries, hkind, hlist, hbelow⟩
    · simp [hfound]
    · simp [hnone]
    rw [hbelow, List.nil_append, List.flatMap_map, List.pairwise_flatMap]
    obtain ⟨location, -, hentries⟩ := Files.list_eq_ok_iff.mp hlist
    have hincreasing : entries.Pairwise fun a b => a.1 < b.1 :=
      hentries ▸ Files.listing_pairwise hwell location
    constructor
    · rintro ⟨name, kind⟩ hentry
      exact ih (hcomes.child hkind hlist hentry)
    · apply hincreasing.imp_of_mem
      rintro ⟨name, kind⟩ ⟨name', kind'⟩ hentry hentry' hlt first hfirst second hsecond
      obtain ⟨rest, hrest⟩ := (hcomes.child hkind hlist hentry).below_of_report hwell hfirst
      obtain ⟨rest', hrest'⟩ := (hcomes.child hkind hlist hentry').below_of_report hwell hsecond
      rw [hrest, hrest', List.append_assoc, List.append_assoc]
      exact List.append_left_lt (List.cons_lt_cons_iff.mpr (.inl hlt))

/-- No report is made twice. -/
theorem scan_nodup (hwell : files.tree.WellFormed) (scanner : Scanner) :
    (scanner.scan files).Nodup := by
  apply (report_pairwise hwell Comes.root).imp
  rintro found _ hlt rfl
  exact List.lt_irrefl _ hlt

/-! ## A directory that cannot be read -/

/-- A scan for which the place at a path is an empty directory. -/
def reportHollow (scanner : Scanner) (files : Files) (hollow : Path) :
    Nat → Visit → List Scanned
  | 0, _ => []
  | depth + 1, visit =>
    let (found, below) := if visit.path = hollow then ([], []) else scanner.expand files visit
    found ++ below.flatMap (scanner.reportHollow files hollow depth)

def scanHollow (scanner : Scanner) (files : Files) (hollow : Path) : List Scanned :=
  scanner.reportHollow files hollow Files.pathLimit (.root scanner.root)

theorem filter_ne {found : Scanned} {reports : List Scanned} (hfound : found ∉ reports) :
    reports.filter (· ≠ found) = reports := by
  apply List.filter_eq_self.mpr
  intro other hother
  have hne : other ≠ found := ne_of_mem_of_not_mem hother hfound
  exact decide_eq_true hne

/-- Without the one report that is made at a path, a scan finds the same. -/
theorem reportHollow_eq (hfound : found.path? = some path)
    (hhollow : ∀ names visit, Comes scanner files names visit → visit.path = path →
      scanner.expand files visit = ([found], []))
    (hcomes : Comes scanner files names visit) :
    scanner.reportHollow files path depth visit =
      (scanner.report files depth visit).filter (· ≠ found) := by
  induction depth generalizing names visit with
  | zero => rfl
  | succ depth ih =>
    rw [report_succ, reportHollow]
    by_cases hpath : visit.path = path
    · simp [hpath, hhollow names visit hcomes hpath]
    · have helsewhere : found ∉ (scanner.expand files visit).1 := by
        intro hhere
        have hplace := path_of_found hhere
        rw [hfound, Option.some.injEq] at hplace
        exact hpath hplace.symm
      have hbelow : (scanner.expand files visit).2.flatMap (scanner.reportHollow files path depth) =
          (scanner.expand files visit).2.flatMap fun other =>
            (scanner.report files depth other).filter (· ≠ found) := by
        apply List.flatMap_congr
        intro other hother
        obtain ⟨name, hchild⟩ := hcomes.of_mem_below hother
        exact ih hchild
      rw [if_neg hpath, List.filter_append, List.filter_flatMap, filter_ne helsewhere, ← hbelow]

/-- A directory that cannot be read takes nothing from the rest of a scan. -/
theorem scanHollow_eq (hwell : files.tree.WellFormed) {before after : List Scanned}
    {reason : String}
    (hscan : scanner.scan files = before ++ .skipped (some path) reason :: after) :
    scanner.scanHollow files path = before ++ after := by
  have hmem : .skipped (some path) reason ∈ scanner.scan files := by simp [hscan]
  obtain ⟨names, visit, hcomes, hreported⟩ := (mem_scan_iff hwell).mp hmem
  have hpath : visit.path = path := by
    have := path_of_found hreported
    rw [Scanned.path?, Option.some.injEq] at this
    exact this.symm
  have hhollow : ∀ others other, Comes scanner files others other → other.path = path →
      scanner.expand files other = ([.skipped (some path) reason], []) := by
    intro others other hother hsame
    obtain rfl : others = names := hother.names_eq hwell hcomes (hsame.trans hpath.symm)
    obtain rfl : other = visit := hother.unique hwell hcomes
    rcases expand_cases scanner files other with
      ⟨found, hexpand⟩ | hnone | ⟨entries, -, -, hexpand⟩
    · rw [hexpand, List.mem_singleton] at hreported
      rw [hexpand, hreported]
    · simp [hnone] at hreported
    · simp [hexpand] at hreported
  rw [scanHollow, reportHollow_eq rfl hhollow Comes.root, ← scan, hscan]
  have hnodup := scan_nodup hwell scanner
  rw [hscan, List.nodup_middle, List.nodup_cons, List.mem_append, not_or] at hnodup
  obtain ⟨⟨hbefore, hafter⟩, -⟩ := hnodup
  rw [List.filter_append, List.filter_cons_of_neg (by simp), filter_ne hbefore,
    filter_ne hafter]

end Scanner

end Emend
