import Emend.Proofs.Files.Listing
import Emend.Scan

/-!
# The places that a scan comes to

A scan comes to its root and, from every directory that it can read, to what is
listed there.  Each of these places has the names that lead to it from the root,
and stands in the tree under those names.  Everything that a scan reports, it
reports at one of them, and it reports what it finds at all of them: the bound on
the depth is never felt, since a path grows with every step.
-/

namespace Emend

open Emend.Path (descend)

namespace Visit

def path : Visit → Path
  | root path | entry path _ => path

/-- What a place is to a scan.  Only at the root a link can be a directory. -/
def kind (files : Files) : Visit → Except OsError EntryKind
  | entry _ kind => .ok kind
  | root path =>
    match files.linkKind path with
    | .ok .link =>
      match files.kind path with
      | .ok .directory => .ok .directory
      | .ok _ => .ok .link
      | .error e => .error e
    | outcome => outcome

def Counts (files : Files) (visit : Visit) : Prop :=
  visit.kind files = .ok .file ∨ visit.kind files = .ok .link ∧ files.isFile visit.path

def Fails (files : Files) (visit : Visit) (cause : OsError) : Prop :=
  visit.kind files = .error cause ∨
    visit.kind files = .ok .directory ∧ files.list visit.path = .error cause

end Visit

def Scanned.path? : Scanned → Option Path
  | file path => some path
  | skipped path _ => path

/-- The places that a scan comes to, with the names that lead there from the root. -/
inductive Scanner.Comes (scanner : Scanner) (files : Files) : List Name → Visit → Prop
  | root : Comes scanner files [] (.root scanner.root)
  | child {names visit name kind entries} (hvisit : Comes scanner files names visit)
      (hkind : visit.kind files = .ok .directory)
      (hlist : files.list visit.path = .ok entries) (hentry : (name, kind) ∈ entries) :
      Comes scanner files (names ++ [name]) (.entry (visit.path.join name) kind)

variable {scanner : Scanner} {files : Files} {visit : Visit} {path : Path} {name : Name}
  {names : List Name} {kind : EntryKind} {entries : List (Name × EntryKind)}
  {found : Scanned} {depth : Nat}

namespace Scanner

/-! ## One place -/

theorem expand_eq :
    scanner.expand files visit =
      match visit.kind files with
      | .error e => ([skip visit.path e], [])
      | .ok kind => scanner.look files visit.path kind := by
  cases visit with
  | entry path kind => rfl
  | root path =>
    simp only [expand, Visit.kind, Visit.path]
    rcases files.linkKind path with e | _ | _ | _
    · rfl
    · rfl
    · rfl
    · rcases files.kind path with e | _ | _ | _ <;> rfl

/-- What is found at one place. -/
theorem mem_expand_found :
    found ∈ (scanner.expand files visit).1 ↔
      (found = .file visit.path ∧ visit.Counts files ∧ scanner.wants visit.path) ∨
        ∃ cause, found = skip visit.path cause ∧ visit.Fails files cause := by
  rw [expand_eq, Visit.Counts]
  unfold Visit.Fails
  rcases visit.kind files with e | _ | _ | _
  · simp
  · by_cases hwants : scanner.wants visit.path <;> simp [look, hwants]
  · cases hlist : files.list visit.path <;> simp [look, enter, hlist]
  · by_cases hwants : scanner.wants visit.path <;> simp [look, hwants]
    tauto

/-- From a directory a scan goes on to all that is listed there. -/
theorem mem_expand_below {other : Visit} :
    other ∈ (scanner.expand files visit).2 ↔
      visit.kind files = .ok .directory ∧ ∃ entries, files.list visit.path = .ok entries ∧
        ∃ name kind, (name, kind) ∈ entries ∧ other = .entry (visit.path.join name) kind := by
  rw [expand_eq]
  rcases visit.kind files with e | _ | _ | _
  · simp
  · simp [look]
  · cases hlist : files.list visit.path <;> simp [look, enter, hlist, eq_comm]
  · simp [look]

theorem path_of_found (hfound : found ∈ (scanner.expand files visit).1) :
    found.path? = some visit.path := by
  rcases mem_expand_found.mp hfound with ⟨rfl, -⟩ | ⟨cause, rfl, -⟩ <;> rfl

/-- A root that counts as a directory leads to one. -/
theorem directoryAt_of_kind (hkind : (Visit.root path).kind files = .ok .directory) :
    ∃ base, files.directoryAt? path = some base := by
  have hfollowed : files.kind path = .ok .directory := by
    simp only [Visit.kind] at hkind
    split at hkind
    · split at hkind <;> simp_all
    · exact Files.kind_of_linkKind hkind (by simp)
  exact Files.kind_eq_directory_iff.mp hfollowed

theorem kind_of_directoryAt {base : Location} (hbase : files.directoryAt? path = some base) :
    (Visit.root path).kind files = .ok .directory := by
  have hkind := Files.kind_eq_directory_iff.mpr ⟨base, hbase⟩
  rcases Files.linkKind_of_kind hkind with hsame | hlink
  · simp [Visit.kind, hsame]
  · simp [Visit.kind, hlink, hkind]

theorem proper_of_list (hwell : files.tree.WellFormed) (hlist : files.list path = .ok entries)
    (hentry : (name, kind) ∈ entries) : name.Proper := by
  obtain ⟨location, -, rfl⟩ := Files.list_eq_ok_iff.mp hlist
  obtain ⟨entry, hfound, -⟩ := (Files.mem_listing_iff hwell).mp hentry
  exact hwell.proper_of_entry hfound (by simp)

/-! ## From the root to a place -/

namespace Comes

/-- The path of a place is the root with the names after it. -/
theorem path_eq (hcomes : Comes scanner files names visit) :
    visit.path = descend scanner.root names := by
  induction hcomes with
  | root => rfl
  | child _ _ _ _ ih => rw [Path.descend_concat, ← ih, Visit.path]

theorem proper (hwell : files.tree.WellFormed) (hcomes : Comes scanner files names visit) :
    ∀ name ∈ names, name.Proper := by
  induction hcomes with
  | root => simp
  | child _ _ hlist hentry ih =>
    intro name hname
    rcases List.mem_append.mp hname with hfront | hlast
    · exact ih name hfront
    · obtain rfl := List.mem_singleton.mp hlast
      exact proper_of_list hwell hlist hentry

/-- What a listing names stands in the tree below the directory. -/
theorem listed (hwell : files.tree.WellFormed) (hcomes : Comes scanner files names visit)
    {base : Location} (hbase : files.directoryAt? scanner.root = some base)
    (hdescends : Files.Descends files.tree base names)
    (hlist : files.list visit.path = .ok entries) (hentry : (name, kind) ∈ entries) :
    ∃ entry, files.tree.entry? (base ++ (names ++ [name])) = some entry ∧ entry.kind = kind := by
  rw [hcomes.path_eq] at hlist
  rw [Files.entries_eq_listing hbase (hcomes.proper hwell) hdescends hlist,
    Files.mem_listing_iff hwell, List.append_assoc] at hentry
  exact hentry

/-- Above a directory that a scan comes to there are directories alone. -/
theorem descends (hwell : files.tree.WellFormed) (hcomes : Comes scanner files names visit)
    (hkind : visit.kind files = .ok .directory) :
    ∃ base, files.directoryAt? scanner.root = some base ∧
      Files.Descends files.tree base names := by
  induction hcomes with
  | root =>
    obtain ⟨base, hbase⟩ := directoryAt_of_kind hkind
    exact ⟨base, hbase, Files.descends_nil _ _⟩
  | child hvisit hparent hlist hentry ih =>
    obtain ⟨base, hbase, hdescends⟩ := ih hparent
    obtain ⟨entry, hfound, rfl⟩ := hvisit.listed hwell hbase hdescends hlist hentry
    refine ⟨base, hbase, Files.descends_concat.mpr ⟨hdescends, ?_⟩⟩
    cases entry <;> simp [Visit.kind, Entry.kind] at hkind
    exact hfound

/-- A place below the root is the entry of the tree under its names. -/
theorem found_below (hwell : files.tree.WellFormed)
    (hcomes : Comes scanner files (names ++ [name]) visit) :
    ∃ base entry, files.directoryAt? scanner.root = some base ∧
      Files.Descends files.tree base names ∧
      files.tree.entry? (base ++ (names ++ [name])) = some entry ∧
      visit = .entry (descend scanner.root (names ++ [name])) entry.kind := by
  generalize hall : names ++ [name] = all at hcomes
  cases hcomes with
  | root => simp at hall
  | child hvisit hkind hlist hentry =>
    obtain ⟨rfl, hname⟩ := List.append_inj' hall rfl
    obtain rfl := List.singleton_inj.mp hname
    obtain ⟨base, hbase, hdescends⟩ := hvisit.descends hwell hkind
    obtain ⟨entry, hfound, rfl⟩ := hvisit.listed hwell hbase hdescends hlist hentry
    exact ⟨base, entry, hbase, hdescends, hfound, by rw [Path.descend_concat, hvisit.path_eq]⟩

variable {base : Location}

theorem descends_from (hwell : files.tree.WellFormed)
    (hbase : files.directoryAt? scanner.root = some base)
    (hcomes : Comes scanner files names visit) (hkind : visit.kind files = .ok .directory) :
    Files.Descends files.tree base names := by
  obtain ⟨_, hsame, hdescends⟩ := hcomes.descends hwell hkind
  rw [hbase, Option.some.injEq] at hsame
  exact hsame ▸ hdescends

theorem found_from (hwell : files.tree.WellFormed)
    (hbase : files.directoryAt? scanner.root = some base)
    (hcomes : Comes scanner files (names ++ [name]) visit) :
    ∃ entry, Files.Descends files.tree base names ∧
      files.tree.entry? (base ++ (names ++ [name])) = some entry ∧
      visit = .entry (descend scanner.root (names ++ [name])) entry.kind := by
  obtain ⟨_, entry, hsame, hfound⟩ := hcomes.found_below hwell
  rw [hbase, Option.some.injEq] at hsame
  exact ⟨entry, hsame ▸ hfound⟩

/-- The names tell the place. -/
theorem unique (hwell : files.tree.WellFormed) (hcomes : Comes scanner files names visit)
    {other : Visit} (hother : Comes scanner files names other) : visit = other := by
  rcases List.eq_nil_or_concat' names with rfl | ⟨front, last, rfl⟩
  · have hroot {v : Visit} (hv : Comes scanner files [] v) : v = .root scanner.root := by
      generalize hnil : ([] : List Name) = all at hv
      cases hv with
      | root => rfl
      | child => simp at hnil
    rw [hroot hcomes, hroot hother]
  · obtain ⟨base, entry, hbase, -, hentry, rfl⟩ := hcomes.found_below hwell
    obtain ⟨entry', -, hentry', rfl⟩ := hother.found_from hwell hbase
    rw [hentry, Option.some.injEq] at hentry'
    rw [hentry']

/-- In a tree without links a scan comes to none. -/
theorem not_link (hwell : files.tree.WellFormed) (hfree : files.tree.LinkFree)
    (hbase : files.directoryAt? scanner.root = some base)
    (hcomes : Comes scanner files names visit) : visit.kind files ≠ .ok .link := by
  intro hkind
  rcases List.eq_nil_or_concat' names with rfl | ⟨front, last, rfl⟩
  · obtain rfl := hcomes.unique hwell .root
    rw [kind_of_directoryAt hbase] at hkind
    cases hkind
  · obtain ⟨base, entry, -, -, hentry, rfl⟩ := hcomes.found_below hwell
    cases entry with
    | link target => exact hfree _ _ hentry
    | file | directory => cases hkind

end Comes

/-! ## Everything that is reported -/

theorem report_succ :
    scanner.report files (depth + 1) visit =
      (scanner.expand files visit).1 ++
        (scanner.expand files visit).2.flatMap (scanner.report files depth) := rfl

theorem mem_report_succ :
    found ∈ scanner.report files (depth + 1) visit ↔
      found ∈ (scanner.expand files visit).1 ∨
        ∃ other ∈ (scanner.expand files visit).2, found ∈ scanner.report files depth other := by
  rw [report_succ, List.mem_append, List.mem_flatMap]

theorem Comes.of_mem_below (hcomes : Comes scanner files names visit) {other : Visit}
    (hother : other ∈ (scanner.expand files visit).2) :
    ∃ name, Comes scanner files (names ++ [name]) other := by
  obtain ⟨hkind, entries, hlist, name, kind, hentry, rfl⟩ := mem_expand_below.mp hother
  exact ⟨name, hcomes.child hkind hlist hentry⟩

/-- What a scan reports, it reports at a place that it comes to. -/
theorem Comes.of_report (hcomes : Comes scanner files names visit)
    (hfound : found ∈ scanner.report files depth visit) :
    ∃ rest other, Comes scanner files (names ++ rest) other ∧
      found ∈ (scanner.expand files other).1 := by
  induction depth generalizing names visit with
  | zero => simp [report] at hfound
  | succ depth ih =>
    rcases mem_report_succ.mp hfound with hhere | ⟨other, hother, hbelow⟩
    · exact ⟨[], visit, by rwa [List.append_nil], hhere⟩
    · obtain ⟨name, hchild⟩ := hcomes.of_mem_below hother
      obtain ⟨rest, last, hlast, hreported⟩ := ih hchild hbelow
      exact ⟨name :: rest, last, by simpa using hlast, hreported⟩

/-- The scan of a place that it comes to is a part of the whole scan, and has depth
enough: only a path that is short enough can be read. -/
theorem Comes.report_subset (hwell : files.tree.WellFormed)
    (hcomes : Comes scanner files names visit) :
    ∃ depth, 0 < depth ∧ (visit.path ≠ [] → Files.pathLimit < depth + visit.path.length) ∧
      scanner.report files depth visit ⊆ scanner.scan files := by
  induction hcomes with
  | root =>
    refine ⟨Files.pathLimit, by decide, ?_, fun _ hfound => hfound⟩
    intro hroot
    have := List.length_pos_of_ne_nil hroot
    simp only [Visit.path] at this ⊢
    omega
  | @child names visit name kind entries hvisit hkind hlist hentry ih =>
    obtain ⟨depth, -, hdepth, hsubset⟩ := ih
    obtain ⟨location, hlocation, -⟩ := Files.list_eq_ok_iff.mp hlist
    rw [Files.directoryAt_eq_some_iff, Files.locate_eq_ok_iff] at hlocation
    have hpath := hlocation.1
    have hlonger : visit.path.length < (visit.path.join name).length :=
      Path.length_join (proper_of_list hwell hlist hentry)
    have hroom := hdepth hpath.ne_nil
    have hlength := hpath.length_lt
    obtain ⟨rest, rfl⟩ : ∃ rest, depth = rest + 1 := ⟨depth - 1, by omega⟩
    refine ⟨rest, by omega, fun _ => ?_, fun found hfound => hsubset ?_⟩
    · change Files.pathLimit < rest + (visit.path.join name).length
      omega
    · exact mem_report_succ.mpr (.inr ⟨_, mem_expand_below.mpr
        ⟨hkind, entries, hlist, name, kind, hentry, rfl⟩, hfound⟩)

/-- A scan reports what it finds at the places that it comes to, and nothing else. -/
theorem mem_scan_iff (hwell : files.tree.WellFormed) :
    found ∈ scanner.scan files ↔
      ∃ names visit, Comes scanner files names visit ∧
        found ∈ (scanner.expand files visit).1 := by
  constructor
  · intro hfound
    obtain ⟨rest, other, hother, hreported⟩ := Comes.root.of_report hfound
    exact ⟨_, other, hother, hreported⟩
  · rintro ⟨names, visit, hcomes, hfound⟩
    obtain ⟨depth, hdepth, -, hsubset⟩ := hcomes.report_subset hwell
    apply hsubset
    obtain ⟨rest, rfl⟩ := Nat.exists_eq_add_of_lt hdepth
    rw [Nat.zero_add]
    exact mem_report_succ.mpr (.inl hfound)

/-- A file that a scan finds below a directory stands there, or a link to it does. -/
theorem exists_of_scan {base : Location} (hwell : files.tree.WellFormed)
    (hbase : files.directoryAt? scanner.root = some base)
    (hfound : .file path ∈ scanner.scan files) :
    ∃ names name entry, path = descend scanner.root (names ++ [name]) ∧
      (∀ part ∈ names ++ [name], part.Proper) ∧ Files.Descends files.tree base names ∧
      files.tree.entry? (base ++ (names ++ [name])) = some entry ∧
      (entry.kind = .file ∨ entry.kind = .link) ∧ scanner.wants path = true := by
  obtain ⟨names, visit, hcomes, hreported⟩ := (mem_scan_iff hwell).mp hfound
  rcases mem_expand_found.mp hreported with ⟨hfile, hcounts, hwants⟩ | ⟨_, hskip, -⟩
  · cases hfile
    rcases List.eq_nil_or_concat' names with rfl | ⟨front, last, rfl⟩
    · obtain rfl := hcomes.unique hwell .root
      rw [Visit.Counts, kind_of_directoryAt hbase] at hcounts
      simp at hcounts
    · have hproper := hcomes.proper hwell
      obtain ⟨entry, hdescends, hentry, rfl⟩ := hcomes.found_from hwell hbase
      refine ⟨front, last, entry, rfl, hproper, hdescends, hentry, ?_, hwants⟩
      rcases hcounts with hkind | ⟨hkind, -⟩
      · exact .inl (Except.ok.inj hkind)
      · exact .inr (Except.ok.inj hkind)
  · cases hskip

end Scanner

end Emend
