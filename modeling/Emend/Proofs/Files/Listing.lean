import Emend.Proofs.Files.Access
import Emend.Proofs.Path.Descent

/-!
# Listing directories

Going down by names from a path to a directory leads through directories of the
tree, never through links.  Where the longer path can be read at all, it lists the
directory that stands below the first one under those names, in strictly
increasing order of bytes.
-/

namespace Emend

open Emend.Path (descend stem slash)

namespace Files

variable {files : Files} {path root : Path} {name : Name} {names : List Name}
  {base location : Location} {manner : Manner} {links : Nat} {directory : Location}
  {spot : Spot} {tree : Tree} {kind : EntryKind}

def directoryAt? (files : Files) (path : Path) : Option Location :=
  match files.locate ⟨true, false⟩ path with
  | .ok (.found location .directory) => some location
  | _ => none

theorem directoryAt_eq_some_iff :
    files.directoryAt? path = some location ↔
      files.locate ⟨true, false⟩ path = .ok (.found location .directory) := by
  unfold directoryAt?
  rcases files.locate ⟨true, false⟩ path with e | ⟨l, _ | _ | _⟩ | l <;> simp

theorem ne_nil_of_directoryAt (hbase : files.directoryAt? path = some location) : path ≠ [] := by
  rw [directoryAt_eq_some_iff, locate_eq_ok_iff] at hbase
  exact hbase.1.ne_nil

/-! ## Kinds -/

/-- A path that leads to a directory has its location. -/
theorem kind_eq_directory_iff :
    files.kind path = .ok .directory ↔ ∃ base, files.directoryAt? path = some base := by
  simp only [directoryAt_eq_some_iff]
  unfold Files.kind entry
  rcases files.locate ⟨true, false⟩ path with e | ⟨l, _ | _ | _⟩ | l <;>
    simp [bind, Except.bind, Except.map, Entry.kind]

theorem kind_eq_ok_iff :
    files.kind path = .ok kind ↔ ∃ location entry,
      files.locate ⟨true, false⟩ path = .ok (.found location entry) ∧ entry.kind = kind := by
  unfold Files.kind entry
  rcases files.locate ⟨true, false⟩ path with e | ⟨l, _ | _ | _⟩ | l <;>
    simp [bind, Except.bind, Except.map, Entry.kind]

theorem isFile_iff : files.isFile path = true ↔ files.kind path = .ok .file := by
  rw [isFile]
  rcases files.kind path with e | _ | _ | _ <;> simp

theorem isThere_of_isFile (hfile : files.isFile path = true) : files.isThere path = true := by
  rw [isThere, isFile_iff.mp hfile]

theorem exists_of_isFile (hfile : files.isFile path = true) :
    ∃ location content, files.slot? path = some location ∧
      files.tree.entry? location = some (.file content) := by
  obtain ⟨location, entry, hlocate, hentry⟩ := kind_eq_ok_iff.mp (isFile_iff.mp hfile)
  cases entry with
  | file content => exact ⟨location, content, locate_file_iff.mp hlocate⟩
  | directory | link => cases hentry

theorem linkKind_eq_ok_iff :
    files.linkKind path = .ok kind ↔ ∃ location entry,
      files.locate ⟨false, false⟩ path = .ok (.found location entry) ∧ entry.kind = kind := by
  unfold linkKind entry
  rcases files.locate ⟨false, false⟩ path with e | ⟨l, _ | _ | _⟩ | l <;>
    simp [bind, Except.bind, Except.map, Entry.kind]

/-- What a path leads to is no link, or stays what it is when links are followed. -/
theorem kind_of_linkKind (hkind : files.linkKind path = .ok kind) (hne : kind ≠ .link) :
    files.kind path = .ok kind := by
  obtain ⟨location, entry, hlocate, rfl⟩ := linkKind_eq_ok_iff.mp hkind
  obtain ⟨hpath, hreaches⟩ := locate_eq_ok_iff.mp hlocate
  have hfollowed := locate_eq_ok_iff.mpr ⟨hpath, hreaches.followed fun _ _ hspot => by
    cases hspot
    exact hne rfl⟩
  exact kind_eq_ok_iff.mpr ⟨_, _, hfollowed, rfl⟩

theorem linkKind_of_kind (hkind : files.kind path = .ok kind) :
    files.linkKind path = .ok kind ∨ files.linkKind path = .ok .link := by
  obtain ⟨location, entry, hlocate, rfl⟩ := kind_eq_ok_iff.mp hkind
  obtain ⟨hpath, hreaches⟩ := locate_eq_ok_iff.mp hlocate
  rcases hreaches.unfollowed with hsame | ⟨other, target, hlink⟩
  · exact .inl (linkKind_eq_ok_iff.mpr ⟨_, _, locate_eq_ok_iff.mpr ⟨hpath, hsame⟩, rfl⟩)
  · exact .inr (linkKind_eq_ok_iff.mpr ⟨_, _, locate_eq_ok_iff.mpr ⟨hpath, hlink⟩, rfl⟩)

/-! ## Down through directories -/

/-- Every name below a directory stands for a directory itself. -/
def Descends (tree : Tree) (base : Location) (names : List Name) : Prop :=
  ∀ part, part <+: names → part ≠ [] → tree.entry? (base ++ part) = some .directory

theorem Descends.of_front {part : List Name} (hdescends : Descends tree base names)
    (hpart : part <+: names) : Descends tree base part :=
  fun front hfront => hdescends front (hfront.trans hpart)

theorem descends_nil (tree : Tree) (base : Location) : Descends tree base [] := by
  intro part hpart hne
  exact absurd (List.prefix_nil.mp hpart) hne

theorem descends_concat :
    Descends tree base (names ++ [name]) ↔
      Descends tree base names ∧
        tree.entry? (base ++ (names ++ [name])) = some .directory := by
  constructor
  · intro hdescends
    exact ⟨hdescends.of_front (List.prefix_append _ _),
      hdescends _ List.prefix_rfl (by simp)⟩
  · rintro ⟨hdescends, hentry⟩ part hpart hne
    rcases List.prefix_concat_iff.mp hpart with rfl | hpart
    · exact hentry
    · exact hdescends part hpart hne

/-! ## The steps of longer paths -/

theorem steps_eq_stem (path : Path) :
    steps path = (stem path).filter (· ≠ []) ++
      if path.getLast? = some slash then [[]] else [] := by
  unfold steps
  rw [Path.split_eq_stem]
  by_cases hslash : path.getLast? = some slash
  · simp [hslash]
  · simp [hslash]

theorem steps_descend (hroot : root ≠ []) (hne : names ≠ [])
    (hnames : ∀ name ∈ names, name.Proper) :
    steps (descend root names) = (stem root).filter (· ≠ []) ++ names := by
  rw [steps_eq_stem, if_neg (Path.descend_no_slash hne hnames), Path.stem_descend hroot hnames,
    List.append_nil, List.filter_append]
  congr 1
  rw [List.filter_eq_self]
  intro name hname
  simpa using (hnames name hname).ne_nil

theorem LooksUp.of_proper {follow : Bool} {rest : List Name} (hproper : name.Proper)
    (hlength : name.length ≤ nameLimit) : LooksUp ⟨follow, false⟩ name rest :=
  ⟨by simp [hproper.ne_nil, hproper.ne_dot], hproper.ne_dots, by simp, hlength⟩

theorem walk_of_too_long {rest : List Name} (hproper : name.Proper)
    (hlength : nameLimit < name.length) :
    walk tree ⟨true, false⟩ links directory (name :: rest) = .error .nameTooLong := by
  rw [walk.eq_def]
  simp [hproper.ne_nil, hproper.ne_dot, hproper.ne_dots, hlength]

/-- The walk through directories goes on below them, if no name is too long. -/
theorem walk_descends {rest : List Name} (hdescends : Descends tree base names)
    (hnames : ∀ name ∈ names, name.Proper) :
    walk tree ⟨true, false⟩ links base (names ++ rest) =
      if ∀ name ∈ names, name.length ≤ nameLimit
      then walk tree ⟨true, false⟩ links (base ++ names) rest
      else .error .nameTooLong := by
  induction names generalizing base with
  | nil => simp
  | cons name names ih =>
    have hproper : name.Proper := hnames name (by simp)
    rw [List.cons_append]
    by_cases hlength : name.length ≤ nameLimit
    · have hbelow : Descends tree (base ++ [name]) names := by
        intro part hpart _
        have := hdescends (name :: part) (List.cons_prefix_cons.mpr ⟨rfl, hpart⟩) (by simp)
        simpa using this
      rw [walk_of_looksUp (.of_proper hproper hlength), hdescends [name] (by simp) (by simp)]
      simp only [ih hbelow fun name hname => hnames name (by simp [hname]), List.mem_cons,
        forall_eq_or_imp, hlength, true_and, List.append_assoc, List.singleton_append]
    · rw [walk_of_too_long hproper (Nat.not_le.mp hlength), if_neg]
      intro hall
      exact hlength (hall name (by simp))

/-- Below a root, the walk along a path begins at the directory of the root. -/
theorem walk_stem (hbase : files.directoryAt? root = some base) :
    ∃ left, ∀ rest, walk files.tree ⟨true, false⟩ linkLimit (origin files.here root)
        ((stem root).filter (· ≠ []) ++ rest) =
      walk files.tree ⟨true, false⟩ left base rest := by
  rw [directoryAt_eq_some_iff] at hbase
  obtain ⟨-, hreaches⟩ := locate_eq_ok_iff.mp hbase
  rw [steps_eq_stem] at hreaches
  split at hreaches
  · exact hreaches.drop_slash.walk_append
  · rw [List.append_nil] at hreaches
    exact hreaches.walk_append

/-- Where the path to a directory leads: only the lengths of its parts decide. -/
def goal (root : Path) (base : Location) (names : List Name) : Except OsError Spot :=
  if (descend root names).contains 0 then .error .nulInName
  else if pathLimit ≤ (descend root names).length then .error .nameTooLong
  else if ∀ name ∈ names, name.length ≤ nameLimit then .ok (.found (base ++ names) .directory)
  else .error .nameTooLong

/-- A longer path leads to the directory under its names, if it can be read at all. -/
theorem locate_descend (hbase : files.directoryAt? root = some base)
    (hnames : ∀ name ∈ names, name.Proper) (hdescends : Descends files.tree base names) :
    files.locate ⟨true, false⟩ (descend root names) = goal root base names := by
  have hroot := ne_nil_of_directoryAt hbase
  by_cases hne : names = []
  · subst hne
    have hlocate := directoryAt_eq_some_iff.mp hbase
    obtain ⟨hpath, -⟩ := locate_eq_ok_iff.mp hlocate
    rw [Path.descend_nil, hlocate, goal, Path.descend_nil,
      if_neg (by rw [hpath.no_nul]; simp), if_neg (Nat.not_le.mpr hpath.length_lt)]
    simp
  · obtain ⟨left, hleft⟩ := walk_stem hbase
    rw [origin] at hleft
    have hwalk : walk files.tree ⟨true, false⟩ linkLimit
        (if (descend root names).isAbsolute then [] else files.here)
        (steps (descend root names)) =
      if ∀ name ∈ names, name.length ≤ nameLimit then .ok (.found (base ++ names) .directory)
      else .error .nameTooLong := by
      rw [steps_descend hroot hne hnames, Path.isAbsolute_descend hroot hnames, hleft,
        ← List.append_nil names, walk_descends hdescends hnames, List.append_nil, walk.eq_def]
    rw [locate, if_neg (Path.descend_ne_nil hroot hnames), hwalk, goal]

/-! ## Listings -/

/-- The order of names is that of their bytes. -/
theorem nameLe_iff {a b : Name} : nameLe a b = true ↔ a ≤ b := by
  induction a generalizing b with
  | nil => simp [nameLe]
  | cons x a ih =>
    cases b with
    | nil => simp [nameLe]
    | cons y b => simp [nameLe, List.cons_le_cons_iff, ih]

def listing (tree : Tree) (location : Location) : List (Name × EntryKind) :=
  ((tree.children location).map fun (name, entry) => (name, entry.kind)).mergeSort
    fun a b => nameLe a.1 b.1

/-- Listing gives the entries of the directory that the path leads to. -/
theorem list_eq_ok_iff {entries : List (Name × EntryKind)} :
    files.list path = .ok entries ↔
      ∃ location, files.directoryAt? path = some location ∧
        entries = listing files.tree location := by
  unfold list directoryAt? listing
  rcases files.locate ⟨true, false⟩ path with e | ⟨l, _ | _ | _⟩ | l <;>
    simp [bind, Except.bind, eq_comm]

/-- A listing has the entries of its directory by name and kind. -/
theorem mem_listing_iff (hwell : tree.WellFormed) :
    (name, kind) ∈ listing tree location ↔
      ∃ entry, tree.entry? (location ++ [name]) = some entry ∧ entry.kind = kind := by
  rw [listing, List.mem_mergeSort, List.mem_map]
  constructor
  · rintro ⟨⟨_, entry⟩, hchild, heq⟩
    obtain ⟨rfl, rfl⟩ := Prod.mk.inj heq
    exact ⟨entry, hwell.mem_children_iff.mp hchild, rfl⟩
  · rintro ⟨entry, hentry, rfl⟩
    exact ⟨(name, entry), hwell.mem_children_iff.mpr hentry, rfl⟩

/-- A listing is strictly increasing. -/
theorem listing_pairwise (hwell : tree.WellFormed) (location : Location) :
    (listing tree location).Pairwise fun a b => a.1 < b.1 := by
  have hsorted : (listing tree location).Pairwise fun a b => nameLe a.1 b.1 := by
    apply List.pairwise_mergeSort
    · intro a b c hab hbc
      rw [nameLe_iff] at hab hbc ⊢
      exact List.le_trans hab hbc
    · intro a b
      rw [Bool.or_eq_true, nameLe_iff, nameLe_iff]
      exact List.le_total a.1 b.1
  have hnodup : (listing tree location).Pairwise fun a b => a.1 ≠ b.1 := by
    rw [← List.pairwise_map (f := Prod.fst)]
    apply ((List.mergeSort_perm _ _).map Prod.fst).nodup_iff.mpr
    simpa [Function.comp_def] using hwell.nodup_children location
  apply hsorted.imp₂ _ hnodup
  intro a b hle hne
  exact (List.le_iff_lt_or_eq.mp (nameLe_iff.mp hle)).resolve_right hne

/-- Below a root, a listing is that of the tree. -/
theorem list_descend (hbase : files.directoryAt? root = some base)
    (hnames : ∀ name ∈ names, name.Proper) (hdescends : Descends files.tree base names) :
    files.list (descend root names) =
      (goal root base names).map fun _ => listing files.tree (base ++ names) := by
  unfold list listing
  rw [locate_descend hbase hnames hdescends, goal]
  split_ifs <;> rfl

theorem entries_eq_listing (hbase : files.directoryAt? root = some base)
    (hnames : ∀ name ∈ names, name.Proper) (hdescends : Descends files.tree base names)
    {entries : List (Name × EntryKind)} (hlist : files.list (descend root names) = .ok entries) :
    entries = listing files.tree (base ++ names) := by
  rw [list_descend hbase hnames hdescends] at hlist
  cases hgoal : goal root base names with
  | error e => simp [hgoal, Except.map] at hlist
  | ok spot =>
    rw [hgoal] at hlist
    exact (Except.ok.inj hlist).symm

end Files

end Emend
