import Mathlib.Data.List.Induction
import Emend.Proofs.Tree.Entries

/-!
# Going down from a path

A path is extended name by name as directories are entered.  The components of the
longer path are those of the first one and the names, so that different names give
different paths and every step makes the path longer.
-/

namespace Emend.Path

variable {path directory root : Path} {name : Name} {names : List Name}

def descend (root : Path) (names : List Name) : Path := names.foldl join root

/-- The components of a path, without the empty one after a slash at the end. -/
def stem (path : Path) : List Bytes :=
  if path.getLast? = some slash then (split path).dropLast else split path

theorem split_slash (path : Path) : split (path ++ [slash]) = split path ++ [[]] := by
  rw [split, List.splitOn_append_cons_self]
  rfl

/-- A path splits into its components, with an empty one behind a slash at the end. -/
theorem split_eq_stem (path : Path) :
    split path = stem path ++ if path.getLast? = some slash then [[]] else [] := by
  unfold stem
  by_cases hslash : path.getLast? = some slash
  · rw [if_pos hslash, if_pos hslash]
    rw [← List.dropLast_append_getLast? _ hslash, split_slash, List.dropLast_concat]
  · rw [if_neg hslash, if_neg hslash, List.append_nil]

/-! ## The last component -/

/-- What stands behind the last slash of a path is its last component, and so is anything
without a slash that is put in its place. -/
theorem exists_last (path : Path) :
    ∃ start last front, path = start ++ last ∧ slash ∉ last ∧
      (start = [] ∨ start.getLast? = some slash) ∧
      ∀ other, slash ∉ other → split (start ++ other) = front ++ [other] := by
  by_cases hslash : slash ∈ path
  · obtain ⟨last, start, hpath, hlast⟩ :=
      List.eq_append_cons_of_mem (List.mem_reverse.mpr hslash)
    refine ⟨start.reverse ++ [slash], last.reverse, split start.reverse, ?_,
      by simpa using hlast, .inr (by simp), fun other hother => ?_⟩
    · simpa using congrArg List.reverse hpath
    · rw [List.append_assoc, List.singleton_append, split, List.splitOn_append_cons_self,
        List.splitOn_eq_singleton hother, split]
  · refine ⟨[], path, [], rfl, hslash, .inl rfl, fun other hother => ?_⟩
    rw [List.nil_append, split, List.splitOn_eq_singleton hother, List.nil_append]

/-! ## One name more -/

/-- A path with the slash that a name after it needs. -/
def fence (directory : Path) : Path :=
  if directory = [] ∨ directory.getLast? = some slash then directory else directory ++ [slash]

theorem isAbsolute_of_proper (hname : name.Proper) : isAbsolute name = false := by
  cases name with
  | nil => rfl
  | cons first rest =>
    have hfirst : first ≠ slash := by
      rintro rfl
      exact hname.no_slash (by simp)
    simp [isAbsolute, hfirst]

theorem join_eq_append (hname : name.Proper) : join directory name = fence directory ++ name := by
  unfold join fence
  rw [isAbsolute_of_proper hname]
  by_cases hdirectory : directory = []
  · simp [hdirectory]
  · by_cases hslash : directory.getLast? = some slash
    · simp [hslash]
    · simp [hdirectory, hslash]

theorem split_fence (hdirectory : directory ≠ []) :
    split (fence directory) = stem directory ++ [[]] := by
  unfold fence
  by_cases hslash : directory.getLast? = some slash
  · rw [if_pos (.inr hslash), split_eq_stem, if_pos hslash]
  · rw [if_neg (by simp [hdirectory, hslash]), split_slash, split_eq_stem, if_neg hslash,
      List.append_nil]

theorem fence_slash (hdirectory : directory ≠ []) : (fence directory).getLast? = some slash := by
  unfold fence
  split
  · rename_i hslash
    exact hslash.resolve_left hdirectory
  · simp

/-- Joining a proper name adds one component. -/
theorem split_join (hdirectory : directory ≠ []) (hname : name.Proper) :
    split (join directory name) = stem directory ++ [name] := by
  obtain ⟨start, hstart⟩ : ∃ start, fence directory = start ++ [slash] :=
    ⟨_, (List.dropLast_append_getLast? _ (fence_slash hdirectory)).symm⟩
  have hstem : split start = stem directory := by
    have hfence := split_fence hdirectory
    rwa [hstart, split_slash, List.append_cancel_right_eq] at hfence
  calc
    split (join directory name) = split (start ++ slash :: name) := by
      rw [join_eq_append hname, hstart, List.append_assoc, List.singleton_append]
    _ = split start ++ split name := List.splitOn_append_cons_self _ _
    _ = stem directory ++ [name] := by
      rw [hstem, split, List.splitOn_eq_singleton hname.no_slash]

theorem getLast?_join (hname : name.Proper) : (join directory name).getLast? = name.getLast? := by
  rw [join_eq_append hname, List.getLast?_append_of_ne_nil _ hname.ne_nil]

theorem join_no_slash (hname : name.Proper) : (join directory name).getLast? ≠ some slash := by
  rw [getLast?_join hname]
  intro hlast
  exact hname.no_slash (List.mem_of_getLast? hlast)

theorem stem_join (hdirectory : directory ≠ []) (hname : name.Proper) :
    stem (join directory name) = stem directory ++ [name] := by
  rw [stem, if_neg (join_no_slash hname), split_join hdirectory hname]

theorem length_join (hname : name.Proper) : directory.length < (join directory name).length := by
  have hlength : 0 < name.length := List.length_pos_of_ne_nil hname.ne_nil
  have hfence : directory.length ≤ (fence directory).length := by
    unfold fence
    split <;> simp
  rw [join_eq_append hname, List.length_append]
  omega

theorem join_ne_nil (hname : name.Proper) : join directory name ≠ [] :=
  List.ne_nil_of_length_pos (Nat.zero_lt_of_lt (length_join hname))

theorem isAbsolute_join (hdirectory : directory ≠ []) (hname : name.Proper) :
    isAbsolute (join directory name) = isAbsolute directory := by
  cases directory with
  | nil => exact absurd rfl hdirectory
  | cons first rest =>
    rw [join_eq_append hname, fence]
    split <;> rfl

theorem fileName?_of_split {front : List Bytes} (hsplit : split path = front ++ [name])
    (hname : name.Proper) : fileName? path = some name := by
  have hkeep : [name].filter (fun c => c ≠ [] ∧ c ≠ [dot]) = [name] := by
    simp [hname.ne_nil, hname.ne_dot]
  rw [fileName?, hsplit, List.filter_append, hkeep]
  simp [hname.ne_dots]

/-- The last component of a longer path is the name it got. -/
theorem fileName?_join (directory : Path) (hname : name.Proper) :
    fileName? (join directory name) = some name := by
  by_cases hdirectory : directory = []
  · have hsplit : split name = [] ++ [name] := List.splitOn_eq_singleton hname.no_slash
    rw [join_eq_append hname, hdirectory]
    exact fileName?_of_split hsplit hname
  · exact fileName?_of_split (split_join hdirectory hname) hname

/-! ## Several names -/

@[simp] theorem descend_nil (root : Path) : descend root [] = root := rfl

@[simp]
theorem descend_concat (root : Path) (names : List Name) (name : Name) :
    descend root (names ++ [name]) = join (descend root names) name := by
  simp [descend]

theorem descend_ne_nil (hroot : root ≠ []) (hnames : ∀ name ∈ names, name.Proper) :
    descend root names ≠ [] := by
  induction names using List.reverseRecOn with
  | nil => exact hroot
  | append_singleton names name =>
    rw [descend_concat]
    exact join_ne_nil (hnames name (by simp))

/-- The components of a path with names after it are its own and the names. -/
theorem stem_descend (hroot : root ≠ []) (hnames : ∀ name ∈ names, name.Proper) :
    stem (descend root names) = stem root ++ names := by
  induction names using List.reverseRecOn with
  | nil => rw [descend_nil, List.append_nil]
  | append_singleton names name ih =>
    have hfront : ∀ name ∈ names, name.Proper := fun name hmem => hnames name (by simp [hmem])
    rw [descend_concat, stem_join (descend_ne_nil hroot hfront) (hnames name (by simp)),
      ih hfront, List.append_assoc]

/-- The names that lead from a root to a path below it. -/
def below (root path : Path) : List Name := (stem path).drop (stem root).length

@[simp]
theorem below_self (root : Path) : below root root = [] := by simp [below]

/-- The names that lead to a path below a root can be read off the path. -/
theorem below_descend (hroot : root ≠ []) (hnames : ∀ name ∈ names, name.Proper) :
    below root (descend root names) = names := by
  rw [below, stem_descend hroot hnames, List.drop_left]

theorem isAbsolute_descend (hroot : root ≠ []) (hnames : ∀ name ∈ names, name.Proper) :
    isAbsolute (descend root names) = isAbsolute root := by
  induction names using List.reverseRecOn with
  | nil => rfl
  | append_singleton names name ih =>
    have hfront : ∀ name ∈ names, name.Proper := fun name hmem => hnames name (by simp [hmem])
    rw [descend_concat, isAbsolute_join (descend_ne_nil hroot hfront) (hnames name (by simp)),
      ih hfront]

theorem descend_no_slash (hne : names ≠ []) (hnames : ∀ name ∈ names, name.Proper) :
    (descend root names).getLast? ≠ some slash := by
  obtain ⟨front, last, rfl⟩ := (List.eq_nil_or_concat' names).resolve_left hne
  rw [descend_concat]
  exact join_no_slash (hnames last (by simp))

end Emend.Path
