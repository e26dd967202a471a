import Mathlib.Data.List.Nodup
import Emend.Tree

/-!
# Entries of a tree

What is found at a location after an entry has been put somewhere, and what a
directory lists.  A tree is well formed when every location is kept once and
every name in it can stand in a path; listings and locations then say the same.
-/

namespace Emend

/-- A name that can stand in a path as it is: it is not empty, holds no slash,
and does not stand for a directory itself or for the one above it. -/
structure Name.Proper (name : Name) : Prop where
  ne_nil : name ≠ []
  no_slash : Path.slash ∉ name
  ne_dot : name ≠ [Path.dot]
  ne_dots : name ≠ [Path.dot, Path.dot]

instance (name : Name) : Decidable name.Proper :=
  decidable_of_iff
    (name ≠ [] ∧ Path.slash ∉ name ∧ name ≠ [Path.dot] ∧ name ≠ [Path.dot, Path.dot])
    ⟨fun ⟨hnil, hslash, hdot, hdots⟩ => ⟨hnil, hslash, hdot, hdots⟩,
      fun ⟨hnil, hslash, hdot, hdots⟩ => ⟨hnil, hslash, hdot, hdots⟩⟩

namespace Tree

variable {tree : Tree} {location other : Location} {entry : Entry}

/-- Every entry has its own location below the root, made of proper names. -/
structure WellFormed (tree : Tree) : Prop where
  nodup : (tree.entries.map (·.1)).Nodup
  ne_nil : ∀ e ∈ tree.entries, e.1 ≠ []
  proper : ∀ e ∈ tree.entries, ∀ name ∈ e.1, name.Proper

instance (tree : Tree) : Decidable tree.WellFormed :=
  decidable_of_iff
    ((tree.entries.map (·.1)).Nodup ∧ (∀ e ∈ tree.entries, e.1 ≠ []) ∧
      ∀ e ∈ tree.entries, ∀ name ∈ e.1, name.Proper)
    ⟨fun ⟨hnodup, hnil, hproper⟩ => ⟨hnodup, hnil, hproper⟩,
      fun ⟨hnodup, hnil, hproper⟩ => ⟨hnodup, hnil, hproper⟩⟩

/-- A tree of files and directories alone. -/
def LinkFree (tree : Tree) : Prop :=
  ∀ location target, tree.entry? location ≠ some (.link target)

@[simp]
theorem entry_nil (tree : Tree) : tree.entry? [] = some .directory := rfl

theorem entry_of_ne_nil (hlocation : location ≠ []) :
    tree.entry? location = (tree.entries.find? (·.1 = location)).map (·.2) := by
  unfold entry?
  rw [if_neg hlocation]

theorem linkFree_of_entries (hentries : ∀ e ∈ tree.entries, ∀ target, e.2 ≠ .link target) :
    tree.LinkFree := by
  intro location target hentry
  by_cases hnil : location = []
  · rw [hnil, entry_nil] at hentry
    cases hentry
  · rw [entry_of_ne_nil hnil, Option.map_eq_some_iff] at hentry
    obtain ⟨e, hfind, htarget⟩ := hentry
    exact hentries e (List.mem_of_find?_eq_some hfind) target htarget

/-! ## Putting an entry -/

/-- Replacing the entry at one location keeps every location where it is. -/
private theorem find?_replace (entries : List (Location × Entry)) :
    (entries.map fun e => if e.1 = location then (location, entry) else e).find?
        (·.1 = other) =
      (entries.find? (·.1 = other)).map fun e =>
        if e.1 = location then (location, entry) else e := by
  rw [List.find?_map]
  congr 2
  funext e
  by_cases h : e.1 = location <;> simp [h]

theorem entry_put_self (hlocation : location ≠ []) :
    Tree.entry? (tree.put location entry) location = some entry := by
  rw [entry_of_ne_nil hlocation, put]
  split
  · rename_i hany
    obtain ⟨e, he⟩ : ∃ e, tree.entries.find? (·.1 = location) = some e := by
      rw [← Option.isSome_iff_exists, List.find?_isSome]
      simpa using hany
    have hloc : e.1 = location := by simpa using List.find?_some he
    rw [find?_replace, he]
    simp [hloc]
  · rename_i hany
    have hnone : tree.entries.find? (·.1 = location) = none := by
      rw [List.find?_eq_none]
      simpa only [List.any_eq_true, not_exists, not_and] using hany
    simp [List.find?_append, hnone]

theorem entry_put_of_ne (hne : other ≠ location) :
    Tree.entry? (tree.put location entry) other = tree.entry? other := by
  by_cases hnil : other = []
  · simp [hnil]
  rw [entry_of_ne_nil hnil, entry_of_ne_nil hnil, put]
  split
  · rw [find?_replace]
    cases hfind : tree.entries.find? (·.1 = other) with
    | none => rfl
    | some e =>
      have hloc : e.1 = other := by simpa using List.find?_some hfind
      simp [hloc, hne]
  · simp [List.find?_append, hne.symm]

/-- Putting an entry changes its location alone. -/
theorem entry_put (hlocation : location ≠ []) :
    Tree.entry? (tree.put location entry) other =
      if other = location then some entry else tree.entry? other := by
  by_cases h : other = location
  · rw [if_pos h, h, entry_put_self hlocation]
  · rw [if_neg h, entry_put_of_ne h]

/-- The locations of a tree after an entry has been put somewhere. -/
theorem map_fst_put (tree : Tree) (location : Location) (entry : Entry) :
    (tree.put location entry).entries.map (·.1) =
      if location ∈ tree.entries.map (·.1) then tree.entries.map (·.1)
      else tree.entries.map (·.1) ++ [location] := by
  have hany : tree.entries.any (·.1 = location) = true ↔ location ∈ tree.entries.map (·.1) := by
    simp
  rw [put]
  by_cases hmem : location ∈ tree.entries.map (·.1)
  · rw [if_pos (hany.mpr hmem), if_pos hmem, List.map_map]
    apply List.map_congr_left
    intro e _
    by_cases h : e.1 = location <;> simp [h]
  · rw [if_neg (mt hany.mp hmem), if_neg hmem, List.map_append]
    rfl

/-! ## Listing a directory -/

def child? (parent : Location) (e : Location × Entry) : Option (Name × Entry) :=
  match e.1.getLast? with
  | some name => if e.1.dropLast = parent then some (name, e.2) else none
  | none => none

theorem children_eq_filterMap (tree : Tree) (parent : Location) :
    tree.children parent = tree.entries.filterMap (child? parent) := rfl

theorem child?_eq_some_iff {parent : Location} {name : Name} {e : Location × Entry} :
    child? parent e = some (name, entry) ↔ e = (parent ++ [name], entry) := by
  obtain ⟨l, found⟩ := e
  constructor
  · intro hchild
    unfold child? at hchild
    split at hchild
    · rename_i last hlast
      split at hchild
      · rename_i hdrop
        simp only [Option.some.injEq, Prod.mk.injEq] at hchild
        obtain ⟨rfl, rfl⟩ := hchild
        rw [← hdrop, List.dropLast_append_getLast? _ hlast]
      · simp at hchild
    · simp at hchild
  · rintro ⟨rfl, rfl⟩
    simp [child?]

theorem child?_eq_none {parent : Location} {e : Location × Entry}
    (hparent : e.1.dropLast ≠ parent) : child? parent e = none := by
  rw [Option.eq_none_iff_forall_ne_some]
  rintro ⟨name, found⟩ hchild
  rw [child?_eq_some_iff] at hchild
  exact hparent (by simp [hchild])

/-- Only the directory that an entry is put in lists anything new. -/
theorem children_put_of_ne {parent : Location} (hparent : location.dropLast ≠ parent) :
    (tree.put location entry).children parent = tree.children parent := by
  rw [children_eq_filterMap, children_eq_filterMap, put]
  split
  · rw [List.filterMap_map]
    apply List.filterMap_congr
    intro e _
    by_cases h : e.1 = location
    · rw [child?_eq_none (by rwa [h])]
      simp only [Function.comp_apply, if_pos h]
      exact child?_eq_none hparent
    · simp only [Function.comp_apply, if_neg h]
  · rw [List.filterMap_append, List.filterMap_cons, child?_eq_none hparent]
    simp

namespace WellFormed

variable (hwell : tree.WellFormed)
include hwell

/-- The entry at a location is the one that is listed for it. -/
theorem entry_eq_some_iff (hlocation : location ≠ []) :
    tree.entry? location = some entry ↔ (location, entry) ∈ tree.entries := by
  rw [entry_of_ne_nil hlocation, Option.map_eq_some_iff]
  constructor
  · rintro ⟨e, hfind, rfl⟩
    have hloc : e.1 = location := by simpa using List.find?_some hfind
    rw [← hloc]
    exact List.mem_of_find?_eq_some hfind
  · intro hmem
    obtain ⟨e, hfind⟩ : ∃ e, tree.entries.find? (·.1 = location) = some e := by
      rw [← Option.isSome_iff_exists, List.find?_isSome]
      exact ⟨_, hmem, by simp⟩
    have hloc : e.1 = location := by simpa using List.find?_some hfind
    have heq : e = (location, entry) :=
      List.inj_on_of_nodup_map hwell.nodup (List.mem_of_find?_eq_some hfind) hmem hloc
    exact ⟨e, hfind, by rw [heq]⟩

/-- The children of a directory are the entries right below it. -/
theorem mem_children_iff {parent : Location} {name : Name} :
    (name, entry) ∈ tree.children parent ↔ tree.entry? (parent ++ [name]) = some entry := by
  rw [hwell.entry_eq_some_iff (by simp), children_eq_filterMap, List.mem_filterMap]
  simp only [child?_eq_some_iff, exists_eq_right]

/-- A directory lists every name once. -/
theorem nodup_children (parent : Location) : ((tree.children parent).map (·.1)).Nodup := by
  have hchildren : (tree.children parent).Nodup := by
    rw [children_eq_filterMap]
    apply (hwell.nodup.of_map _).filterMap
    rintro e e' ⟨name, found⟩ he he'
    rw [Option.mem_def, child?_eq_some_iff] at he he'
    rw [he, he']
  apply hchildren.map_on
  rintro ⟨name, first⟩ hfirst ⟨_, second⟩ hsecond rfl
  rw [hwell.mem_children_iff] at hfirst hsecond
  rw [hfirst, Option.some.injEq] at hsecond
  rw [hsecond]

theorem proper_of_entry {name : Name} (hentry : tree.entry? location = some entry)
    (hname : name ∈ location) : name.Proper := by
  have hlocation : location ≠ [] := List.ne_nil_of_mem hname
  exact hwell.proper _ ((hwell.entry_eq_some_iff hlocation).mp hentry) name hname

/-- A tree stays well formed if an entry is put under proper names. -/
theorem put (hlocation : location ≠ []) (hproper : ∀ name ∈ location, name.Proper) :
    (tree.put location entry).WellFormed := by
  have hplaces {place : Location}
      (hplace : place ∈ (tree.put location entry).entries.map (·.1)) :
      place = location ∨ place ∈ tree.entries.map (·.1) := by
    rw [map_fst_put] at hplace
    split_ifs at hplace
    · exact .inr hplace
    · simpa [or_comm] using hplace
  have hall (P : Location → Prop) (hhere : P location) (hold : ∀ e ∈ tree.entries, P e.1) :
      ∀ e ∈ (tree.put location entry).entries, P e.1 := by
    intro e he
    rcases hplaces (List.mem_map_of_mem he) with heq | hmem
    · exact heq ▸ hhere
    · obtain ⟨old, holder, hsame⟩ := List.mem_map.mp hmem
      exact hsame ▸ hold old holder
  refine ⟨?_, hall (· ≠ []) hlocation hwell.ne_nil,
    hall (∀ name ∈ ·, name.Proper) hproper hwell.proper⟩
  rw [map_fst_put]
  split_ifs with hmem
  · exact hwell.nodup
  · rw [← List.concat_eq_append]
    exact hwell.nodup.concat hmem

end WellFormed

end Tree

end Emend
