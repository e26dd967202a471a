import Emend.Proofs.Files.Growth
import Emend.Proofs.Files.Listing

/-!
# Files that differ in what they hold

Two trees have one outline if the same names stand in them, for things of the same kinds,
with the same targets of links.  Only what their files hold can then differ.  A path that
leads somewhere in one of them leads to the same place in the other, and a path that
leads nowhere does so for the same reason.
-/

namespace Emend

/-- An entry without what it holds. -/
def Entry.outline : Entry → Entry
  | .file _ => .file []
  | entry => entry

def Spot.outline : Spot → Spot
  | .found location entry => .found location entry.outline
  | .free location => .free location

theorem Entry.kind_outline (entry : Entry) : entry.outline.kind = entry.kind := by
  cases entry <;> rfl

theorem Spot.slot_outline (spot : Spot) : spot.outline.slot? = spot.slot? := by
  rcases spot with ⟨_, _ | _ | _⟩ | _ <;> rfl

namespace Tree

variable {first second third : Tree} {location place : Location} {entry : Entry}

def SameOutline (first second : Tree) : Prop :=
  ∀ location, (first.entry? location).map Entry.outline =
    (second.entry? location).map Entry.outline

namespace SameOutline

theorem of_entries (hentries : first.entries.map (fun e => (e.1, e.2.outline)) =
    second.entries.map fun e => (e.1, e.2.outline)) : first.SameOutline second := by
  have hfind (tree : Tree) (location : Location) :
      ((tree.entries.find? (·.1 = location)).map (·.2)).map Entry.outline =
        ((tree.entries.map fun e => (e.1, e.2.outline)).find? (·.1 = location)).map (·.2) := by
    rw [List.find?_map, Option.map_map, Option.map_map]
    rfl
  intro location
  by_cases hlocation : location = []
  · rw [hlocation, entry_nil, entry_nil]
  · rw [entry_of_ne_nil hlocation, entry_of_ne_nil hlocation, hfind, hfind, hentries]

variable (hsame : first.SameOutline second)
include hsame

theorem none (hentry : first.entry? location = none) : second.entry? location = none := by
  have hother := hsame location
  rw [hentry] at hother
  exact Option.map_eq_none_iff.mp hother.symm

theorem file {content : Bytes} (hentry : first.entry? location = some (.file content)) :
    ∃ other, second.entry? location = some (.file other) := by
  have hother := hsame location
  rw [hentry] at hother
  obtain ⟨found, hfound, houtline⟩ := Option.map_eq_some_iff.mp hother.symm
  cases found with
  | file other => exact ⟨other, hfound⟩
  | directory | link => cases houtline

theorem kept (hentry : first.entry? location = some entry) (hkind : entry.kind ≠ .file) :
    second.entry? location = some entry := by
  have hother := hsame location
  rw [hentry] at hother
  obtain ⟨found, hfound, houtline⟩ := Option.map_eq_some_iff.mp hother.symm
  rw [hfound]
  cases entry <;> cases found <;> simp_all [Entry.outline, Entry.kind]

/-- The same content put at the same place keeps the outline. -/
theorem put {content : Bytes} (hlocation : location ≠ []) :
    (first.put location (.file content)).SameOutline (second.put location (.file content)) := by
  intro place
  rw [entry_put hlocation, entry_put hlocation]
  split_ifs
  · rfl
  · exact hsame place

end SameOutline

end Tree

namespace Files

/-- The files differ in what they hold at most. -/
structure SameOutline (first second : Files) : Prop where
  here : first.here = second.here
  sizeLimit : first.sizeLimit = second.sizeLimit
  tree : first.tree.SameOutline second.tree

variable {files first second : Files} {path : Path} {location : Location} {content : Bytes}
  {manner : Manner} {spot : Spot}

/-! ## Where paths lead -/

/-- Walks through trees of one outline come to spots of one outline. -/
theorem walk_outline {first second : Tree} (hsame : first.SameOutline second) (manner : Manner)
    (links : Nat) (directory : Location) (names : List Name) :
    (walk first manner links directory names).map Spot.outline =
      (walk second manner links directory names).map Spot.outline := by
  fun_induction walk first manner links directory names with
  | case1 links directory => rw [walk.eq_def]
  | case2 links directory name rest hname ih =>
    rw [ih, walk.eq_def second _ _ _ (name :: rest)]
    simp only [if_pos hname]
  | case3 links directory rest hmoves ih =>
    rw [ih, walk.eq_def second _ _ _ (_ :: rest)]
    simp only [if_neg hmoves, if_true]
  | case4 links directory name rest hmoves hdots hopens =>
    rw [walk.eq_def]
    simp only [if_neg hmoves, if_neg hdots, if_pos hopens]
  | case5 links directory name rest hmoves hdots hopens hlength =>
    rw [walk.eq_def]
    simp only [if_neg hmoves, if_neg hdots, if_neg hopens, if_pos hlength]
  | case6 links directory name hmoves hdots hlength location hentry hopens =>
    rw [walk_of_looksUp ⟨hmoves, hdots, hopens, Nat.not_lt.mp hlength⟩, hsame.none hentry]
    rfl
  | case7 links directory name rest hmoves hdots hopens hlength location hentry hrest =>
    rw [walk_of_looksUp ⟨hmoves, hdots, hopens, Nat.not_lt.mp hlength⟩, hsame.none hentry]
    simp only [if_neg hrest]
  | case8 links directory name rest hmoves hdots hopens hlength location hentry ih =>
    rw [walk_of_looksUp ⟨hmoves, hdots, hopens, Nat.not_lt.mp hlength⟩,
      hsame.kept hentry (by simp)]
    exact ih
  | case9 links directory name hmoves hdots hlength location content hentry hopens =>
    obtain ⟨other, hother⟩ := hsame.file hentry
    rw [walk_of_looksUp ⟨hmoves, hdots, hopens, Nat.not_lt.mp hlength⟩, hother]
    rfl
  | case10 links directory name rest hmoves hdots hopens hlength location content hentry hrest =>
    obtain ⟨other, hother⟩ := hsame.file hentry
    rw [walk_of_looksUp ⟨hmoves, hdots, hopens, Nat.not_lt.mp hlength⟩, hother]
    simp only [if_neg hrest]
  | case11 links directory name rest hmoves hdots hopens hlength location target hentry hend =>
    rw [walk_of_looksUp ⟨hmoves, hdots, hopens, Nat.not_lt.mp hlength⟩,
      hsame.kept hentry (by simp)]
    simp only [if_pos hend]
    rfl
  | case12 directory name rest hmoves hdots hopens hlength location target hentry hend =>
    rw [walk_of_looksUp ⟨hmoves, hdots, hopens, Nat.not_lt.mp hlength⟩,
      hsame.kept hentry (by simp)]
    simp only [if_neg hend]
  | case13 directory name rest hmoves hdots hopens hlength location target hentry hend links ih =>
    rw [walk_of_looksUp ⟨hmoves, hdots, hopens, Nat.not_lt.mp hlength⟩,
      hsame.kept hentry (by simp)]
    simp only [if_neg hend]
    simpa only [origin, dite_eq_ite] using ih

namespace SameOutline

variable (hsame : first.SameOutline second)
include hsame

theorem locate_outline (manner : Manner) (path : Path) :
    (first.locate manner path).map Spot.outline =
      (second.locate manner path).map Spot.outline := by
  simp only [locate, hsame.here]
  split_ifs
  · rfl
  · rfl
  · rfl
  · exact walk_outline hsame.tree manner linkLimit _ (steps path)
  · exact walk_outline hsame.tree manner linkLimit _ (steps path)

theorem locate_cases (manner : Manner) (path : Path) :
    (∃ e, first.locate manner path = .error e ∧ second.locate manner path = .error e) ∨
      ∃ spot other, first.locate manner path = .ok spot ∧
        second.locate manner path = .ok other ∧ spot.outline = other.outline := by
  have hlocate := hsame.locate_outline manner path
  cases hfirst : first.locate manner path with
  | error e =>
    cases hsecond : second.locate manner path with
    | error e' => simp_all [Except.map]
    | ok other => simp [hfirst, hsecond, Except.map] at hlocate
  | ok spot =>
    cases hsecond : second.locate manner path with
    | error e => simp [hfirst, hsecond, Except.map] at hlocate
    | ok other =>
      rw [hfirst, hsecond] at hlocate
      exact .inr ⟨spot, other, rfl, rfl, Except.ok.inj hlocate⟩

theorem slot_eq (path : Path) : first.slot? path = second.slot? path := by
  unfold slot?
  rcases hsame.locate_cases ⟨true, true⟩ path with
    ⟨e, hfirst, hsecond⟩ | ⟨spot, other, hfirst, hsecond, hspot⟩
  · rw [hfirst, hsecond]
  · simp only [hfirst, hsecond]
    rw [← Spot.slot_outline, hspot, Spot.slot_outline]

/-! ## Kinds and listings -/

theorem entry_outline (follow : Bool) (path : Path) :
    (first.entry follow path).map Entry.outline =
      (second.entry follow path).map Entry.outline := by
  unfold entry
  rcases hsame.locate_cases ⟨follow, false⟩ path with
    ⟨e, hfirst, hsecond⟩ | ⟨spot, other, hfirst, hsecond, hspot⟩
  · rw [hfirst, hsecond]
  · rw [hfirst, hsecond]
    rcases spot with ⟨_, _⟩ | _ <;> rcases other with ⟨_, _⟩ | _ <;>
      simp_all [Spot.outline, bind, Except.bind, Except.map]

theorem entry_kind (follow : Bool) (path : Path) :
    (first.entry follow path).map Entry.kind = (second.entry follow path).map Entry.kind := by
  have hkind (outcome : Except OsError Entry) :
      outcome.map Entry.kind = (outcome.map Entry.outline).map Entry.kind := by
    cases outcome with
    | error e => rfl
    | ok entry => exact congrArg Except.ok entry.kind_outline.symm
  calc
    (first.entry follow path).map Entry.kind =
        ((first.entry follow path).map Entry.outline).map Entry.kind := hkind _
    _ = ((second.entry follow path).map Entry.outline).map Entry.kind := by
      rw [hsame.entry_outline]
    _ = (second.entry follow path).map Entry.kind := (hkind _).symm

theorem kind_eq (path : Path) : first.kind path = second.kind path := hsame.entry_kind true path

theorem linkKind_eq (path : Path) : first.linkKind path = second.linkKind path :=
  hsame.entry_kind false path

theorem isFile_eq (path : Path) : first.isFile path = second.isFile path := by
  rw [isFile, hsame.kind_eq, isFile]

theorem isDirectory_eq (path : Path) : first.isDirectory path = second.isDirectory path := by
  rw [isDirectory, hsame.kind_eq, isDirectory]

/-- The directories of both trees list the same. -/
theorem listing_eq (hwell : first.tree.WellFormed) (hwell' : second.tree.WellFormed)
    (location : Location) : listing first.tree location = listing second.tree location := by
  have hmem {first second : Tree} (hwell : first.WellFormed) (hwell' : second.WellFormed)
      (hsame : first.SameOutline second) {listed : Name × EntryKind}
      (hlisted : listed ∈ listing first location) : listed ∈ listing second location := by
    obtain ⟨entry, hentry, hkind⟩ := (mem_listing_iff hwell).mp hlisted
    have hother := hsame (location ++ [listed.1])
    rw [hentry] at hother
    obtain ⟨other, hfound, houtline⟩ := Option.map_eq_some_iff.mp hother.symm
    refine (mem_listing_iff hwell').mpr ⟨other, hfound, ?_⟩
    rw [← hkind, ← other.kind_outline, houtline, entry.kind_outline]
  have hsorted := listing_pairwise hwell location
  have hsorted' := listing_pairwise hwell' location
  have hnodup {entries : List (Name × EntryKind)} (hlt : entries.Pairwise fun a b => a.1 < b.1) :
      entries.Nodup := by
    refine hlt.imp ?_
    rintro a _ hless rfl
    exact List.lt_irrefl a.1 hless
  -- Both listings are in the one strict order, so that their members determine them.
  apply List.Perm.eq_of_pairwise _ hsorted hsorted'
  · rw [List.perm_ext_iff_of_nodup (hnodup hsorted) (hnodup hsorted')]
    exact fun listed => ⟨hmem hwell hwell' hsame.tree,
      hmem hwell' hwell fun location => (hsame.tree location).symm⟩
  · intro a b _ _ hlt hgt
    exact absurd hgt (List.lt_asymm hlt)

/-- Trees of one outline are listed alike. -/
theorem list_eq (hwell : first.tree.WellFormed) (hwell' : second.tree.WellFormed) (path : Path) :
    first.list path = second.list path := by
  unfold list
  rcases hsame.locate_cases ⟨true, false⟩ path with
    ⟨e, hfirst, hsecond⟩ | ⟨spot, other, hfirst, hsecond, hspot⟩
  · rw [hfirst, hsecond]
    rfl
  · have hlisting := hsame.listing_eq hwell hwell'
    unfold listing at hlisting
    rw [hfirst, hsecond]
    rcases spot with ⟨place, _ | _ | _⟩ | _ <;> rcases other with ⟨_, _ | _ | _⟩ | _ <;>
      simp_all [Spot.outline, Entry.outline, bind, Except.bind]

/-! ## Reading and writing -/

/-- A path reads the same if the files where it leads hold the same. -/
theorem read_eq (hslot : ∀ location, first.slot? path = some location →
      first.tree.entry? location = second.tree.entry? location) :
    first.read path = second.read path := by
  rcases hsame.locate_cases ⟨true, false⟩ path with
    ⟨e, hfirst, hsecond⟩ | ⟨spot, other, hfirst, hsecond, hspot⟩
  · simp only [read, entry, hfirst, hsecond]
  · have hequal : spot = other := by
      rcases spot with ⟨place, content | _ | _⟩ | _ <;>
        rcases other with ⟨place', content' | _ | _⟩ | _ <;>
        simp only [Spot.outline, Entry.outline, Spot.found.injEq, Spot.free.injEq,
          reduceCtorEq, and_false] at hspot
      · obtain ⟨rfl, -⟩ := hspot
        obtain ⟨hplace, hentry⟩ := locate_file_iff.mp hfirst
        obtain ⟨-, hentry'⟩ := locate_file_iff.mp hsecond
        have hheld := hslot place hplace
        rw [hentry, hentry', Option.some.injEq, Entry.file.injEq] at hheld
        rw [hheld]
      all_goals simp_all
    simp only [read, entry, hfirst, hsecond, hequal]

/-- Writing has the same outcome, and puts the same content at the same place. -/
theorem write_eq (path : Path) (content : Bytes) :
    (first.write path content).1 = (second.write path content).1 ∧
      ((first.write path content).2 = first ∧ (second.write path content).2 = second ∨
        ∃ location stored, first.slot? path = some location ∧
          (first.write path content).2 = first.store location stored ∧
          (second.write path content).2 = second.store location stored) := by
  have hkept : first.kept content = second.kept content := by
    rw [kept, kept, hsame.sizeLimit]
  rcases hsame.locate_cases ⟨true, true⟩ path with
    ⟨e, hfirst, hsecond⟩ | ⟨spot, other, hfirst, hsecond, hspot⟩
  · simp [write, hfirst, hsecond]
  · have hslot : spot.slot? = other.slot? := by
      rw [← Spot.slot_outline, hspot, Spot.slot_outline]
    cases hplace : spot.slot? with
    | none =>
      rcases spot with ⟨_, _ | _ | _⟩ | _ <;> rcases other with ⟨_, _ | _ | _⟩ | _ <;>
        simp_all [write, Spot.slot?]
    | some location =>
      have hlocation : first.slot? path = some location :=
        slot_eq_some_iff.mpr ⟨spot, hfirst, hplace⟩
      rw [write_of_slot hlocation, write_of_slot (hsame.slot_eq path ▸ hlocation), fill, fill,
        hkept]
      exact ⟨rfl, .inr ⟨location, _, hlocation, rfl, rfl⟩⟩

end SameOutline

end Files

end Emend
