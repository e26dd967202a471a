import Emend.Proofs.Patch.Outcome

/-!
# Patching one file after another

A series of files is patched when each of them is, in its turn.  Which locations
are written depends on the start alone, so that a series comes down to a list of
writes.  Every location then holds what the last write put there.
-/

namespace Emend.Files

variable {files before after : Files} {table : RuleTable} {path : Path} {text : String}
  {log rest : List (Path × String)} {location place spare : Location} {content : Bytes}

def verdict (table : RuleTable) (text : String) : Patched :=
  if table.apply text = text then .unchanged else .fixed

/-- Files are patched in turn, with the texts that they are found to hold. -/
inductive Series (table : RuleTable) : List (Path × String) → Files → Files → Prop
  | done {files : Files} : Series table [] files files
  | keeps {files after : Files} {path : Path} {text : String} {rest : List (Path × String)}
      (hholds : files.Holds path text) (hsame : table.apply text = text)
      (hrest : Series table rest files after) :
      Series table ((path, text) :: rest) files after
  | fixes {files after : Files} {path : Path} {text : String} {rest : List (Path × String)}
      {place spare : Location} (hchanges : files.Changes path table text)
      (hplace : files.slot? path = some place)
      (hspare : files.slot? (backupPath path) = some spare)
      (hrest : Series table rest
        ((files.store spare (Utf8.encode text)).store place (Utf8.encode (table.apply text)))
        after) :
      Series table ((path, text) :: rest) files after

theorem Series.of_patch {outcome : Patched} {middle : Files}
    (hpatch : files.patch path table false = (.ok outcome, middle))
    (hrest : Series table rest middle after) :
    ∃ text, Series table ((path, text) :: rest) files after ∧ outcome = verdict table text := by
  have hpatches := files.patch_patches path table false
  rw [hpatch] at hpatches
  cases hpatches with
  | unchanged hholds hsame => exact ⟨_, .keeps hholds hsame hrest, by rw [verdict, if_pos hsame]⟩
  | foreseen _ hdry => cases hdry
  | fixed hchanges _ hspare hplace =>
    exact ⟨_, .fixes hchanges hplace hspare hrest, by rw [verdict, if_neg hchanges.ne]⟩

/-! ## The writes of a series -/

/-- What patching a file writes, with the locations: its backup first. -/
def writesOf (files : Files) (table : RuleTable) (path : Path) (text : String) :
    List (Location × Bytes) :=
  if table.apply text = text then []
  else
    match files.slot? (backupPath path), files.slot? path with
    | some spare, some place =>
      [(spare, Utf8.encode text), (place, Utf8.encode (table.apply text))]
    | _, _ => []

def writes (files : Files) (table : RuleTable) (log : List (Path × String)) :
    List (Location × Bytes) :=
  log.flatMap fun e => files.writesOf table e.1 e.2

/-- The slots of some files and of their backups, in the order in which they are written. -/
def slots (files : Files) (paths : List Path) : List Location :=
  (paths.flatMap fun path => [backupPath path, path]).filterMap files.slot?

theorem slots_append (files : Files) (first second : List Path) :
    files.slots (first ++ second) = files.slots first ++ files.slots second := by
  rw [slots, List.flatMap_append, List.filterMap_append]
  rfl

theorem slots_cons (files : Files) (path : Path) (paths : List Path) :
    files.slots (path :: paths) = files.slots [path] ++ files.slots paths :=
  files.slots_append [path] paths

theorem mem_slots_singleton :
    location ∈ files.slots [path] ↔
      files.slot? (backupPath path) = some location ∨ files.slot? path = some location := by
  simp [slots, List.mem_filterMap]

def lastWrite? (writes : List (Location × Bytes)) (location : Location) : Option Bytes :=
  (writes.reverse.find? (·.1 = location)).map (·.2)

/-- What was written last where a path leads. -/
def lastWritten? (files : Files) (writes : List (Location × Bytes)) (path : Path) :
    Option Bytes :=
  (files.slot? path).bind (lastWrite? writes)

theorem lastWrite_append (first second : List (Location × Bytes)) :
    lastWrite? (first ++ second) location =
      (lastWrite? second location).or (lastWrite? first location) := by
  rw [lastWrite?, List.reverse_append, List.find?_append, Option.map_or]
  rfl

theorem lastWrite_eq_none {writes : List (Location × Bytes)} :
    lastWrite? writes location = none ↔ location ∉ writes.map (·.1) := by
  rw [lastWrite?, Option.map_eq_none_iff, List.find?_eq_none]
  simp only [List.mem_reverse, decide_eq_true_eq, List.mem_map, not_exists, not_and]

theorem exists_lastWrite {writes : List (Location × Bytes)}
    (hwritten : location ∈ writes.map (·.1)) :
    ∃ last, lastWrite? writes location = some last := by
  cases hlast : lastWrite? writes location with
  | none => exact absurd hwritten (lastWrite_eq_none.mp hlast)
  | some last => exact ⟨last, rfl⟩

/-- The only write to a location is the last one. -/
theorem lastWrite_of_mem {writes : List (Location × Bytes)}
    (honce : (writes.map (·.1)).count location ≤ 1) (hmem : (location, content) ∈ writes) :
    lastWrite? writes location = some content := by
  cases hfind : writes.reverse.find? (·.1 = location) with
  | none =>
    simp only [List.find?_eq_none, List.mem_reverse, decide_eq_true_eq] at hfind
    exact absurd rfl (hfind _ hmem)
  | some write =>
    have hlocation : write.1 = location := by simpa using List.find?_some hfind
    have hwrite : write ∈ writes := by simpa using List.mem_of_find?_eq_some hfind
    have hlength : (writes.filter (·.1 = location)).length ≤ 1 := by
      rw [List.count, List.countP_map, List.countP_eq_length_filter] at honce
      simpa only [Function.comp_def, beq_eq_decide] using honce
    have hfirst : write ∈ writes.filter (·.1 = location) := by simp [hwrite, hlocation]
    have hsecond : (location, content) ∈ writes.filter (·.1 = location) := by simp [hmem]
    obtain ⟨only, honly⟩ := List.length_eq_one_iff.mp
      (Nat.le_antisymm hlength (List.length_pos_of_mem hsecond))
    rw [honly, List.mem_singleton] at hfirst hsecond
    have heq : write = (location, content) := by rw [hfirst, hsecond]
    rw [lastWrite?, hfind, heq]
    rfl

theorem writesOf_same (hsame : table.apply text = text) :
    files.writesOf table path text = [] := by
  rw [writesOf, if_pos hsame]

theorem writesOf_fixed (hne : table.apply text ≠ text) (hplace : files.slot? path = some place)
    (hspare : files.slot? (backupPath path) = some spare) :
    files.writesOf table path text =
      [(spare, Utf8.encode text), (place, Utf8.encode (table.apply text))] := by
  rw [writesOf, if_neg hne, hplace, hspare]

/-- What a series writes depends on the shape of the tree alone. -/
theorem writes_congr (hshape : before.SameShape after) :
    before.writes table log = after.writes table log := by
  unfold writes writesOf
  simp only [hshape.slot_eq]

@[simp] theorem writes_nil : files.writes table [] = [] := rfl

@[simp]
theorem writes_cons {e : Path × String} :
    files.writes table (e :: log) = files.writesOf table e.1 e.2 ++ files.writes table log := rfl

/-- A series writes to the slots of its files and of their backups alone. -/
theorem map_writes_sublist (files : Files) (table : RuleTable) (log : List (Path × String)) :
    ((files.writes table log).map (·.1)).Sublist (files.slots (log.map Prod.fst)) := by
  induction log with
  | nil => exact .slnil
  | cons e log ih =>
    rw [writes_cons, List.map_append, slots, List.map_cons, List.flatMap_cons,
      List.filterMap_append]
    refine List.Sublist.append ?_ ih
    unfold writesOf
    split
    · exact List.nil_sublist _
    · split
      · rename_i hspare hplace
        simp [hspare, hplace]
      · exact List.nil_sublist _

/-- One file more is fixed: the shape stays, and two locations get new content. -/
theorem sameShape_fixed (hplace : files.slot? path = some place)
    (hspare : files.slot? (backupPath path) = some spare) {saved : Bytes} :
    files.SameShape ((files.store spare saved).store place content) := by
  have hstored : files.SameShape (files.store spare saved) :=
    sameShape_store (isOpen_of_slot hspare)
  exact hstored.trans (sameShape_store (hstored.tree.isOpen (isOpen_of_slot hplace)))

/-- After two writes a location holds the last one to it, or else what it held. -/
theorem entry_fixed (hplace : files.slot? path = some place)
    (hspare : files.slot? (backupPath path) = some spare) {saved : Bytes} :
    ((files.store spare saved).store place content).tree.entry? location =
      ((lastWrite? [(spare, saved), (place, content)] location).map Entry.file).or
        (files.tree.entry? location) := by
  have hstored : files.SameShape (files.store spare saved) :=
    sameShape_store (isOpen_of_slot hspare)
  rw [entry_store (hstored.tree.isOpen (isOpen_of_slot hplace)),
    entry_store (isOpen_of_slot hspare)]
  by_cases hlast : location = place
  · simp [hlast, lastWrite?]
  · by_cases hfirst : location = spare
    · subst hfirst
      simp [hlast, lastWrite?, Ne.symm hlast]
    · simp [hlast, hfirst, lastWrite?, Ne.symm hlast, Ne.symm hfirst]

namespace Series

/-- Patching files keeps the shape of the tree. -/
theorem sameShape (hseries : Series table log before after) : before.SameShape after := by
  induction hseries with
  | done => exact .refl _
  | keeps _ _ _ ih => exact ih
  | fixes _ hplace hspare _ ih => exact (sameShape_fixed hplace hspare).trans ih

/-- After a series, every location holds what was written there last. -/
theorem entry_eq (hseries : Series table log before after) (location : Location) :
    after.tree.entry? location =
      ((lastWrite? (before.writes table log) location).map Entry.file).or
        (before.tree.entry? location) := by
  induction hseries with
  | done => rfl
  | keeps _ hsame _ ih => rw [ih, writes_cons, writesOf_same hsame, List.nil_append]
  | @fixes files after path text rest place spare hchanges hplace hspare _ ih =>
    calc
      after.tree.entry? location =
          ((lastWrite? (files.writes table rest) location).map Entry.file).or
            (Tree.entry? ((files.store spare (Utf8.encode text)).store place
              (Utf8.encode (table.apply text))).tree location) := by
        rw [ih, ← writes_congr (sameShape_fixed hplace hspare)]
      _ = ((lastWrite? (files.writes table rest) location).map Entry.file).or
            (((lastWrite? (files.writesOf table path text) location).map Entry.file).or
              (files.tree.entry? location)) := by
        rw [entry_fixed hplace hspare, writesOf_fixed hchanges.ne hplace hspare]
      _ = ((lastWrite? (files.writes table ((path, text) :: rest)) location).map Entry.file).or
            (files.tree.entry? location) := by
        rw [writes_cons, lastWrite_append, Option.map_or, Option.or_assoc]

/-- A path reads what was written to its slot last. -/
theorem read_eq_ok_iff (hseries : Series table log before after)
    (hslot : before.slot? path = some location) :
    after.read path = .ok content ↔
      ((lastWrite? (before.writes table log) location).map Entry.file).or
        (before.tree.entry? location) = some (.file content) := by
  rw [← hseries.entry_eq, Files.read_eq_ok_iff]
  rw [hseries.sameShape.slot_eq] at hslot
  simp [hslot]

/-- Where something was written, a path reads what was written last. -/
theorem read_eq_ok_iff_of_mem (hseries : Series table log before after)
    (hslot : before.slot? path = some location)
    (hwritten : location ∈ (before.writes table log).map (·.1)) :
    after.read path = .ok content ↔
      before.lastWritten? (before.writes table log) path = some content := by
  obtain ⟨last, hlast⟩ := exists_lastWrite hwritten
  rw [hseries.read_eq_ok_iff hslot, lastWritten?, hslot, Option.bind_some, hlast]
  simp

theorem split {first second : List (Path × String)}
    (hseries : Series table (first ++ second) before after) :
    ∃ middle, Series table first before middle ∧ Series table second middle after := by
  induction first generalizing before with
  | nil => exact ⟨before, .done, hseries⟩
  | cons e first ih =>
    cases hseries with
    | keeps hholds hsame hrest =>
      obtain ⟨middle, hfirst, hsecond⟩ := ih hrest
      exact ⟨middle, .keeps hholds hsame hfirst, hsecond⟩
    | fixes hchanges hplace hspare hrest =>
      obtain ⟨middle, hfirst, hsecond⟩ := ih hrest
      exact ⟨middle, .fixes hchanges hplace hspare hfirst, hsecond⟩

theorem holds_head (hseries : Series table ((path, text) :: rest) before after) :
    before.Holds path text := by
  cases hseries with
  | keeps hholds => exact hholds
  | fixes hchanges => exact hchanges.toHolds

/-- A file that nothing was written to before it was read holds the text that it held
at the start. -/
theorem holds_of_untouched {first second : List (Path × String)}
    (hseries : Series table (first ++ (path, text) :: second) before after)
    (huntouched : ∀ place, before.slot? path = some place →
      place ∉ (before.writes table first).map (·.1)) : before.Holds path text := by
  obtain ⟨middle, hfirst, hsecond⟩ := hseries.split
  have hholds := hsecond.holds_head
  obtain ⟨place, hplace, hentry⟩ := hholds.exists_slot
  rw [← hfirst.sameShape.slot_eq] at hplace
  rw [hfirst.entry_eq, lastWrite_eq_none.mpr (huntouched place hplace), Option.map_none,
    Option.none_or] at hentry
  exact ⟨read_of_slot hplace hentry, hholds.decode⟩

theorem exists_slots (hseries : Series table log before after) (hmem : (path, text) ∈ log)
    (hne : table.apply text ≠ text) :
    ∃ place spare, before.slot? path = some place ∧
      before.slot? (backupPath path) = some spare := by
  induction hseries with
  | done => cases hmem
  | keeps hholds hsame hrest ih =>
    rcases List.mem_cons.mp hmem with heq | hlater
    · cases heq
      exact absurd hsame hne
    · exact ih hlater
  | fixes hchanges hplace hspare hrest ih =>
    rcases List.mem_cons.mp hmem with heq | hlater
    · cases heq
      exact ⟨_, _, hplace, hspare⟩
    · obtain ⟨place, spare, hlast, hsaved⟩ := ih hlater
      rw [← (sameShape_fixed hplace hspare).slot_eq] at hlast hsaved
      exact ⟨place, spare, hlast, hsaved⟩

end Series

/-! ## Series without collisions -/

theorem mem_writes (hmem : (path, text) ∈ log) (hne : table.apply text ≠ text)
    (hplace : files.slot? path = some place)
    (hspare : files.slot? (backupPath path) = some spare) :
    (spare, Utf8.encode text) ∈ files.writes table log ∧
      (place, Utf8.encode (table.apply text)) ∈ files.writes table log := by
  have hwrites := writesOf_fixed hne hplace hspare
  constructor
  · exact List.mem_flatMap.mpr ⟨_, hmem, by rw [hwrites]; simp⟩
  · exact List.mem_flatMap.mpr ⟨_, hmem, by rw [hwrites]; simp⟩

namespace Series

/-- If its slots are written once, a fixed file and its backup read what was written
there. -/
theorem reads_of_once (hseries : Series table log before after)
    (honce : ∀ location ∈ before.slots [path],
      ((before.writes table log).map (·.1)).count location ≤ 1)
    (hmem : (path, text) ∈ log) (hne : table.apply text ≠ text) :
    after.read path = .ok (Utf8.encode (table.apply text)) ∧
      after.read (backupPath path) = .ok (Utf8.encode text) := by
  obtain ⟨place, spare, hplace, hspare⟩ := hseries.exists_slots hmem hne
  obtain ⟨hsaved, hstored⟩ := mem_writes hmem hne hplace hspare
  have hplaces := honce place (mem_slots_singleton.mpr (.inr hplace))
  have hspares := honce spare (mem_slots_singleton.mpr (.inl hspare))
  constructor
  · rw [hseries.read_eq_ok_iff hplace, lastWrite_of_mem hplaces hstored]
    rfl
  · rw [hseries.read_eq_ok_iff hspare, lastWrite_of_mem hspares hsaved]
    rfl

/-- If its slots are written once, a fixed file held its text at the start. -/
theorem holds_of_once (hseries : Series table log before after)
    (honce : ∀ location ∈ before.slots [path],
      ((before.writes table log).map (·.1)).count location ≤ 1)
    (hmem : (path, text) ∈ log) (hne : table.apply text ≠ text) : before.Holds path text := by
  obtain ⟨place, spare, hplace, hspare⟩ := hseries.exists_slots hmem hne
  obtain ⟨first, second, rfl⟩ := List.append_of_mem hmem
  refine hseries.holds_of_untouched fun location hlocation hwritten => ?_
  rw [hplace, Option.some.injEq] at hlocation
  subst hlocation
  have hlater :
      place ∈ (before.writes table ((path, text) :: second)).map (·.1) :=
    List.mem_map_of_mem (mem_writes (by simp) hne hplace hspare).2
  have hcount := honce place (mem_slots_singleton.mpr (.inr hplace))
  rw [writes, List.flatMap_append, List.map_append, List.count_append] at hcount
  have hearly := List.count_pos_iff.mpr hwritten
  have hlate := List.count_pos_iff.mpr hlater
  unfold writes at hearly hlate
  omega

/-- If no slot is shared, every file held its text at the start. -/
theorem holds_of_slots (hseries : Series table log before after)
    (hnodup : (before.slots (log.map Prod.fst)).Nodup) (hmem : (path, text) ∈ log) :
    before.Holds path text := by
  obtain ⟨first, second, rfl⟩ := List.append_of_mem hmem
  refine hseries.holds_of_untouched fun place hplace hwritten => ?_
  have hfirst := (before.map_writes_sublist table first).subset hwritten
  rw [List.map_append, List.map_cons, slots_append, slots_cons, List.nodup_append] at hnodup
  refine hnodup.2.2 place hfirst place (List.mem_append_left _ ?_) rfl
  exact mem_slots_singleton.mpr (.inr hplace)

/-- If no slot is shared, nothing is written to a file that stays, or to its backup. -/
theorem entry_of_slots (hseries : Series table log before after)
    (hnodup : (before.slots (log.map Prod.fst)).Nodup) (hmem : (path, text) ∈ log)
    (hsame : table.apply text = text) (hslot : location ∈ before.slots [path]) :
    after.tree.entry? location = before.tree.entry? location := by
  obtain ⟨first, second, rfl⟩ := List.append_of_mem hmem
  rw [List.map_append, List.map_cons, slots_append, slots_cons, List.nodup_append,
    List.nodup_append] at hnodup
  obtain ⟨-, ⟨-, -, hsecond⟩, hfirst⟩ := hnodup
  have hunwritten :
      location ∉ (before.writes table (first ++ (path, text) :: second)).map (·.1) := by
    rw [writes, List.flatMap_append, List.flatMap_cons, writesOf_same hsame, List.nil_append,
      List.map_append, List.mem_append, not_or]
    constructor
    · intro hwritten
      have hearlier := (before.map_writes_sublist table first).subset hwritten
      exact hfirst location hearlier location (List.mem_append_left _ hslot) rfl
    · intro hwritten
      have hlater := (before.map_writes_sublist table second).subset hwritten
      exact hsecond location hslot location hlater rfl
  rw [hseries.entry_eq, lastWrite_eq_none.mpr hunwritten]
  rfl

/-- A series changes nothing but the files that it fixes and their backups. -/
theorem entry_of_untouched (hseries : Series table log before after)
    (huntouched : ∀ e ∈ log, table.apply e.2 ≠ e.2 → location ∉ before.slots [e.1]) :
    after.tree.entry? location = before.tree.entry? location := by
  have hunwritten : location ∉ (before.writes table log).map (·.1) := by
    rw [writes, List.map_flatMap, List.mem_flatMap]
    rintro ⟨e, hmem, hwritten⟩
    by_cases hsame : table.apply e.2 = e.2
    · simp [writesOf_same hsame] at hwritten
    · apply huntouched e hmem hsame
      have hsublist := before.map_writes_sublist table [e]
      rw [writes_cons, writes_nil, List.append_nil] at hsublist
      exact hsublist.subset hwritten
  rw [hseries.entry_eq, lastWrite_eq_none.mpr hunwritten]
  rfl

end Series

end Emend.Files
