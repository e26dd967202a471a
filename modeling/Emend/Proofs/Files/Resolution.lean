import Emend.Files
import Emend.Proofs.Tree.Shape

/-!
# Where paths lead

The walk along a path is described by the steps that succeed, one rule for each.
What a walk finds depends only on the directories and links that it passes and on
the entry at its end.  A tree that keeps these therefore answers in the same way,
whatever its files hold.
-/

namespace Emend

namespace Files

open Emend.Path (dot)

/-- A step that is looked up by name in the directory it is taken from. -/
structure LooksUp (manner : Manner) (name : Name) (rest : List Name) : Prop where
  moves : ¬(name = [] ∨ name = [dot])
  ne_dots : name ≠ [dot, dot]
  opens : ¬(manner.create ∧ rest ≠ [] ∧ rest.all (· = []))
  length_le : name.length ≤ nameLimit

/-- The directory in which the target of a link begins. -/
def origin (directory : Location) (target : Path) : Location :=
  if target.isAbsolute then [] else directory

/-- The successful walks, with the number of links that they may still follow. -/
inductive Reaches (tree : Tree) (manner : Manner) :
    Nat → Location → List Name → Spot → Prop
  | here {links directory} :
      Reaches tree manner links directory [] (.found directory .directory)
  | stay {links directory name rest spot} (hname : name = [] ∨ name = [dot])
      (hrest : Reaches tree manner links directory rest spot) :
      Reaches tree manner links directory (name :: rest) spot
  | up {links directory rest spot}
      (hrest : Reaches tree manner links directory.dropLast rest spot) :
      Reaches tree manner links directory ([dot, dot] :: rest) spot
  | free {links directory name} (hname : LooksUp manner name [])
      (hentry : tree.entry? (directory ++ [name]) = none) :
      Reaches tree manner links directory [name] (.free (directory ++ [name]))
  | enter {links directory name rest spot} (hname : LooksUp manner name rest)
      (hentry : tree.entry? (directory ++ [name]) = some .directory)
      (hrest : Reaches tree manner links (directory ++ [name]) rest spot) :
      Reaches tree manner links directory (name :: rest) spot
  | file {links directory name content} (hname : LooksUp manner name [])
      (hentry : tree.entry? (directory ++ [name]) = some (.file content)) :
      Reaches tree manner links directory [name]
        (.found (directory ++ [name]) (.file content))
  | link {links directory name target} (hname : LooksUp manner name [])
      (hfollow : manner.follow = false)
      (hentry : tree.entry? (directory ++ [name]) = some (.link target)) :
      Reaches tree manner links directory [name]
        (.found (directory ++ [name]) (.link target))
  | follow {links directory name rest target spot} (hname : LooksUp manner name rest)
      (hfollow : rest ≠ [] ∨ manner.follow = true)
      (hentry : tree.entry? (directory ++ [name]) = some (.link target))
      (hrest : Reaches tree manner links (origin directory target)
        (steps target ++ rest) spot) :
      Reaches tree manner (links + 1) directory (name :: rest) spot

variable {tree before after : Tree} {manner : Manner} {links : Nat}
  {directory location : Location} {names : List Name} {spot : Spot}

theorem walk_of_looksUp {name : Name} {rest : List Name}
    (hname : LooksUp manner name rest) :
    walk tree manner links directory (name :: rest) =
      match tree.entry? (directory ++ [name]) with
      | none => if rest = [] then .ok (.free (directory ++ [name])) else .error .notFound
      | some .directory => walk tree manner links (directory ++ [name]) rest
      | some (.file content) =>
        if rest = [] then .ok (.found (directory ++ [name]) (.file content))
        else .error .notDirectory
      | some (.link target) =>
        if rest = [] ∧ !manner.follow then .ok (.found (directory ++ [name]) (.link target))
        else
          match links with
          | 0 => .error .tooManyLinks
          | links + 1 =>
            walk tree manner links (origin directory target) (steps target ++ rest) := by
  have hshort := Nat.not_lt.mpr hname.length_le
  conv_lhs => rw [walk.eq_def]
  simp only [if_neg hname.moves, if_neg hname.ne_dots, if_neg hname.opens, if_neg hshort]
  cases tree.entry? (directory ++ [name]) with
  | none => rfl
  | some entry =>
    cases entry with
    | file | directory => rfl
    | link target => cases links <;> rfl

theorem walk_of_stay {name : Name} {rest : List Name} (hname : name = [] ∨ name = [dot]) :
    walk tree manner links directory (name :: rest) = walk tree manner links directory rest := by
  rw [walk.eq_def]
  exact if_pos hname

theorem walk_up {rest : List Name} :
    walk tree manner links directory ([dot, dot] :: rest) =
      walk tree manner links directory.dropLast rest := by
  rw [walk.eq_def]
  simp [dot]

theorem Reaches.of_walk (hwalk : walk tree manner links directory names = .ok spot) :
    Reaches tree manner links directory names spot := by
  fun_induction walk tree manner links directory names with
  | case1 links directory =>
    cases hwalk
    exact .here
  | case2 links directory name rest hname ih => exact .stay hname (ih hwalk)
  | case3 links directory rest hmoves ih => exact .up (ih hwalk)
  | case4 => cases hwalk
  | case5 => cases hwalk
  | case6 links directory name hmoves hdots hlength location hentry hopens =>
    cases hwalk
    exact .free ⟨hmoves, hdots, hopens, Nat.not_lt.mp hlength⟩ hentry
  | case7 => cases hwalk
  | case8 links directory name rest hmoves hdots hopens hlength location hentry ih =>
    exact .enter ⟨hmoves, hdots, hopens, Nat.not_lt.mp hlength⟩ hentry (ih hwalk)
  | case9 links directory name hmoves hdots hlength location content hentry hopens =>
    cases hwalk
    exact .file ⟨hmoves, hdots, hopens, Nat.not_lt.mp hlength⟩ hentry
  | case10 => cases hwalk
  | case11 links directory name rest hmoves hdots hopens hlength location target hentry hend =>
    cases hwalk
    obtain ⟨rfl, hfollow⟩ := hend
    exact .link ⟨hmoves, hdots, hopens, Nat.not_lt.mp hlength⟩ (by simpa using hfollow) hentry
  | case12 => cases hwalk
  | case13 directory name rest hmoves hdots hopens hlength location target hentry hend links ih =>
    refine .follow ⟨hmoves, hdots, hopens, Nat.not_lt.mp hlength⟩ ?_ hentry
      (by simpa only [origin, dite_eq_ite] using ih hwalk)
    by_cases hrest : rest = []
    · exact .inr (by simpa [hrest] using hend)
    · exact .inl hrest

theorem Reaches.walk_eq (hreaches : Reaches tree manner links directory names spot) :
    walk tree manner links directory names = .ok spot := by
  induction hreaches with
  | here => rw [walk.eq_def]
  | stay hname _ ih => rw [walk_of_stay hname, ih]
  | up _ ih => rw [walk_up, ih]
  | free hname hentry => simp [walk_of_looksUp hname, hentry]
  | enter hname hentry _ ih => simp only [walk_of_looksUp hname, hentry, ih]
  | file hname hentry => simp [walk_of_looksUp hname, hentry]
  | link hname hfollow hentry => simp [walk_of_looksUp hname, hentry, hfollow]
  | @follow _ _ name rest _ _ hname hfollow hentry _ ih =>
    have hgoes : ¬(rest = [] ∧ (!manner.follow) = true) := by
      rintro ⟨rfl, hstop⟩
      simp_all
    simp only [walk_of_looksUp hname, hentry, if_neg hgoes, ih]

/-- A walk succeeds exactly by the rules for its steps. -/
theorem walk_eq_ok_iff :
    walk tree manner links directory names = .ok spot ↔
      Reaches tree manner links directory names spot :=
  ⟨.of_walk, Reaches.walk_eq⟩

end Files

/-- What a tree has at a spot, if another tree has a file or a free name there. -/
def Spot.renew (tree : Tree) : Spot → Spot
  | .free location | .found location (.file _) =>
    match tree.entry? location with
    | some (.file content) => .found location (.file content)
    | _ => .free location
  | spot => spot

theorem Spot.renew_open {tree : Tree} {location : Location} {spot : Spot}
    (hspot : spot = .free location ∨ ∃ content, spot = .found location (.file content)) :
    spot.renew tree = (match tree.entry? location with
      | some (.file content) => .found location (.file content)
      | _ => .free location) := by
  rcases hspot with rfl | ⟨content, rfl⟩ <;> rfl

namespace Files

variable {tree before after : Tree} {manner : Manner} {links : Nat}
  {directory location : Location} {names rest : List Name} {spot : Spot}

/-- A last step that finds a file or nothing does so in every tree of that shape. -/
theorem Reaches.open_renew {name : Name} (hname : LooksUp manner name [])
    (hopen : after.IsOpen (directory ++ [name]))
    (hspot : spot = .free (directory ++ [name]) ∨
      ∃ content, spot = .found (directory ++ [name]) (.file content)) :
    Reaches after manner links directory [name] (spot.renew after) := by
  rw [Spot.renew_open hspot]
  rcases hopen with hnone | ⟨content, hfile⟩
  · rw [hnone]
    exact .free hname hnone
  · rw [hfile]
    exact .file hname hfile

/-- Trees of one shape lead every path to the same place. -/
theorem Reaches.renew (hshape : before.SameShape after)
    (hreaches : Reaches before manner links directory names spot) :
    Reaches after manner links directory names (spot.renew after) := by
  induction hreaches with
  | here => exact .here
  | stay hname _ ih => exact .stay hname ih
  | up _ ih => exact .up ih
  | free hname hentry =>
    exact open_renew hname (hshape.isOpen (.inl hentry)) (.inl rfl)
  | enter hname hentry _ ih =>
    exact .enter hname ((hshape _ _ (by simp)).mp hentry) ih
  | file hname hentry =>
    exact open_renew hname (hshape.isOpen (.inr ⟨_, hentry⟩)) (.inr ⟨_, rfl⟩)
  | link hname hfollow hentry =>
    exact .link hname hfollow ((hshape _ _ (by simp)).mp hentry)
  | follow hname hfollow hentry _ ih =>
    exact .follow hname hfollow ((hshape _ _ (by simp)).mp hentry) ih

/-! ## What is found is there -/

theorem Reaches.free_entry (hreaches : Reaches tree manner links directory names spot)
    (hspot : spot = .free location) : tree.entry? location = none := by
  induction hreaches with
  | here => cases hspot
  | stay _ _ ih | up _ ih | enter _ _ _ ih | follow _ _ _ _ ih => exact ih hspot
  | free _ hentry => cases hspot; exact hentry
  | file | link => cases hspot

theorem Reaches.found_entry {entry : Entry}
    (hreaches : Reaches tree manner links directory names spot)
    (hspot : spot = .found location entry) (hkind : entry.kind ≠ .directory) :
    tree.entry? location = some entry := by
  induction hreaches with
  | here => cases hspot; exact absurd rfl hkind
  | stay _ _ ih | up _ ih | enter _ _ _ ih | follow _ _ _ _ ih => exact ih hspot
  | free => cases hspot
  | file _ hentry | link _ _ hentry => cases hspot; exact hentry

/-! ## Opening for writing -/

/-- For reading it does not matter what follows a step. -/
theorem LooksUp.reading {follow : Bool} {name : Name} {other : List Name}
    (hname : LooksUp manner name rest) : LooksUp ⟨follow, false⟩ name other :=
  ⟨hname.moves, hname.ne_dots, by simp, hname.length_le⟩

theorem Reaches.reading {follow : Bool}
    (hreaches : Reaches tree ⟨follow, true⟩ links directory names spot) :
    Reaches tree ⟨follow, false⟩ links directory names spot := by
  induction hreaches with
  | here => exact .here
  | stay hname _ ih => exact .stay hname ih
  | up _ ih => exact .up ih
  | free hname hentry => exact .free hname.reading hentry
  | enter hname hentry _ ih => exact .enter hname.reading hentry ih
  | file hname hentry => exact .file hname.reading hentry
  | link hname hfollow hentry => exact .link hname.reading hfollow hentry
  | follow hname hfollow hentry _ ih => exact .follow hname.reading hfollow hentry ih

/-- A path that ends in a slash leads to a directory. -/
theorem Reaches.directory_of_slash (hreaches : Reaches tree manner links directory names spot)
    (hslash : names.getLast? = some []) : ∃ location, spot = .found location .directory := by
  induction hreaches with
  | here => exact ⟨_, rfl⟩
  | @stay _ _ name rest _ hname hrest ih =>
    cases rest with
    | nil => cases hrest; exact ⟨_, rfl⟩
    | cons second rest => exact ih (by simpa using hslash)
  | @up _ _ rest _ hrest ih =>
    cases rest with
    | nil => simp at hslash
    | cons second rest => exact ih (by simpa using hslash)
  | free hname | file hname | link hname =>
    exact absurd (.inl (by simpa using hslash)) hname.moves
  | @enter _ _ name rest _ hname _ _ ih =>
    cases rest with
    | nil => exact absurd (.inl (by simpa using hslash)) hname.moves
    | cons second rest => exact ih (by simpa using hslash)
  | @follow _ _ name rest _ _ hname _ _ _ ih =>
    cases rest with
    | nil => exact absurd (.inl (by simpa using hslash)) hname.moves
    | cons second rest =>
      exact ih (by simpa [List.getLast?_append] using hslash)

theorem getLast?_of_all_nil (hne : rest ≠ []) (hall : rest.all (· = [])) :
    rest.getLast? = some [] := by
  rw [List.getLast?_eq_some_getLast hne, Option.some.injEq]
  simpa using List.all_eq_true.mp hall _ (List.getLast_mem hne)

theorem LooksUp.opening {follow : Bool} {name : Name}
    (hname : LooksUp ⟨follow, false⟩ name rest) (hslash : rest.getLast? ≠ some []) :
    LooksUp ⟨follow, true⟩ name rest :=
  ⟨hname.moves, hname.ne_dots, fun h => hslash (getLast?_of_all_nil h.2.1 h.2.2),
    hname.length_le⟩

/-- What is no directory is opened for writing where it is read. -/
theorem Reaches.opening {follow : Bool}
    (hreaches : Reaches tree ⟨follow, false⟩ links directory names spot)
    (hspot : ∀ location, spot ≠ .found location .directory) :
    Reaches tree ⟨follow, true⟩ links directory names spot := by
  induction hreaches with
  | here => exact absurd rfl (hspot _)
  | stay hname _ ih => exact .stay hname (ih hspot)
  | up _ ih => exact .up (ih hspot)
  | free hname hentry => exact .free (hname.opening (by simp)) hentry
  | enter hname hentry hrest ih =>
    refine .enter (hname.opening fun hslash => ?_) hentry (ih hspot)
    obtain ⟨location, hlocation⟩ := hrest.directory_of_slash hslash
    exact hspot location hlocation
  | file hname hentry => exact .file (hname.opening (by simp)) hentry
  | link hname hfollow hentry => exact .link (hname.opening (by simp)) hfollow hentry
  | follow hname hfollow hentry hrest ih =>
    refine .follow (hname.opening fun hslash => ?_) hfollow hentry (ih hspot)
    obtain ⟨location, hlocation⟩ :=
      hrest.directory_of_slash (by simp [List.getLast?_append, hslash])
    exact hspot location hlocation

/-! ## Longer paths -/

/-- A walk goes on from the directory that its first part leads to. -/
theorem Reaches.walk_append
    (hreaches : Reaches tree ⟨true, false⟩ links directory names (.found location .directory)) :
    ∃ left, ∀ rest, walk tree ⟨true, false⟩ links directory (names ++ rest) =
      walk tree ⟨true, false⟩ left location rest := by
  generalize hmiddle : Spot.found location .directory = middle at hreaches
  induction hreaches with
  | @here links _ =>
    cases hmiddle
    exact ⟨links, fun _ => rfl⟩
  | stay hname _ ih =>
    obtain ⟨left, hleft⟩ := ih hmiddle
    refine ⟨left, fun rest => ?_⟩
    rw [← hleft, List.cons_append, walk_of_stay hname]
  | up _ ih =>
    obtain ⟨left, hleft⟩ := ih hmiddle
    refine ⟨left, fun rest => ?_⟩
    rw [← hleft, List.cons_append, walk_up]
  | free | file | link => cases hmiddle
  | enter hname hentry _ ih =>
    obtain ⟨left, hleft⟩ := ih hmiddle
    refine ⟨left, fun rest => ?_⟩
    rw [← hleft, List.cons_append, walk_of_looksUp hname.reading, hentry]
  | follow hname _ hentry _ ih =>
    obtain ⟨left, hleft⟩ := ih hmiddle
    refine ⟨left, fun rest => ?_⟩
    rw [← hleft, List.cons_append, walk_of_looksUp hname.reading, hentry]
    simp [List.append_assoc]

/-- A slash at the end of a path to a directory can be left out. -/
theorem Reaches.drop_slash
    (hreaches : Reaches tree ⟨true, false⟩ links directory (names ++ [[]])
      (.found location .directory)) :
    Reaches tree ⟨true, false⟩ links directory names (.found location .directory) := by
  generalize hall : names ++ [[]] = all at hreaches
  generalize hspot : Spot.found location .directory = spot at hreaches
  induction hreaches generalizing names with
  | here => simp at hall
  | @stay _ _ name rest _ hname hrest ih =>
    cases names with
    | nil =>
      obtain ⟨-, rfl⟩ := List.cons.inj hall
      exact hrest
    | cons first names =>
      obtain ⟨rfl, rfl⟩ := List.cons.inj hall
      exact .stay hname (ih rfl hspot)
  | up hrest ih =>
    cases names with
    | nil => simp at hall
    | cons first names =>
      obtain ⟨rfl, rfl⟩ := List.cons.inj hall
      exact .up (ih rfl hspot)
  | free | file | link => cases hspot
  | enter hname hentry _ ih =>
    cases names with
    | nil =>
      obtain ⟨rfl, -⟩ := List.cons.inj hall
      exact absurd (.inl rfl) hname.moves
    | cons first names =>
      obtain ⟨rfl, rfl⟩ := List.cons.inj hall
      exact .enter hname.reading hentry (ih rfl hspot)
  | follow hname _ hentry _ ih =>
    cases names with
    | nil =>
      obtain ⟨rfl, -⟩ := List.cons.inj hall
      exact absurd (.inl rfl) hname.moves
    | cons first names =>
      obtain ⟨rfl, rfl⟩ := List.cons.inj hall
      exact .follow hname.reading (.inr rfl) hentry
        (ih (List.append_assoc ..) hspot)

/-! ## Links at the end of a path -/

/-- A path whose last link is followed leads somewhere if the link is not. -/
theorem Reaches.unfollowed (hreaches : Reaches tree ⟨true, false⟩ links directory names spot) :
    Reaches tree ⟨false, false⟩ links directory names spot ∨
      ∃ other target,
        Reaches tree ⟨false, false⟩ links directory names (.found other (.link target)) := by
  induction hreaches with
  | here => exact .inl .here
  | stay hname _ ih =>
    exact ih.imp (.stay hname) fun ⟨other, target, hlink⟩ => ⟨other, target, .stay hname hlink⟩
  | up _ ih => exact ih.imp .up fun ⟨other, target, hlink⟩ => ⟨other, target, .up hlink⟩
  | free hname hentry => exact .inl (.free hname.reading hentry)
  | enter hname hentry _ ih =>
    exact ih.imp (.enter hname.reading hentry) fun ⟨other, target, hlink⟩ =>
      ⟨other, target, .enter hname.reading hentry hlink⟩
  | file hname hentry => exact .inl (.file hname.reading hentry)
  | link hname hfollow => cases hfollow
  | @follow _ _ name rest target _ hname _ hentry _ ih =>
    by_cases hrest : rest = []
    · subst hrest
      exact .inr ⟨_, _, .link hname.reading rfl hentry⟩
    · exact ih.imp (.follow hname.reading (.inl hrest) hentry) fun ⟨other, target, hlink⟩ =>
        ⟨other, target, .follow hname.reading (.inl hrest) hentry hlink⟩

/-- A path that ends in no link leads to the same place if links are followed. -/
theorem Reaches.followed (hreaches : Reaches tree ⟨false, false⟩ links directory names spot)
    (hspot : ∀ location target, spot ≠ .found location (.link target)) :
    Reaches tree ⟨true, false⟩ links directory names spot := by
  induction hreaches with
  | here => exact .here
  | stay hname _ ih => exact .stay hname (ih hspot)
  | up _ ih => exact .up (ih hspot)
  | free hname hentry => exact .free hname.reading hentry
  | enter hname hentry _ ih =>
    exact .enter hname.reading hentry (ih hspot)
  | file hname hentry => exact .file hname.reading hentry
  | link => exact absurd rfl (hspot _ _)
  | follow hname _ hentry _ ih =>
    exact .follow hname.reading (.inr rfl) hentry (ih hspot)

end Files

end Emend
