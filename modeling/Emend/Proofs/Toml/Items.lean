import Mathlib.Data.List.Forall2
import Emend.Proofs.Toml.Quoted

/-!
# Written lists of items

Items stand between two signs with commas between them, and blanks, comments and line
ends around them.  A comma may stand behind the last one.  What is shown here holds of
items of any kind, provided that each of them is read for itself.
-/

namespace Emend.Toml

variable {α β : Type} {item : α → List Char → Prop} {describes : β → α → Prop}
  {read : List Char → Option (β × List Char)} {close c : Char} {a : α} {as : List α}
  {b : β} {bs : List β} {cs before after front rest : List Char} {limit n : Nat}

inductive WritesFront (item : α → List Char → Prop) : List α → List Char → Prop
  | nil : WritesFront item [] []
  | cons {a : α} {as : List α} {before written after more : List Char} (hbefore : Filler before)
      (hitem : item a written) (hafter : Filler after) (hmore : WritesFront item as more) :
    WritesFront item (a :: as) (before ++ (written ++ (after ++ ',' :: more)))

inductive WritesItems (item : α → List Char → Prop) : List α → List Char → Prop
  | closed {as : List α} {front filler : List Char} (hfront : WritesFront item as front)
      (hfiller : Filler filler) :
    WritesItems item as (front ++ filler)
  | last {as : List α} {a : α} {front before written after : List Char}
      (hfront : WritesFront item as front) (hbefore : Filler before) (hitem : item a written)
      (hafter : Filler after) :
    WritesItems item (as ++ [a]) (front ++ (before ++ (written ++ after)))

def IsClosing (c : Char) : Prop := c = ']' ∨ c = '\x7d'

theorem IsClosing.isSign (hclose : IsClosing c) : IsSign c ∧ c ≠ ',' ∧ c ≠ '"' := by
  rcases hclose with rfl | rfl <;> decide

theorem Opens.ne_close (hopens : Opens c) (hclose : IsClosing close) : c ≠ close := by
  rcases hclose with rfl | rfl
  · exact hopens.2.1
  · exact hopens.2.2.1

/-- Items that are no longer than a limit are read one by one, as something that describes
them.  After an item no quotation mark stands. -/
structure ReadsEach (limit : Nat) (item : α → List Char → Prop)
    (read : List Char → Option (β × List Char)) (describes : β → α → Prop) : Prop where
  begins {a : α} {cs : List Char} : item a cs → ∃ c more, cs = c :: more ∧ Opens c
  reads {a : α} {cs : List Char} : item a cs → cs.length < limit →
    ∃ b, describes b a ∧ ∀ rest, rest.head? ≠ some '"' → read (cs ++ rest) = some (b, rest)

theorem WritesFront.length_le (hfront : WritesFront item as front) : as.length ≤ front.length := by
  induction hfront with
  | nil => exact Nat.le_refl _
  | cons hbefore hitem hafter hmore ih =>
    simp only [List.length_append, List.length_cons]
    omega

section

variable {mark : Char} (hmark : IsSign mark)

include hmark

theorem Blanks.head_ne (hblanks : Blanks cs) (hrest : rest.head? ≠ some mark) :
    (cs ++ rest).head? ≠ some mark := by
  cases cs with
  | nil => exact hrest
  | cons blank cs =>
    intro hhead
    cases hhead
    rcases hblanks mark (List.mem_cons_self ..) with rfl | rfl
    · exact hmark.1 rfl
    · exact hmark.2.1 rfl

theorem Margin.head_ne (hmargin : Margin cs) (hrest : rest.head? ≠ some mark) :
    (cs ++ rest).head? ≠ some mark := by
  cases hmargin with
  | blanks hblanks => exact hblanks.head_ne hmark hrest
  | comment hblanks htext =>
    rw [List.append_assoc]
    exact hblanks.head_ne hmark (by simpa using Ne.symm hmark.2.2.2.2)

theorem LineEnd.head_ne (hend : LineEnd cs) (rest : List Char) :
    (cs ++ rest).head? ≠ some mark := by
  cases hend with
  | lineFeed => simpa using Ne.symm hmark.2.2.1
  | carriageReturn => simpa using Ne.symm hmark.2.2.2.1

theorem Filler.head_ne (hfiller : Filler cs) (hrest : rest.head? ≠ some mark) :
    (cs ++ rest).head? ≠ some mark := by
  cases hfiller with
  | blanks hblanks => exact hblanks.head_ne hmark hrest
  | line hmargin hend hmore =>
    rw [List.append_assoc, List.append_assoc]
    exact hmargin.head_ne hmark (hend.head_ne hmark _)

end

/-! ## One item -/

/-- The turn that begins at a sign: the list is closed, or an item is read. -/
theorem readItems_sign (hsign : IsSign c) (hbefore : Filler before) (n : Nat) (cs : List Char) :
    readItems read close (n + 1) (before ++ c :: cs) =
      if c = close then some ([], cs)
      else (do
        let (first, rest) ← read (c :: cs)
        match ← skipLines false rest with
        | ',' :: rest =>
          let (more, rest) ← readItems read close n rest
          return (first :: more, rest)
        | c :: rest => if c = close then return ([first], rest) else none
        | [] => none) := by
  rw [readItems, skipLines_append hbefore, skipLines_cons hsign]
  exact if_congr Option.some_inj rfl rfl

section

variable (hsign : IsSign c) (hclose : c ≠ close) (hbefore : Filler before)

include hsign hclose hbefore

theorem readItems_comma (hafter : Filler after)
    (hread : read (c :: cs) = some (b, after ++ ',' :: rest)) (n : Nat) :
    readItems read close (n + 1) (before ++ c :: cs) =
      (readItems read close n rest).map fun found => (b :: found.1, found.2) := by
  have hcomma : skipLines false (after ++ ',' :: rest) = some (',' :: rest) := by
    rw [skipLines_append hafter, skipLines_cons (by decide)]
  rw [readItems_sign hsign hbefore, if_neg hclose]
  simp only [bind, Option.bind, hread, hcomma]
  cases readItems read close n rest <;> rfl

theorem readItems_last (hafter : Filler after) (hsign' : IsSign close) (hcomma : close ≠ ',')
    (hread : read (c :: cs) = some (b, after ++ close :: rest)) (n : Nat) :
    readItems read close (n + 1) (before ++ c :: cs) = some ([b], rest) := by
  have hskip : skipLines false (after ++ close :: rest) = some (close :: rest) := by
    rw [skipLines_append hafter, skipLines_cons hsign']
  rw [readItems_sign hsign hbefore, if_neg hclose]
  simp [hread, hskip]

/-- An item that has been read is among the items. -/
theorem exists_item_of_readItems
    (hread : readItems read close n (before ++ c :: cs) = some (bs, rest)) :
    ∃ b rest, read (c :: cs) = some (b, rest) ∧ b ∈ bs := by
  cases n with
  | zero => cases hread
  | succ n =>
    rw [readItems_sign hsign hbefore, if_neg hclose] at hread
    obtain ⟨⟨b, rest⟩, hitem, hread⟩ := Option.bind_eq_some_iff.mp hread
    obtain ⟨skipped, -, hread⟩ := Option.bind_eq_some_iff.mp hread
    refine ⟨b, rest, hitem, ?_⟩
    simp only at hread
    split at hread
    · obtain ⟨⟨more, rest⟩, -, hread⟩ := Option.bind_eq_some_iff.mp hread
      cases hread
      exact List.mem_cons_self ..
    · split_ifs at hread
      cases hread
      exact List.mem_cons_self ..
    · cases hread

end

theorem readItems_close (hsign : IsSign close) (hbefore : Filler before) (n : Nat)
    (rest : List Char) :
    readItems read close (n + 1) (before ++ close :: rest) = some ([], rest) := by
  rw [readItems_sign hsign hbefore, if_pos rfl]

/-! ## All items -/

variable (heach : ReadsEach limit item read describes) (hclose : IsClosing close)

include heach hclose

/-- Items with commas are read before whatever follows them. -/
theorem ReadsEach.readFront (hfront : WritesFront item as front)
    (hlimit : front.length < limit) :
    ∃ bs, List.Forall₂ describes bs as ∧ ∀ n rest,
      readItems read close (n + as.length) (front ++ rest) =
        (readItems read close n rest).map fun found => (bs ++ found.1, found.2) := by
  -- Each item takes one turn, so the turns that are left over are those for the rest.
  induction hfront with
  | nil =>
    refine ⟨[], .nil, fun n rest => ?_⟩
    simp
  | @cons a as before written after more hbefore hitem hafter hmore ih =>
    simp only [List.length_append, List.length_cons] at hlimit
    obtain ⟨bs, hbs, hread⟩ := ih (by omega)
    obtain ⟨b, hb, hone⟩ := heach.reads hitem (by omega)
    obtain ⟨c, cs, rfl, hopens⟩ := heach.begins hitem
    have hne := hopens.ne_close hclose
    refine ⟨b :: bs, .cons hb hbs, fun n rest => ?_⟩
    have hfirst := hone (after ++ ',' :: (more ++ rest)) (hafter.head_ne (by decide) (by simp))
    calc readItems read close (n + as.length + 1)
          ((before ++ (c :: cs ++ (after ++ ',' :: more))) ++ rest)
        = readItems read close (n + as.length + 1)
            (before ++ c :: (cs ++ (after ++ ',' :: (more ++ rest)))) := by simp
      _ = (readItems read close (n + as.length) (more ++ rest)).map
            fun found => (b :: found.1, found.2) :=
          readItems_comma hopens.1 hne hbefore hafter hfirst _
      _ = (readItems read close n rest).map fun found => (b :: bs ++ found.1, found.2) := by
          rw [hread, Option.map_map]
          rfl

/-- Items are read up to the closing sign. -/
theorem ReadsEach.readItems (hitems : WritesItems item as cs) (hlimit : cs.length + 1 < limit) :
    ∃ bs, List.Forall₂ describes bs as ∧ ∀ rest,
      Toml.readItems read close limit (cs ++ close :: rest) = some (bs, rest) := by
  obtain ⟨hsign, hcomma, hmark⟩ := hclose.isSign
  cases hitems with
  | @closed as front filler hfront hfiller =>
    have hlength := hfront.length_le
    simp only [List.length_append] at hlimit
    obtain ⟨bs, hbs, hread⟩ := heach.readFront hclose hfront (by omega)
    refine ⟨bs, hbs, fun rest => ?_⟩
    obtain ⟨m, hm⟩ : ∃ m, limit = m + 1 + as.length := ⟨limit - as.length - 1, by omega⟩
    rw [List.append_assoc, hm, hread, readItems_close hsign hfiller]
    simp
  | @last as a front before written after hfront hbefore hitem hafter =>
    have hlength := hfront.length_le
    simp only [List.length_append] at hlimit
    obtain ⟨bs, hbs, hread⟩ := heach.readFront hclose hfront (by omega)
    obtain ⟨b, hb, hone⟩ := heach.reads hitem (by omega)
    obtain ⟨c, cs, rfl, hopens⟩ := heach.begins hitem
    have hne := hopens.ne_close hclose
    refine ⟨bs ++ [b], ?_, fun rest => ?_⟩
    · exact List.rel_append hbs (.cons hb .nil)
    · obtain ⟨m, hm⟩ : ∃ m, limit = m + 1 + as.length := ⟨limit - as.length - 1, by omega⟩
      have hlast : read (c :: (cs ++ (after ++ close :: rest))) =
          some (b, after ++ close :: rest) :=
        hone _ (hafter.head_ne (by decide) (by simpa using hmark))
      calc Toml.readItems read close limit
            ((front ++ (before ++ (c :: cs ++ after))) ++ close :: rest)
          = Toml.readItems read close (m + 1 + as.length)
              (front ++ (before ++ c :: (cs ++ (after ++ close :: rest)))) := by simp [hm]
        _ = (Toml.readItems read close (m + 1)
              (before ++ c :: (cs ++ (after ++ close :: rest)))).map
                fun found => (bs ++ found.1, found.2) := hread _ _
        _ = some (bs ++ [b], rest) := by
            rw [readItems_last hopens.1 hne hbefore hafter hsign hcomma hlast]
            rfl

/-- What is read behind items with commas is among the items. -/
theorem ReadsEach.exists_of_front (hfront : WritesFront item as front)
    (hlimit : front.length < limit) (hopens : Opens c) (hbefore : Filler before)
    (hread : Toml.readItems read close n (front ++ (before ++ c :: cs)) = some (bs, rest)) :
    ∃ b rest, read (c :: cs) = some (b, rest) ∧ b ∈ bs := by
  induction hfront generalizing n bs with
  | nil => exact exists_item_of_readItems hopens.1 (hopens.ne_close hclose) hbefore hread
  | @cons a as ahead written after more hahead hitem hafter hmore ih =>
    simp only [List.length_append, List.length_cons] at hlimit
    obtain ⟨first, -, hone⟩ := heach.reads hitem (by omega)
    obtain ⟨d, ds, rfl, hopens'⟩ := heach.begins hitem
    have hne := hopens'.ne_close hclose
    cases n with
    | zero => cases hread
    | succ n =>
      have hfirst : read (d :: (ds ++ (after ++ ',' :: (more ++ (before ++ c :: cs))))) =
          some (first, after ++ ',' :: (more ++ (before ++ c :: cs))) :=
        hone _ (hafter.head_ne (by decide) (by simp))
      have hturn := readItems_comma hopens'.1 hne hahead hafter hfirst n
      simp only [List.append_assoc, List.cons_append] at hread
      rw [hturn] at hread
      obtain ⟨⟨others, rest⟩, hothers, hbs⟩ := Option.map_eq_some_iff.mp hread
      cases hbs
      obtain ⟨b, rest, hb, hmem⟩ := ih (by omega) hothers
      exact ⟨b, rest, hb, List.mem_cons_of_mem _ hmem⟩

end Emend.Toml
