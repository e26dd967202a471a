import Emend.Proofs.Toml.Value

/-!
# Written lines

A document is written line by line, with blanks, comments and empty lines between what
counts.  The last line needs no line end.
-/

namespace Emend.Toml

variable {α : Type} {line : α → List Char → Prop} {describes : Line → α → Prop} {limit n : Nat}
  {a : α} {as : List α} {cs before front margin lineEnd rest : List Char} {c : Char} {found : Line}
  {lines : List Line} {key : String}

/-! ## Documents -/

inductive WritesLines (line : α → List Char → Prop) : List α → List Char → Prop
  | nil : WritesLines line [] []
  | cons {a : α} {as : List α} {before written margin lineEnd more : List Char}
      (hbefore : Filler before) (hline : line a written) (hmargin : Margin margin)
      (hend : LineEnd lineEnd) (hmore : WritesLines line as more) :
    WritesLines line (a :: as) (before ++ (written ++ (margin ++ (lineEnd ++ more))))

inductive WritesDocument (line : α → List Char → Prop) : List α → List Char → Prop
  | ended {as : List α} {front before margin : List Char} (hfront : WritesLines line as front)
      (hbefore : Filler before) (hmargin : Margin margin) :
    WritesDocument line as (front ++ (before ++ margin))
  | last {as : List α} {a : α} {front before written margin : List Char}
      (hfront : WritesLines line as front) (hbefore : Filler before) (hline : line a written)
      (hmargin : Margin margin) :
    WritesDocument line (as ++ [a]) (front ++ (before ++ (written ++ margin)))

theorem LineEnd.length_pos (hend : LineEnd cs) : 0 < cs.length := by
  cases hend <;> decide

/-- The turn that begins at a sign reads a line. -/
theorem readLines_sign (hsign : IsSign c) (hbefore : Filler before) (n : Nat) (cs : List Char) :
    readLines limit (n + 1) (before ++ c :: cs) = (do
      let (line, rest) ← readLine limit (c :: cs)
      let rest ← endLine false rest
      return line :: (← readLines limit n rest)) := by
  rw [readLines, skipLines_append hbefore, skipLines_cons hsign]
  rfl

theorem readLines_step (hsign : IsSign c) (hbefore : Filler before)
    (hread : readLine limit (c :: cs) = some (found, margin ++ (lineEnd ++ rest)))
    (hmargin : Margin margin) (hend : LineEnd lineEnd) (n : Nat) :
    readLines limit (n + 1) (before ++ c :: cs) = (readLines limit n rest).map (found :: ·) := by
  rw [readLines_sign hsign hbefore]
  simp only [bind, Option.bind, hread, endLine_append hmargin hend]
  cases readLines limit n rest <;> rfl

theorem readLines_end (hbefore : Filler before) (hmargin : Margin margin) (n : Nat) :
    readLines limit (n + 1) (before ++ margin) = some [] := by
  rw [readLines, skipLines_append hbefore, skipLines_margin hmargin]
  rfl

theorem readLines_last (hsign : IsSign c) (hbefore : Filler before)
    (hread : readLine limit (c :: cs) = some (found, margin)) (hmargin : Margin margin)
    (n : Nat) : readLines limit (n + 2) (before ++ c :: cs) = some [found] := by
  have hnil : readLines limit (n + 1) [] = some [] :=
    readLines_end Filler.nil (.blanks Blanks.nil) n
  rw [readLines_sign hsign hbefore]
  simp only [bind, Option.bind, hread, endLine_margin hmargin, hnil]
  rfl

/-- A line that has been read comes first. -/
theorem exists_line_of_readLines (hsign : IsSign c) (hbefore : Filler before)
    (hread : readLines limit n (before ++ c :: cs) = some lines) :
    ∃ found rest more, readLine limit (c :: cs) = some (found, rest) ∧ lines = found :: more := by
  cases n with
  | zero => cases hread
  | succ n =>
    rw [readLines_sign hsign hbefore] at hread
    obtain ⟨⟨found, rest⟩, hfound, hread⟩ := Option.bind_eq_some_iff.mp hread
    obtain ⟨next, -, hread⟩ := Option.bind_eq_some_iff.mp hread
    obtain ⟨more, -, hread⟩ := Option.bind_eq_some_iff.mp hread
    cases hread
    exact ⟨found, rest, more, hfound, rfl⟩

theorem WritesLines.length_le (hfront : WritesLines line as front) :
    as.length ≤ front.length := by
  induction hfront with
  | nil => exact Nat.le_refl _
  | cons hbefore hline hmargin hend hmore ih =>
    have hpos := hend.length_pos
    simp only [List.length_append, List.length_cons]
    omega

variable (heach : ReadsEach limit line (readLine limit) describes)

include heach

/-- Lines are read before whatever follows them. -/
theorem ReadsEach.readFrontLines (hfront : WritesLines line as front)
    (hlimit : front.length < limit) :
    ∃ lines, List.Forall₂ describes lines as ∧ ∀ n rest,
      readLines limit (n + as.length) (front ++ rest) =
        (readLines limit n rest).map (lines ++ ·) := by
  induction hfront with
  | nil =>
    refine ⟨[], .nil, fun n rest => ?_⟩
    simp
  | @cons a as before written margin lineEnd more hbefore hline hmargin hend hmore ih =>
    simp only [List.length_append] at hlimit
    obtain ⟨lines, hlines, hread⟩ := ih (by omega)
    obtain ⟨found, hfound, hone⟩ := heach.reads hline (by omega)
    obtain ⟨c, cs, rfl, hopens⟩ := heach.begins hline
    refine ⟨found :: lines, .cons hfound hlines, fun n rest => ?_⟩
    have hfirst : readLine limit (c :: (cs ++ (margin ++ (lineEnd ++ (more ++ rest))))) =
        some (found, margin ++ (lineEnd ++ (more ++ rest))) :=
      hone _ (hmargin.head_ne (by decide) (hend.head_ne (by decide) _))
    calc readLines limit (n + as.length + 1)
          ((before ++ (c :: cs ++ (margin ++ (lineEnd ++ more)))) ++ rest)
        = readLines limit (n + as.length + 1)
            (before ++ c :: (cs ++ (margin ++ (lineEnd ++ (more ++ rest))))) := by simp
      _ = (readLines limit (n + as.length) (more ++ rest)).map (found :: ·) :=
          readLines_step hopens.1 hbefore hfirst hmargin hend _
      _ = (readLines limit n rest).map (found :: lines ++ ·) := by
          rw [hread, Option.map_map]
          rfl

/-- A document is read to its end. -/
theorem ReadsEach.readDocument (hdocument : WritesDocument line as cs)
    (hlimit : cs.length < limit) :
    ∃ lines, List.Forall₂ describes lines as ∧ readLines limit limit cs = some lines := by
  cases hdocument with
  | @ended as front before margin hfront hbefore hmargin =>
    have hlength := hfront.length_le
    simp only [List.length_append] at hlimit
    obtain ⟨lines, hlines, hread⟩ := heach.readFrontLines hfront (by omega)
    obtain ⟨m, hm⟩ : ∃ m, limit = m + 1 + as.length := ⟨limit - as.length - 1, by omega⟩
    have hwhole := hread (m + 1) (before ++ margin)
    rw [← hm, readLines_end hbefore hmargin] at hwhole
    exact ⟨lines, hlines, by simpa using hwhole⟩
  | @last as a front before written margin hfront hbefore hline hmargin =>
    have hlength := hfront.length_le
    simp only [List.length_append] at hlimit
    obtain ⟨lines, hlines, hread⟩ := heach.readFrontLines hfront (by omega)
    obtain ⟨found, hfound, hone⟩ := heach.reads hline (by omega)
    obtain ⟨c, cs, rfl, hopens⟩ := heach.begins hline
    refine ⟨lines ++ [found], List.rel_append hlines (.cons hfound .nil), ?_⟩
    rw [List.length_cons] at hlimit
    obtain ⟨m, hm⟩ : ∃ m, limit = m + 2 + as.length := ⟨limit - as.length - 2, by omega⟩
    have hmark : margin.head? ≠ some '"' := by
      rw [← List.append_nil margin]
      exact hmargin.head_ne (by decide) (by simp)
    have hlast : readLine limit (c :: (cs ++ margin)) = some (found, margin) := hone _ hmark
    have hturn : readLines limit (m + 2) (before ++ c :: (cs ++ margin)) = some [found] :=
      readLines_last hopens.1 hbefore hlast hmargin m
    have hwhole := hread (m + 2) (before ++ (c :: cs ++ margin))
    rw [← hm, List.cons_append, hturn] at hwhole
    exact hwhole

/-- What is read behind lines is the next line. -/
theorem ReadsEach.exists_of_lines (hfront : WritesLines line as front)
    (hlimit : front.length < limit) (hsign : IsSign c) (hbefore : Filler before)
    (hread : readLines limit n (front ++ (before ++ c :: cs)) = some lines) :
    ∃ first found rest more, List.Forall₂ describes first as ∧
      readLine limit (c :: cs) = some (found, rest) ∧ lines = first ++ found :: more := by
  induction hfront generalizing n lines with
  | nil =>
    obtain ⟨found, rest, more, hfound, hlines⟩ := exists_line_of_readLines hsign hbefore hread
    exact ⟨[], found, rest, more, .nil, hfound, hlines⟩
  | @cons a as ahead written margin lineEnd front hahead hline hmargin hend hmore ih =>
    simp only [List.length_append] at hlimit
    obtain ⟨b, hb, hone⟩ := heach.reads hline (by omega)
    obtain ⟨d, ds, rfl, hopens⟩ := heach.begins hline
    cases n with
    | zero => cases hread
    | succ n =>
      have hfirst : readLine limit
          (d :: (ds ++ (margin ++ (lineEnd ++ (front ++ (before ++ c :: cs)))))) =
            some (b, margin ++ (lineEnd ++ (front ++ (before ++ c :: cs)))) :=
        hone _ (hmargin.head_ne (by decide) (hend.head_ne (by decide) _))
      have hturn := readLines_step hopens.1 hahead hfirst hmargin hend n
      simp only [List.append_assoc, List.cons_append] at hread
      rw [hturn] at hread
      obtain ⟨others, hothers, rfl⟩ := Option.map_eq_some_iff.mp hread
      obtain ⟨first, found, rest, more, hlines, hfound, rfl⟩ := ih (by omega) hothers
      exact ⟨b :: first, found, rest, more, .cons hb hlines, hfound, rfl⟩

omit heach

/-! ## Byte order marks -/

theorem WritesLines.head_ne_mark (hfront : WritesLines line as front)
    (hbegins : ∀ a cs, line a cs → ∃ c more, cs = c :: more ∧ Opens c)
    (hrest : rest.head? ≠ some '\uFEFF') : (front ++ rest).head? ≠ some '\uFEFF' := by
  cases hfront with
  | nil => exact hrest
  | cons hbefore hline hmargin hend hmore =>
    obtain ⟨c, cs, rfl, hopens⟩ := hbegins _ _ hline
    rw [List.append_assoc]
    exact hbefore.head_ne (by decide) (by simpa using hopens.2.2.2)

theorem WritesDocument.head_ne_mark (hdocument : WritesDocument line as cs)
    (hbegins : ∀ a cs, line a cs → ∃ c more, cs = c :: more ∧ Opens c) :
    cs.head? ≠ some '\uFEFF' := by
  cases hdocument with
  | @ended as front before margin hfront hbefore hmargin =>
    apply hfront.head_ne_mark hbegins
    apply hbefore.head_ne (by decide)
    rw [← List.append_nil margin]
    exact hmargin.head_ne (by decide) (by simp)
  | last hfront hbefore hline hmargin =>
    obtain ⟨c, cs, rfl, hopens⟩ := hbegins _ _ hline
    apply hfront.head_ne_mark hbegins
    exact hbefore.head_ne (by decide) (by simpa using hopens.2.2.2)

/-! ## Pairs and headers -/

/-- A line that begins otherwise than a header is a pair. -/
theorem readLine_pair (hopen : c ≠ '[') (cs : List Char) :
    readLine limit (c :: cs) =
      (readPair (fun rest => some (skipBlanks rest)) (readValue limit depthLimit) (c :: cs)).map
        fun found => (.pair found.1.1 found.1.2, found.2) := by
  unfold readLine
  split
  · next hsame => exact absurd (List.cons.inj hsame).1 hopen
  · next hsame => exact absurd (List.cons.inj hsame).1 hopen
  · simp only [bind, Option.bind]
    cases readPair (fun rest => some (skipBlanks rest)) (readValue limit depthLimit) (c :: cs)
    · rfl
    · rfl

/-- A line that has been read where a pair begins is a pair with the same key. -/
theorem BeginsPair.exists_of_readLine (hbegins : BeginsPair key cs)
    (hread : readLine limit cs = some (found, rest)) :
    ∃ path v, found = .pair path v ∧ path.head? = some key := by
  obtain ⟨c, more, rfl, -, hopen⟩ := hbegins.exists_cons
  rw [readLine_pair hopen] at hread
  obtain ⟨⟨⟨path, v⟩, last⟩, hpair, hfound⟩ := Option.map_eq_some_iff.mp hread
  cases hfound
  exact ⟨path, v, rfl, hbegins.head_of_readPair hpair⟩

inductive WritesElement (key : String) : List Char → Prop
  | mk {before writtenKey after : List Char} (hbefore : Blanks before)
      (hkey : WritesKey key writtenKey) (hafter : Blanks after) :
    WritesElement key ('[' :: '[' :: (before ++ (writtenKey ++ (after ++ [']', ']']))))

theorem WritesElement.readLine (hwritten : WritesElement key cs) (rest : List Char) :
    readLine limit (cs ++ rest) = some (.element [key], rest) := by
  obtain @⟨before, writtenKey, after, hbefore, hkey, hafter⟩ := hwritten
  have hread : readKey (before ++ (writtenKey ++ (after ++ ']' :: ']' :: rest))) =
      some ([key], ']' :: ']' :: rest) :=
    hkey.readKeyFrom hbefore hafter rfl (by decide) 79 _
  have htext : '[' :: '[' :: (before ++ (writtenKey ++ (after ++ [']', ']']))) ++ rest =
      '[' :: '[' :: (before ++ (writtenKey ++ (after ++ ']' :: ']' :: rest))) := by simp
  rw [htext, Toml.readLine, hread]
  rfl

/-- A text that begins with keys and dots between them, and goes on behind the last of them
as a header does. -/
inductive BeginsPath : List String → List Char → Prop
  | last {key : String} {before writtenKey after : List Char} {sign : Char}
      (hbefore : Blanks before) (hkey : WritesKey key writtenKey) (hafter : Blanks after)
      (hsign : sign = ']' ∨ sign = '.') (rest : List Char) :
    BeginsPath [key] (before ++ (writtenKey ++ (after ++ sign :: rest)))
  | cons {key : String} {path : List String} {before writtenKey after more : List Char}
      (hbefore : Blanks before) (hkey : WritesKey key writtenKey) (hafter : Blanks after)
      (hmore : BeginsPath path more) :
    BeginsPath (key :: path) (before ++ (writtenKey ++ (after ++ '.' :: more)))

/-- A key that has been read begins with the parts that its text begins with. -/
theorem BeginsPath.prefix_of_readKeyFrom {path found : List String} (hbegins : BeginsPath path cs)
    (hread : readKeyFrom n cs = some (found, rest)) : path <+: found := by
  induction hbegins generalizing n found with
  | @last key before writtenKey after sign hbefore hkey hafter hsign more =>
    have hends : isBareKeySign sign = false ∧ IsSign sign := by
      rcases hsign with rfl | rfl <;> exact ⟨rfl, by decide⟩
    have hhead := hkey.head_of_readKeyFrom hbefore hafter hends hread
    obtain ⟨others, rfl⟩ := List.head?_eq_some_iff.mp hhead
    exact List.cons_prefix_cons.mpr ⟨rfl, List.nil_prefix⟩
  | cons hbefore hkey hafter hmore ih =>
    cases n with
    | zero => cases hread
    | succ n =>
      rw [hkey.readKeyFrom hbefore hafter rfl (by decide), if_pos rfl] at hread
      obtain ⟨⟨more, last⟩, hmore, hfound⟩ := Option.map_eq_some_iff.mp hread
      cases hfound
      exact List.cons_prefix_cons.mpr ⟨rfl, ih hmore⟩

theorem BeginsPath.head_ne {path : List String} (hbegins : BeginsPath path cs) :
    cs.head? ≠ some '[' := by
  have hkeys {before writtenKey : List Char} {key : String} (hbefore : Blanks before)
      (hkey : WritesKey key writtenKey) (rest : List Char) :
      (before ++ (writtenKey ++ rest)).head? ≠ some '[' := by
    obtain ⟨c, more, rfl, hfirst⟩ := hkey.exists_cons
    exact hbefore.head_ne (by decide) (by simpa using (opens_of_key hfirst).2)
  cases hbegins with
  | last hbefore hkey => exact hkeys hbefore hkey _
  | cons hbefore hkey => exact hkeys hbefore hkey _

/-- A text that begins as the header of a table or of an element does, with a path that the
header may go on from. -/
inductive BeginsHeader (path : List String) : List Char → Prop
  | table {more : List Char} (hpath : BeginsPath path more) : BeginsHeader path ('[' :: more)
  | element {more : List Char} (hpath : BeginsPath path more) :
    BeginsHeader path ('[' :: '[' :: more)

theorem BeginsHeader.exists_cons {path : List String} (hbegins : BeginsHeader path cs) :
    ∃ c more, cs = c :: more ∧ Opens c := by
  cases hbegins <;> exact ⟨_, _, rfl, by decide⟩

/-- A line that has been read where a header begins is a header. -/
theorem BeginsHeader.exists_of_readLine {path : List String} (hbegins : BeginsHeader path cs)
    (hread : readLine limit cs = some (found, rest)) :
    ∃ full, path <+: full ∧ (found = .table full ∨ found = .element full) := by
  cases hbegins with
  | @table more hpath =>
    unfold Toml.readLine at hread
    split at hread
    · next hsame =>
      cases hsame
      exact absurd rfl hpath.head_ne
    · next hsame =>
      cases hsame
      obtain ⟨⟨full, last⟩, hfull, hread⟩ := Option.bind_eq_some_iff.mp hread
      simp only at hread
      split at hread
      · cases hread
        exact ⟨full, hpath.prefix_of_readKeyFrom hfull, .inl rfl⟩
      · cases hread
    · next hnot => exact absurd rfl (hnot more)
  | @element more hpath =>
    unfold Toml.readLine at hread
    obtain ⟨⟨full, last⟩, hfull, hread⟩ := Option.bind_eq_some_iff.mp hread
    simp only at hread
    split at hread
    · cases hread
      exact ⟨full, hpath.prefix_of_readKeyFrom hfull, .inr rfl⟩
    · cases hread

end Emend.Toml
