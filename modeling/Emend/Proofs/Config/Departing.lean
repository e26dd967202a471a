import Emend.Proofs.Config.Deciding
import Emend.Proofs.Config.Giving

/-!
# Where the reader departs from the format

A key with dots may have any number of parts, and a whole number in another base has digits
behind the letter that announces it.  The reader refuses a key of more parts than a limit,
and takes the announcement of a base for a number.  So there is a document that describes a
configuration and is not read, and one that is read although it is not written correctly.
-/

namespace Emend

open Toml

variable {α : Type} {item : α → List Char → Prop} {describes : Value → α → Prop} {as : List α}
  {key : String} {keys : List String} {front cs : List Char} {c letter sign : Char}
  {isDigit : Char → Bool} {limit depth n : Nat}

namespace Toml

/-! ## The format -/

inductive WritesDotted : List String → List Char → Prop
  | last {key : String} {cs : List Char} (hkey : WritesKey key cs) : WritesDotted [key] cs
  | cons {key : String} {keys : List String} {cs more : List Char} (hkey : WritesKey key cs)
      (hmore : WritesDotted keys more) :
    WritesDotted (key :: keys) (cs ++ '.' :: more)

def nest (keys : List String) (v : Value) : Value :=
  keys.foldr (fun key inner => .table [(key, inner)]) v

/-- Some values with texts that stand for them. -/
inductive WritesValue : Value → List Char → Prop
  | digit {text : String} {c : Char} (hdigit : c.isDigit = true) (htext : text.toList = [c]) :
    WritesValue (.integer text) [c]
  | string {text : String} {cs : List Char} (hwritten : WritesString text cs) :
    WritesValue (.string text) cs
  | array {values : List Value} {inner : List Char}
      (hinner : WritesItems WritesValue values inner) :
    WritesValue (.array values) ('[' :: (inner ++ [']']))
  | table {keys : List String} {v : Value} {key cs : List Char} (hkey : WritesDotted keys key)
      (hwritten : WritesValue v cs) :
    WritesValue (nest keys v) ('\x7b' :: (key ++ '=' :: (cs ++ ['\x7d'])))

inductive WritesDigits (isDigit : Char → Bool) : List Char → Prop
  | last {c : Char} (hc : isDigit c = true) : WritesDigits isDigit [c]
  | cons {c : Char} {cs : List Char} (hc : isDigit c = true) (hmore : WritesDigits isDigit cs) :
    WritesDigits isDigit (c :: cs)
  | underscore {c : Char} {cs : List Char} (hc : isDigit c = true)
      (hmore : WritesDigits isDigit cs) :
    WritesDigits isDigit (c :: '_' :: cs)

/-- A whole number, in base ten or in another base that a letter announces. -/
inductive WritesInteger : List Char → Prop
  | decimal {sign digits : List Char} (hsign : sign = [] ∨ sign = ['+'] ∨ sign = ['-'])
      (hdigits : WritesDigits Char.isDigit digits)
      (hzero : digits = ['0'] ∨ digits.head? ≠ some '0') :
    WritesInteger (sign ++ digits)
  | based {letter : Char} {isDigit : Char → Bool} {digits : List Char}
      (hbase : baseDigit? letter = some isDigit) (hdigits : WritesDigits isDigit digits) :
    WritesInteger ('0' :: letter :: digits)

theorem WritesDigits.all {isDigit : Char → Bool} {cs : List Char}
    (hdigits : WritesDigits isDigit cs) : ∀ c ∈ cs, isDigit c = true ∨ c = '_' := by
  induction hdigits with
  | last hc => simp [hc]
  | cons hc hmore ih => exact List.forall_mem_cons.mpr ⟨.inl hc, ih⟩
  | underscore hc hmore ih =>
    exact List.forall_mem_cons.mpr ⟨.inl hc, List.forall_mem_cons.mpr ⟨.inr rfl, ih⟩⟩

/-! ## What is refused and what is taken -/

/-- A key with dots is read just when it has no more parts than a number. -/
theorem WritesDotted.readKeyFrom (hwritten : WritesDotted keys cs) (hsign : IsSign sign)
    (hbare : isBareKeySign sign = false) (hdot : sign ≠ '.') (n : Nat) (rest : List Char) :
    readKeyFrom n (cs ++ sign :: rest) =
      if keys.length ≤ n then some (keys, sign :: rest) else none := by
  have hnone : Blanks [] := .nil
  induction hwritten generalizing n with
  | @last key cs hkey =>
    cases n with
    | zero => rfl
    | succ n =>
      have hread := hkey.readKeyFrom hnone hnone hbare hsign n rest
      rw [if_neg hdot] at hread
      simpa using hread
  | @cons key keys cs more hkey hmore ih =>
    cases n with
    | zero => rfl
    | succ n =>
      have hread := hkey.readKeyFrom hnone hnone rfl (by decide : IsSign '.') n
        (more ++ sign :: rest)
      rw [if_pos rfl, ih] at hread
      simp only [List.append_assoc, List.cons_append, List.nil_append, List.length_cons,
        Nat.add_le_add_iff_right] at hread ⊢
      rw [hread]
      split_ifs <;> rfl

theorem WritesDotted.exists_cons (hwritten : WritesDotted keys cs) :
    ∃ c more, cs = c :: more ∧ Opens c := by
  have hopens {key : String} {cs : List Char} (hkey : WritesKey key cs) :
      ∃ c more, cs = c :: more ∧ Opens c := by
    obtain ⟨c, more, rfl, hfirst⟩ := hkey.exists_cons
    exact ⟨c, more, rfl, (opens_of_key hfirst).1⟩
  cases hwritten with
  | last hkey => exact hopens hkey
  | cons hkey hmore =>
    obtain ⟨c, more, rfl, hc⟩ := hopens hkey
    exact ⟨c, _, rfl, hc⟩

/-- A table is refused if its first key has more parts than the limit. -/
theorem WritesDotted.readValue_eq_none (hwritten : WritesDotted keys cs)
    (hlong : depthLimit < keys.length) (limit depth : Nat) (rest : List Char) :
    readValue limit (depth + 1) ('\x7b' :: (cs ++ '=' :: rest)) = none := by
  have hkey : readKey (cs ++ '=' :: rest) = none := by
    rw [readKey, hwritten.readKeyFrom (by decide) rfl (by decide), if_neg (Nat.not_le.mpr hlong)]
  have hpair : readPair (skipLines false) (readValue limit depth) (cs ++ '=' :: rest) = none := by
    rw [readPair, hkey]
    rfl
  obtain ⟨c, more, rfl, hopens⟩ := hwritten.exists_cons
  rw [readValue]
  apply Option.bind_eq_none_iff.mpr
  rintro ⟨pairs, last⟩ hpairs
  obtain ⟨p, last, hp, -⟩ :=
    exists_item_of_readItems hopens.1 (hopens.ne_close (.inr rfl)) Filler.nil hpairs
  cases hpair.symm.trans hp

/-- An array is refused if an item behind others is refused. -/
theorem ReadsEach.readValue_eq_none
    (heach : ReadsEach limit item (readValue limit depth) describes)
    (hfront : WritesFront item as front) (hlimit : front.length < limit) (hopens : Opens c)
    (hnone : readValue limit depth (c :: cs) = none) :
    readValue limit (depth + 1) ('[' :: (front ++ c :: cs)) = none := by
  rw [readValue]
  apply Option.bind_eq_none_iff.mpr
  rintro ⟨vs, rest⟩ hvs
  obtain ⟨v, rest, hv, -⟩ := heach.exists_of_front (.inl rfl) hfront hlimit hopens Filler.nil hvs
  rw [hnone] at hv
  cases hv

/-- The announcement of a base is no number, but the reader takes it for one. -/
theorem scalar_announcement (hbase : baseDigit? letter = some isDigit) :
    scalar? ['0', letter] = some (.integer (String.ofList ['0', letter])) ∧
      ¬WritesInteger ['0', letter] := by
  have hletter : letter = 'x' ∨ letter = 'o' ∨ letter = 'b' := by
    unfold baseDigit? at hbase
    split at hbase <;> simp_all
  refine ⟨by rcases hletter with rfl | rfl | rfl <;> rfl, fun hinteger => ?_⟩
  generalize hcs : ['0', letter] = cs at hinteger
  cases hinteger with
  | @decimal sign digits hsign hdigits hzero =>
    have hmem : letter ∈ digits := by
      rcases hsign with rfl | rfl | rfl
      · rw [List.nil_append] at hcs
        simp [← hcs]
      · simp at hcs
      · simp at hcs
    have hdigit := hdigits.all letter hmem
    rcases hletter with rfl | rfl | rfl <;> exact absurd hdigit (by decide)
  | based hbase hdigits =>
    obtain ⟨-, hnone⟩ := List.cons.inj (List.cons.inj hcs).2
    rw [← hnone] at hdigits
    cases hdigits

/-! ## Two documents -/

/-- No blanks need to stand around the sign between a key and its value. -/
theorem writesPair_tight {a : α} {writtenKey written : List Char} (hkey : WritesKey key writtenKey) (hitem : item a written) :
    WritesPair item (key, a) (writtenKey ++ '=' :: written) := by
  have hpair := WritesPair.mk hkey Blanks.nil Blanks.nil hitem
  rwa [List.nil_append, List.nil_append] at hpair

/-- A key of one part more than a number, each of them a single letter. -/
def longKey : Nat → List Char
  | 0 => ['a']
  | n + 1 => 'a' :: '.' :: longKey n

/-- A rule of two texts, and a table behind them that a long key makes. -/
def longValue (n : Nat) : Value :=
  .array [.array [.string "a", .string "b", nest (List.replicate (n + 1) "a") (.integer "1")]]

/-- The text of the rule in an array, `[["a","b",{a.a=1}]]` with a longer key. -/
def longText (n : Nat) : List Char :=
  ['[', '[', '"', 'a', '"', ',', '"', 'b', '"', ',', '\x7b'] ++ longKey n ++
    ['=', '1', '\x7d', ']', ']']

def longDocument : String := String.ofList ("rules".toList ++ '=' :: longText 80)

theorem writesDotted_longKey (n : Nat) : WritesDotted (List.replicate (n + 1) "a") (longKey n) := by
  have hkey : WritesKey "a" "a".toList := .of_all (by decide) (by decide)
  induction n with
  | zero => exact .last hkey
  | succ n ih => exact .cons hkey ih

/-- A text of one letter that is no mark. -/
theorem writesString_letter {text : String} (htext : text.toList = [c]) (hc : IsText c)
    (hmark : c ≠ '"') (hescape : c ≠ '\\') : WritesString text ['"', c, '"'] := by
  have hinner : WritesText text.toList ([c] ++ []) := by
    rw [htext]
    exact .cons (.plain hc hmark hescape) .nil
  exact .mk hinner

theorem writesString_a : WritesString "a" ['"', 'a', '"'] :=
  writesString_letter (by decide +kernel) (.inr (by decide)) (by decide) (by decide)

theorem writesString_b : WritesString "b" ['"', 'b', '"'] :=
  writesString_letter (by decide +kernel) (.inr (by decide)) (by decide) (by decide)

theorem writesValue_longText (n : Nat) : WritesValue (longValue n) (longText n) := by
  have hnone : Filler [] := .nil
  have hdigit : WritesValue (.integer "1") ['1'] := .digit rfl (by decide +kernel)
  have htable := WritesValue.table (writesDotted_longKey n) hdigit
  have hfront := WritesFront.cons hnone (WritesValue.string writesString_a) hnone
    (.cons hnone (.string writesString_b) hnone .nil)
  have hrule := WritesValue.array (.last hfront hnone htable hnone)
  have hrules := WritesValue.array (.last .nil hnone hrule hnone)
  simpa [longText, longValue] using hrules

/-- However much longer the key is than the limit, the text is refused. -/
theorem readValue_longText (hlong : depthLimit ≤ n) (hlimit : 8 < limit) (depth : Nat) :
    readValue limit (depth + 3) (longText n) = none := by
  have hnone : Filler [] := .nil
  have hkey : depthLimit < (List.replicate (n + 1) "a").length := by
    rw [List.length_replicate]
    omega
  have htable := (writesDotted_longKey n).readValue_eq_none hkey limit depth
    ['1', '\x7d', ']', ']']
  have hfront := WritesFront.cons hnone writesString_a hnone (.cons hnone writesString_b hnone .nil)
  have hrule := (readsEach_string limit (depth + 1)).readValue_eq_none hfront hlimit (by decide)
    htable
  have hrules := (readsEach_string limit (depth + 2)).readValue_eq_none .nil
    (Nat.zero_lt_of_lt hlimit) (by decide) hrule
  simpa [longText] using hrules

theorem toList_rules : "rules".toList = ['r', 'u', 'l', 'e', 's'] := by
  decide +kernel

theorem readLine_longText (hlong : depthLimit ≤ n) (hlimit : 8 < limit) :
    readLine limit ("rules".toList ++ '=' :: longText n) = none := by
  have hkey : WritesKey "rules" "rules".toList := .of_all (by decide) (by decide)
  have hvalue : readValue limit depthLimit (longText n) = none :=
    readValue_longText hlong hlimit 77
  have hpair : readPair (fun rest => some (skipBlanks rest)) (readValue limit depthLimit)
      ("rules".toList ++ '=' :: longText n) = none := by
    refine (readPair_equals passesBlanks_skipBlanks hkey .nil .nil (by decide)).trans ?_
    exact Option.map_eq_none_iff.mpr hvalue
  rw [toList_rules] at hpair ⊢
  exact (readLine_pair (by decide) _).trans (Option.map_eq_none_iff.mpr hpair)

end Toml

namespace Config

/-- A text that would give such a rule to the configuration is not read. -/
theorem ofText_long (hlong : depthLimit ≤ n) (path : Path) :
    ofText path (String.ofList ("rules".toList ++ '=' :: longText n)) =
      .error (.configUnparsable path) := by
  have hlimit : 8 < ("rules".toList ++ '=' :: longText n).length + 1 := by
    simp only [longText, List.length_append, List.length_cons]
    omega
  have hline := readLine_longText hlong hlimit
  have hnone : Table.ofText? (String.ofList ("rules".toList ++ '=' :: longText n)) = none := by
    rw [ofText_of_marked .plain (by simp [toList_rules]), Option.bind_eq_none_iff]
    intro lines hlines
    rw [toList_rules] at hlines hline
    obtain ⟨line, rest, more, hfound, -⟩ :=
      exists_line_of_readLines (by decide : IsSign 'r') Filler.nil hlines
    cases hline.symm.trans hfound
  rw [ofText, hnone]

/-- A document with a long key is not read, although it describes a configuration, and one
with a number that is none is read. -/
theorem ofText_differs :
    (WritesPair WritesValue ("rules", longValue 80) longDocument.toList ∧
      Outcome [] [("rules", longValue 80)] (.ok ⟨builtIn.root, builtIn.extensions, [⟨"a", "b"⟩]⟩) ∧
      ofText [] longDocument = .error (.configUnparsable [])) ∧
    ¬WritesInteger ['0', 'x'] ∧
      ofText [] "rules=[[\"a\",\"b\",0x]]" =
        .ok ⟨builtIn.root, builtIn.extensions, [⟨"a", "b"⟩]⟩ := by
  have hkey : WritesKey "rules" "rules".toList := .of_all (by decide) (by decide)
  have htext : longDocument.toList = "rules".toList ++ '=' :: longText 80 := String.toList_ofList
  have hwritten : WritesPair WritesValue ("rules", longValue 80) longDocument.toList := by
    rw [htext]
    exact writesPair_tight hkey (writesValue_longText 80)
  have hrules : List.Forall₂ DescribesRule
      [.array [.string "a", .string "b", nest (List.replicate 81 "a") (.integer "1")]]
      [⟨"a", "b"⟩] := .cons .array .nil
  have hfits : ¬Misfit [("rules", longValue 80)] := by
    rintro (⟨hkey, hstray⟩ | ⟨hmem, -⟩ | ⟨hmem, -⟩ | ⟨hmem, hv⟩)
    · rw [List.mem_singleton.mp hkey] at hstray
      exact hstray (by decide)
    · simp at hmem
    · simp at hmem
    · obtain rfl := (Prod.mk.inj (List.mem_singleton.mp hmem)).2
      exact hv ⟨_, rfl, by simpa using ⟨_, .array⟩⟩
  have heffect : InEffect [("rules", longValue 80)]
      ⟨builtIn.root, builtIn.extensions, [⟨"a", "b"⟩]⟩ :=
    ⟨.inr ⟨by simp [Table.keys], rfl⟩, .inr ⟨by simp [Table.keys], rfl⟩,
      .inl ⟨_, List.mem_singleton_self _, hrules⟩⟩
  have haccepted : Outcome [] [("rules", longValue 80)]
      (.ok ⟨builtIn.root, builtIn.extensions, [⟨"a", "b"⟩]⟩) :=
    .accepted hfits heffect (by decide) (by simp [builtIn, OnlyDots]) (by simp)
  exact ⟨⟨hwritten, haccepted, ofText_long (Nat.le_refl _) []⟩, (scalar_announcement rfl).2, by decide +kernel⟩

end Config

end Emend
