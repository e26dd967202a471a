import Emend.Proofs.Config.Giving

/-!
# Keys that do not belong

A key that is none of a configuration, or none of a rule, stays where a line has put it,
whatever the lines behind it do.  So a document with such a key is not read.
-/

namespace Emend

open Toml

variable {name : String} {item item' : Item} {items after : Items} {config : Config}
  {first more lines : List Line} {found : Line} {state state' : List String × Items}

/-! ## Spoiled documents -/

/-- An entry that is no field of a rule makes a table no rule. -/
theorem Rule.ofValue_stray {entries : Table} (hname : name ∈ Table.keys entries)
    (hother : name ∉ Rule.fieldNames) : Rule.ofValue? (.table entries) = none := by
  rw [Option.eq_none_iff_forall_ne_some]
  intro rule hrule
  obtain ⟨_, hguard, hrule⟩ := Option.bind_eq_some_iff.mp hrule
  obtain ⟨v, hpattern, hrule⟩ := Option.bind_eq_some_iff.mp hrule
  obtain ⟨pattern, -, hrule⟩ := Option.bind_eq_some_iff.mp hrule
  obtain ⟨v', hreplacement, -⟩ := Option.bind_eq_some_iff.mp hrule
  have hlength : entries.length = 2 := by
    by_contra hne
    simp [guard, hne] at hguard
  have hmem := Table.mem_keys_of_get? hpattern
  have hmem' := Table.mem_keys_of_get? hreplacement
  obtain ⟨a, b, rfl⟩ := List.length_eq_two.mp hlength
  simp only [Table.keys, List.map_cons, List.map_nil, List.mem_cons, List.not_mem_nil,
    or_false] at hname hmem hmem'
  have hdifferent : "pattern" ≠ "replacement" := by decide
  simp only [Rule.fieldNames, List.mem_cons, List.not_mem_nil, or_false, not_or] at hother
  grind

theorem mapM_eq_none {α β : Type} {f : α → Option β} {a : α} {as : List α} (hmem : a ∈ as)
    (hnone : f a = none) : as.mapM f = none := by
  induction as with
  | nil => cases hmem
  | cons b as ih =>
    rw [List.mapM_cons]
    rcases List.mem_cons.mp hmem with rfl | hmem
    · rw [hnone]
      rfl
    · rw [ih hmem]
      cases f b <;> rfl

/-- Rules that cannot be read, and will not be whatever is added to them. -/
inductive SpoilsRules : Item → Prop
  | value {v : Value} (hnone : Config.rulesOfValue? v = none) : SpoilsRules (.value v)
  | tables {elements : List Items} {e : Items} {name : String} (he : e ∈ elements)
      (hname : name ∈ Items.keys e) (hother : name ∉ Rule.fieldNames) :
    SpoilsRules (.tables elements)

theorem SpoilsRules.keeps (hspoils : SpoilsRules item) (hkeeps : item.Keeps item') :
    SpoilsRules item' := by
  cases hspoils with
  | value hnone =>
    cases hkeeps
    exact .value hnone
  | tables he hname hother =>
    cases hkeeps with
    | tables hkeys =>
      obtain ⟨e', he', hsub⟩ := hkeys _ he
      exact .tables he' (hsub hname) hother

theorem SpoilsRules.rulesOfValue (hspoils : SpoilsRules item) :
    Config.rulesOfValue? (Items.Item.toValue item) = none := by
  cases hspoils with
  | value hnone =>
    rw [Items.Item.toValue]
    exact hnone
  | @tables elements e name he hname hother =>
    rw [Items.Item.toValue, Items.toTables_eq_map, ← List.map_reverse]
    apply mapM_eq_none (List.mem_map_of_mem (List.mem_reverse.mpr he))
    apply Rule.ofValue_stray _ hother
    rw [Items.keys_toTable]
    exact hname

/-- A document that cannot be read, and will not be whatever is added to it. -/
def Spoiled (items : Items) : Prop :=
  (∃ name ∈ Items.keys items, name ∉ ConfigKey.names) ∨
    ∃ item, Items.get? items "rules" = some item ∧ SpoilsRules item

/-- A document that is spoiled stays spoiled, whatever is added to it. -/
theorem Spoiled.keeps (hspoiled : Spoiled items) (hkeeps : Items.Keeps items after) :
    Spoiled after := by
  rcases hspoiled with ⟨name, hname, hother⟩ | ⟨item, hget, hspoils⟩
  · exact .inl ⟨name, hkeeps.keys_subset hname, hother⟩
  · obtain ⟨item', hget', hkeeps'⟩ := hkeeps hget
    exact .inr ⟨item', hget', hspoils.keeps hkeeps'⟩

/-- A spoiled document gives no configuration. -/
theorem Spoiled.ofTable (hspoiled : Spoiled items) :
    Config.ofTable? (Items.toTable items) = none := by
  rcases hspoiled with ⟨name, hname, hother⟩ | ⟨item, hget, hspoils⟩
  · have hknown : (Table.keys (Items.toTable items)).all (· ∈ ["root", "extensions", "rules"]) =
        false := by
      rw [Items.keys_toTable, List.all_eq_false]
      exact ⟨name, hname, by simpa [ConfigKey.names] using hother⟩
    simp only [Config.ofTable?, hknown]
    rfl
  · have hrules : Config.given? (Items.toTable items) "rules" Config.rulesOfValue?
        Config.builtIn.rules = none := by
      rw [Config.given?, Items.get?_toTable, hget]
      exact hspoils.rulesOfValue
    rw [Option.eq_none_iff_forall_ne_some]
    intro config hconfig
    obtain ⟨-, -, hconfig⟩ := Option.bind_eq_some_iff.mp hconfig
    obtain ⟨root, -, hconfig⟩ := Option.bind_eq_some_iff.mp hconfig
    obtain ⟨extensions, -, hconfig⟩ := Option.bind_eq_some_iff.mp hconfig
    rw [hrules] at hconfig
    cases hconfig

/-- What one line has spoiled stays spoiled. -/
theorem ofTable_of_spoiled
    (hspoils : ∀ state after, first.foldlM addLine ([], []) = some state →
      addLine state found = some after → Spoiled after.2) :
    (Table.ofLines? (first ++ found :: more)).bind Config.ofTable? = none := by
  rw [Option.bind_eq_none_iff]
  intro table htable
  obtain ⟨last, hlast, htable⟩ := Option.bind_eq_some_iff.mp htable
  rw [List.foldlM_append] at hlast
  obtain ⟨state, hstate, hlast⟩ := Option.bind_eq_some_iff.mp hlast
  rw [List.foldlM_cons] at hlast
  obtain ⟨after, hafter, hlast⟩ := Option.bind_eq_some_iff.mp hlast
  cases htable
  -- The lines behind the one that spoils only add to the document.
  exact ((hspoils state after hstate hafter).keeps (addLines_keeps hlast)).ofTable

/-! ## Where lines stand -/

def Toml.Line.IsPair (line : Line) : Prop := ∃ path v, line = .pair path v

/-- A pair leaves the last header in force. -/
theorem addLine_pair_fst {path : List String} {v : Value}
    (hadd : addLine state (.pair path v) = some state') : state'.1 = state.1 := by
  obtain ⟨after, -, hstate⟩ := Option.bind_eq_some_iff.mp hadd
  cases hstate
  rfl

theorem foldlM_pairs_fst (hpairs : ∀ line ∈ lines, line.IsPair)
    (hadd : lines.foldlM addLine state = some state') : state'.1 = state.1 := by
  induction lines generalizing state with
  | nil =>
    cases hadd
    rfl
  | cons line lines ih =>
    obtain ⟨⟨path, v, rfl⟩, hlines⟩ := List.forall_mem_cons.mp hpairs
    obtain ⟨next, hnext, hrest⟩ := Option.bind_eq_some_iff.mp hadd
    rw [ih hlines hrest, addLine_pair_fst hnext]

namespace Config

theorem isPair_of_settings {keys : List ConfigKey}
    (htold : List.Forall₂ (Says config) lines (Piece.settings keys)) :
    ∀ line ∈ lines, line.IsPair := by
  induction keys generalizing lines with
  | nil =>
    cases htold
    simp
  | cons key keys ih =>
    cases htold with
    | cons hline hlines =>
      obtain ⟨v, rfl, -⟩ := hline
      exact List.forall_mem_cons.mpr ⟨⟨_, _, rfl⟩, ih hlines⟩

theorem isPair_of_fields {fields : List (String × String)}
    (htold : List.Forall₂ (Says config) lines (Piece.fields fields)) :
    ∀ line ∈ lines, line.IsPair := by
  induction fields generalizing lines with
  | nil =>
    cases htold
    simp
  | cons e fields ih =>
    cases htold with
    | cons hline hlines =>
      rw [Says] at hline
      subst hline
      exact List.forall_mem_cons.mpr ⟨⟨_, _, rfl⟩, ih hlines⟩

/-- A section is open: what is added goes to the last table of the rules. -/
structure InSection (state : List String × Items) : Prop where
  fst_eq : state.1 = ["rules"]
  exists_last : ∃ last others, Items.get? state.2 "rules" = some (.tables (last :: others))

theorem inSection_of_element (hadd : addLine state (.element ["rules"]) = some state') :
    InSection state' := by
  obtain ⟨after, hafter, hstate⟩ := Option.bind_eq_some_iff.mp hadd
  cases hstate
  obtain ⟨item, hitem, rfl⟩ := Option.map_eq_some_iff.mp hafter
  refine ⟨rfl, ?_⟩
  simp only [Items.get?_put_self]
  beta_reduce at hitem
  split at hitem
  · cases hitem
    exact ⟨[], [], rfl⟩
  · cases hitem
    exact ⟨[], _, rfl⟩
  · cases hitem

/-- Pairs leave the section open that they stand in. -/
theorem InSection.of_pairs (hsection : InSection state) (hpairs : ∀ line ∈ lines, line.IsPair)
    (hadd : lines.foldlM addLine state = some state') : InSection state' := by
  obtain ⟨hfst, last, others, hrules⟩ := hsection
  refine ⟨(foldlM_pairs_fst hpairs hadd).trans hfst, ?_⟩
  obtain ⟨item, hget, hkeeps⟩ := addLines_keeps hadd hrules
  cases hkeeps with
  | @tables elements elements' hkeys =>
    obtain ⟨e, he, -⟩ := hkeys last (List.mem_cons_self ..)
    obtain ⟨last', others', hcons⟩ := List.exists_cons_of_ne_nil (List.ne_nil_of_mem he)
    exact ⟨last', others', hcons ▸ hget⟩

end Config

/-! ## Lines that spoil -/

theorem spoiled_of_pair {path : List String} {v : Value} (hfst : state.1 = [])
    (hhead : path.head? = some name) (hother : name ∉ ConfigKey.names)
    (hadd : addLine state (.pair path v) = some state') : Spoiled state'.2 := by
  obtain ⟨after, hafter, hstate⟩ := Option.bind_eq_some_iff.mp hadd
  cases hstate
  rw [hfst, Items.within] at hafter
  exact .inl ⟨name, Items.head_mem_of_addValue hafter hhead, hother⟩

/-- What is said of the two kinds of headers. -/
theorem exists_openHeader {path : List String}
    (hfound : found = .table path ∨ found = .element path)
    (hadd : addLine state found = some state') :
    ∃ final, Items.openHeader final path state.2 = some state'.2 := by
  rcases hfound with rfl | rfl
  · obtain ⟨after, hafter, hstate⟩ := Option.bind_eq_some_iff.mp hadd
    cases hstate
    exact ⟨_, hafter⟩
  · obtain ⟨after, hafter, hstate⟩ := Option.bind_eq_some_iff.mp hadd
    cases hstate
    exact ⟨_, hafter⟩

theorem spoiled_of_header {path : List String} (hpath : [name] <+: path)
    (hfound : found = .table path ∨ found = .element path) (hother : name ∉ ConfigKey.names)
    (hadd : addLine state found = some state') : Spoiled state'.2 := by
  obtain ⟨more, rfl⟩ := hpath
  obtain ⟨final, hopen⟩ := exists_openHeader hfound hadd
  exact .inl ⟨name, Items.head_mem_of_openHeader hopen rfl, hother⟩

theorem spoiled_of_array {vs : List Value} {v : Value} (hfst : state.1 = []) (hmem : v ∈ vs)
    (hv : Rule.ofValue? v = none)
    (hadd : addLine state (.pair ["rules"] (.array vs)) = some state') :
    Spoiled state'.2 := by
  obtain ⟨after, hafter, hstate⟩ := Option.bind_eq_some_iff.mp hadd
  cases hstate
  rw [hfst, Items.within, Items.addValue] at hafter
  split at hafter
  · cases hafter
    refine .inr ⟨_, Items.get?_put_self, .value ?_⟩
    exact mapM_eq_none hmem hv
  · cases hafter

theorem spoiled_of_section_pair {path : List String} {v : Value} (hsection : Config.InSection state)
    (hhead : path.head? = some name) (hother : name ∉ Rule.fieldNames)
    (hadd : addLine state (.pair path v) = some state') : Spoiled state'.2 := by
  obtain ⟨hfst, last, others, hrules⟩ := hsection
  obtain ⟨after, hafter, hstate⟩ := Option.bind_eq_some_iff.mp hadd
  cases hstate
  simp only [hfst, Items.within, hrules] at hafter
  obtain ⟨last', hlast, rfl⟩ := Option.map_eq_some_iff.mp hafter
  refine .inr ⟨_, Items.get?_put_self, ?_⟩
  exact .tables (List.mem_cons_self ..) (Items.head_mem_of_addValue hlast hhead) hother

theorem spoiled_of_section_header {path : List String} (hsection : Config.InSection state)
    (hpath : ["rules", name] <+: path) (hfound : found = .table path ∨ found = .element path)
    (hother : name ∉ Rule.fieldNames) (hadd : addLine state found = some state') :
    Spoiled state'.2 := by
  obtain ⟨-, last, others, hrules⟩ := hsection
  obtain ⟨more, rfl⟩ := hpath
  obtain ⟨final, hopen⟩ := exists_openHeader hfound hadd
  simp only [List.cons_append, List.nil_append, Items.openHeader, hrules] at hopen
  obtain ⟨last', hlast, hafter⟩ := Option.map_eq_some_iff.mp hopen
  refine .inr ⟨.tables (last' :: others), by rw [← hafter, Items.get?_put_self], ?_⟩
  exact .tables (List.mem_cons_self ..) (Items.head_mem_of_openHeader hlast rfl) hother

/-! ## Reading what strays -/

namespace Config

variable {cs rest : List Char} {limit : Nat}

/-- A table with a key that is no field of a rule is no rule. -/
theorem ofValue_of_stray_table {fields : List (String × String)} {front filler : List Char}
    {v : Value} (hfront : WritesFront (WritesPair WritesString) fields front)
    (hfiller : Filler filler) (hpair : BeginsPair name cs) (hother : name ∉ Rule.fieldNames)
    (hlimit : front.length < limit) {depth : Nat}
    (hread : readValue limit (depth + 1) ('\x7b' :: (front ++ (filler ++ cs))) = some (v, rest)) :
    Rule.ofValue? v = none := by
  obtain ⟨c, more, rfl, hopens, -⟩ := hpair.exists_cons
  rw [readValue] at hread
  obtain ⟨⟨pairs, last⟩, hpairs, hread⟩ := Option.bind_eq_some_iff.mp hread
  obtain ⟨items, hitems, hread⟩ := Option.bind_eq_some_iff.mp hread
  cases hread
  have heach := readsEach_pair passesBlanks_skipLines (readsEach_string limit depth)
  obtain ⟨⟨path, v⟩, rest, hone, hmem⟩ :=
    heach.exists_of_front (.inr rfl) hfront hlimit hopens hfiller hpairs
  have hhead := hpair.head_of_readPair hone
  apply Rule.ofValue_stray _ hother
  rw [Items.keys_toTable]
  exact Items.mem_keys_of_foldlM hmem hhead hitems

/-- A line with a stray key inside the array of rules reads as such an array. -/
theorem exists_of_stray_array (hstrays : StraysInArray cs) (hlimit : cs.length < limit)
    (hread : readLine limit cs = some (found, rest)) :
    ∃ vs v, found = .pair ["rules"] (.array vs) ∧ v ∈ vs ∧ Rule.ofValue? v = none := by
  obtain @⟨rules, fields, other, writtenKey, after, ahead, front, before, written, filler, cs,
    hkey, hafter, hahead, hfront, hbefore, hwritten, hfiller, hpair, hother⟩ := hstrays
  simp only [List.length_append, List.length_cons] at hlimit
  have hline : readLine limit (writtenKey ++ (after ++ '=' :: (ahead ++ '[' ::
      (front ++ (before ++ '\x7b' :: (written ++ (filler ++ cs))))))) =
        (readValue limit depthLimit
          ('[' :: (front ++ (before ++ '\x7b' :: (written ++ (filler ++ cs)))))).map
            fun found => (.pair ["rules"] found.1, found.2) := by
    have hopen : IsSign '[' := by decide
    obtain ⟨c, more, rfl, hfirst⟩ := hkey.exists_cons
    rw [List.cons_append, readLine_pair (opens_of_key hfirst).2, ← List.cons_append,
      readPair_equals passesBlanks_skipBlanks hkey hafter hahead hopen, Option.map_map]
    rfl
  rw [hline] at hread
  obtain ⟨⟨array, last⟩, harray, hfound⟩ := Option.map_eq_some_iff.mp hread
  cases hfound
  obtain ⟨⟨vs, last⟩, hvs, harray⟩ := Option.bind_eq_some_iff.mp harray
  cases harray
  obtain ⟨v, rest, hone, hmem⟩ :=
    (readsEach_rule limit _).exists_of_front (.inl rfl) hfront (by omega) (by decide) hbefore hvs
  exact ⟨vs, v, rfl, hmem, ofValue_of_stray_table hwritten hfiller hpair hother (by omega) hone⟩

/-- A text that strays begins like a line. -/
theorem StraysInArray.exists_cons (hstrays : StraysInArray cs) :
    ∃ c more, cs = c :: more ∧ Opens c := by
  obtain ⟨hkey⟩ := hstrays
  obtain ⟨c, more, rfl, hfirst⟩ := hkey.exists_cons
  exact ⟨c, _, rfl, (opens_of_key hfirst).1⟩

/-- Behind lines of some pieces, a text begins with a line that spoils the document. -/
structure SpoilsNext (config : Config) (pieces : List Piece) (limit : Nat) (next : List Char) :
    Prop where
  begins : ∃ c more, next = c :: more ∧ Opens c
  spoils {lines : List Line} {found : Line} {rest : List Char}
    {state after : List String × Items} : List.Forall₂ (Says config) lines pieces →
      lines.foldlM addLine ([], []) = some state → readLine limit next = some (found, rest) →
      addLine state found = some after → Spoiled after.2

variable {pieces : List Piece} {front before next : List Char} {keys : List ConfigKey}

theorem spoilsNext_setting (hpair : BeginsPair name next) (hother : name ∉ ConfigKey.names) :
    SpoilsNext config (Piece.settings keys) limit next where
  begins := by
    obtain ⟨c, more, rfl, hopens, -⟩ := hpair.exists_cons
    exact ⟨c, more, rfl, hopens⟩
  spoils htold hstate hread hadd := by
    obtain ⟨path, v, rfl, hhead⟩ := hpair.exists_of_readLine hread
    have hfst := foldlM_pairs_fst (isPair_of_settings htold) hstate
    exact spoiled_of_pair hfst hhead hother hadd

theorem spoilsNext_header (hheader : BeginsHeader [name] next) (hother : name ∉ ConfigKey.names) :
    SpoilsNext config pieces limit next where
  begins := hheader.exists_cons
  spoils htold hstate hread hadd := by
    obtain ⟨full, hfull, hfound⟩ := hheader.exists_of_readLine hread
    exact spoiled_of_header hfull hfound hother hadd

theorem spoilsNext_inArray (hstrays : StraysInArray next) (hlimit : next.length < limit) :
    SpoilsNext config (Piece.settings keys) limit next where
  begins := hstrays.exists_cons
  spoils htold hstate hread hadd := by
    obtain ⟨vs, v, rfl, hmem, hv⟩ := exists_of_stray_array hstrays hlimit hread
    have hfst := foldlM_pairs_fst (isPair_of_settings htold) hstate
    exact spoiled_of_array hfst hmem hv hadd

/-- Lines that end with those of a section lead into it. -/
theorem inSection_of_says {fields : List (String × String)}
    (htold : List.Forall₂ (Says config) lines (pieces ++ .opening :: Piece.fields fields))
    (hstate : lines.foldlM addLine ([], []) = some state) : InSection state := by
  obtain ⟨ahead, own, rfl, -, hown⟩ := exists_append_of_forall₂ htold
  cases hown with
  | cons hline hfields =>
    rw [Says] at hline
    subst hline
    rw [List.foldlM_append] at hstate
    obtain ⟨middle, -, hstate⟩ := Option.bind_eq_some_iff.mp hstate
    rw [List.foldlM_cons] at hstate
    obtain ⟨opened, hopened, hstate⟩ := Option.bind_eq_some_iff.mp hstate
    exact (inSection_of_element hopened).of_pairs (isPair_of_fields hfields) hstate

theorem spoilsNext_inSection {fields : List (String × String)}
    (hnext : BeginsPair name next ∨ BeginsHeader ["rules", name] next)
    (hother : name ∉ Rule.fieldNames) :
    SpoilsNext config (pieces ++ .opening :: Piece.fields fields) limit next where
  begins := by
    rcases hnext with hpair | hheader
    · obtain ⟨c, more, rfl, hopens, -⟩ := hpair.exists_cons
      exact ⟨c, more, rfl, hopens⟩
    · exact hheader.exists_cons
  spoils htold hstate hread hadd := by
    have hsection := inSection_of_says htold hstate
    rcases hnext with hpair | hheader
    · obtain ⟨path, v, rfl, hhead⟩ := hpair.exists_of_readLine hread
      exact spoiled_of_section_pair hsection hhead hother hadd
    · obtain ⟨full, hfull, hfound⟩ := hheader.exists_of_readLine hread
      exact spoiled_of_section_header hsection hfull hfound hother hadd

/-- A document in which a line spoils what stands before it is not read. -/
theorem ofText_of_spoilsNext {text : String} {cs : List Char}
    (hfront : WritesLines (WritesPiece config) pieces front) (hbefore : Filler before)
    (hcs : cs = front ++ (before ++ next))
    (hnext : SpoilsNext config pieces (cs.length + 1) next) (hmarked : Marked cs text)
    (path : Path) : ofText path text = .error (.configUnparsable path) := by
  have heach := readsEach_piece (cs.length + 1) config
  have hlimit : front.length < cs.length + 1 := by
    simp only [hcs, List.length_append]
    omega
  obtain ⟨c, more, rfl, hopens⟩ := hnext.begins
  have hmark : cs.head? ≠ some '\uFEFF' := by
    rw [hcs]
    apply hfront.head_ne_mark fun _ _ => heach.begins
    exact hbefore.head_ne (by decide) (by simpa using hopens.2.2.2)
  have hnone : (Table.ofText? text).bind ofTable? = none := by
    rw [ofText_of_marked hmarked hmark, Option.bind_assoc, Option.bind_eq_none_iff]
    intro lines hlines
    have hwhole : readLines (cs.length + 1) (cs.length + 1) (front ++ (before ++ c :: more)) =
        some lines := by
      rw [← hcs]
      exact hlines
    obtain ⟨first, found, rest, others, htold, hread, rfl⟩ :=
      heach.exists_of_lines hfront hlimit hopens.1 hbefore hwhole
    exact ofTable_of_spoiled fun state after hstate hadd => hnext.spoils htold hstate hread hadd
  rw [ofText]
  cases htable : Table.ofText? text with
  | none => rfl
  | some table =>
    rw [htable, Option.bind_some] at hnone
    simp only [hnone]

theorem ofText_of_strays {text : String} (hstrays : Strays config cs) (hmarked : Marked cs text)
    (path : Path) : ofText path text = .error (.configUnparsable path) := by
  cases hstrays with
  | setting hfront hbefore hpair hother =>
    exact ofText_of_spoilsNext hfront hbefore rfl (spoilsNext_setting hpair hother) hmarked path
  | header hfront hbefore hheader hother =>
    exact ofText_of_spoilsNext hfront hbefore rfl (spoilsNext_header hheader hother) hmarked path
  | inArray hfront hbefore hstrays =>
    refine ofText_of_spoilsNext hfront hbefore rfl (spoilsNext_inArray hstrays ?_) hmarked path
    simp only [List.length_append]
    omega
  | inSection hfront hbefore hnext hother =>
    exact ofText_of_spoilsNext hfront hbefore rfl (spoilsNext_inSection hnext hother) hmarked path

end Config

end Emend
