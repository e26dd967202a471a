import Emend.Proofs.Toml.Growth
import Emend.Proofs.Toml.Items

/-!
# Written values

Arrays and tables inside values are read down to their items, whose own readings are
put together.
-/

namespace Emend.Toml

variable {α : Type} {item : α → List Char → Prop} {describes : Value → α → Prop}
  {value : List Char → Option (Value × List Char)}
  {skip : List Char → Option (List Char)} {limit depth : Nat} {as : List α} {text key : String}
  {cs rest : List Char} {c : Char}

/-! ## Strings and arrays -/

theorem WritesString.exists_cons (hwritten : WritesString text cs) :
    ∃ more, cs = '"' :: more := by
  obtain ⟨hinner⟩ := hwritten
  exact ⟨_, rfl⟩

theorem WritesString.readValue (hwritten : WritesString text cs) (hrest : rest.head? ≠ some '"') :
    readValue limit depth (cs ++ rest) = some (.string text, rest) := by
  have hread := hwritten.readString hrest
  obtain ⟨more, rfl⟩ := hwritten.exists_cons
  rw [List.cons_append] at hread ⊢
  cases depth <;> simp [Toml.readValue, hread]

theorem readsEach_string (limit depth : Nat) :
    ReadsEach limit WritesString (readValue limit depth) fun v text => v = .string text where
  begins hwritten := by
    obtain ⟨more, rfl⟩ := hwritten.exists_cons
    exact ⟨'"', more, rfl, by decide⟩
  reads hwritten _ := ⟨_, rfl, fun rest hrest => hwritten.readValue hrest⟩

inductive WritesArray (item : α → List Char → Prop) (as : List α) : List Char → Prop
  | mk {inner : List Char} (hinner : WritesItems item as inner) :
    WritesArray item as ('[' :: (inner ++ [']']))

theorem WritesArray.readValue (hwritten : WritesArray item as cs)
    (heach : ReadsEach limit item (readValue limit depth) describes)
    (hlimit : cs.length < limit) :
    ∃ vs, List.Forall₂ describes vs as ∧
      ∀ rest, Toml.readValue limit (depth + 1) (cs ++ rest) = some (.array vs, rest) := by
  obtain ⟨hinner⟩ := hwritten
  simp only [List.length_append, List.length_cons, List.length_nil] at hlimit
  obtain ⟨vs, hvs, hread⟩ := heach.readItems (.inl rfl) hinner (by omega)
  refine ⟨vs, hvs, fun rest => ?_⟩
  rw [List.cons_append, List.append_assoc, List.singleton_append, Toml.readValue, hread]
  rfl

/-! ## Pairs -/

inductive WritesPair (item : α → List Char → Prop) : String × α → List Char → Prop
  | mk {key : String} {a : α} {writtenKey after before written : List Char}
      (hkey : WritesKey key writtenKey) (hafter : Blanks after) (hbefore : Blanks before)
      (hitem : item a written) :
    WritesPair item (key, a) (writtenKey ++ (after ++ '=' :: (before ++ written)))

/-- A text that begins as a pair does whose key is the given one, or begins with it and a
dot. -/
inductive BeginsPair (key : String) : List Char → Prop
  | mk {writtenKey after : List Char} {sign : Char} (hkey : WritesKey key writtenKey)
      (hafter : Blanks after) (hsign : sign = '=' ∨ sign = '.') (rest : List Char) :
    BeginsPair key (writtenKey ++ (after ++ sign :: rest))

def PassesBlanks (skip : List Char → Option (List Char)) : Prop :=
  ∀ ⦃cs c⦄, Blanks cs → IsSign c → ∀ rest, skip (cs ++ c :: rest) = some (c :: rest)

theorem passesBlanks_skipBlanks : PassesBlanks fun rest => some (skipBlanks rest) := by
  intro cs c hblanks hsign rest
  simp only [skipBlanks_append hblanks, skipBlanks_cons hsign]

theorem passesBlanks_skipLines : PassesBlanks (skipLines false) := by
  intro cs c hblanks hsign rest
  rw [skipLines_blanks hblanks, skipLines_cons hsign]

theorem readPair_equals (hskip : PassesBlanks skip) {writtenKey after before : List Char}
    (hkey : WritesKey key writtenKey) (hafter : Blanks after) (hbefore : Blanks before)
    (hsign : IsSign c) :
    readPair skip value (writtenKey ++ (after ++ '=' :: (before ++ c :: cs))) =
      (value (c :: cs)).map fun found => (([key], found.1), found.2) := by
  have hread : readKey (writtenKey ++ (after ++ '=' :: (before ++ c :: cs))) =
      some ([key], '=' :: (before ++ c :: cs)) :=
    hkey.readKeyFrom Blanks.nil hafter rfl (by decide) 79 _
  have hequals : skip ('=' :: (before ++ c :: cs)) = some ('=' :: (before ++ c :: cs)) :=
    hskip Blanks.nil (by decide) _
  rw [readPair, hread]
  simp only [bind, Option.bind, hequals, hskip hbefore hsign]
  cases value (c :: cs) <;> rfl

/-- A pair that can be read has the key that it begins with. -/
theorem BeginsPair.head_of_readPair (hbegins : BeginsPair key cs) {path : List String} {v : Value}
    (hread : readPair skip value cs = some ((path, v), rest)) : path.head? = some key := by
  obtain ⟨hkey, hafter, hsign, rest⟩ := hbegins
  obtain ⟨⟨found, skipped⟩, hfound, hread⟩ := Option.bind_eq_some_iff.mp hread
  obtain ⟨before, -, hread⟩ := Option.bind_eq_some_iff.mp hread
  have hends {sign : Char} (hsign : sign = '=' ∨ sign = '.') :
      isBareKeySign sign = false ∧ IsSign sign := by
    rcases hsign with rfl | rfl <;> exact ⟨rfl, by decide⟩
  have hhead : found.head? = some key :=
    hkey.head_of_readKeyFrom Blanks.nil hafter (hends hsign) hfound
  split at hread
  · obtain ⟨after, -, hread⟩ := Option.bind_eq_some_iff.mp hread
    obtain ⟨⟨v, last⟩, -, hread⟩ := Option.bind_eq_some_iff.mp hread
    cases hread
    exact hhead
  · cases hread

theorem BeginsPair.exists_cons (hbegins : BeginsPair key cs) :
    ∃ c more, cs = c :: more ∧ Opens c ∧ c ≠ '[' := by
  obtain ⟨hkey, hafter, hsign, rest⟩ := hbegins
  obtain ⟨c, more, rfl, hfirst⟩ := hkey.exists_cons
  exact ⟨c, _, rfl, opens_of_key hfirst⟩

/-- Where a value is begun, the pair is begun with its key. -/
theorem WritesPair.beginsPair {e : String × α} (hwritten : WritesPair item e cs) :
    BeginsPair e.1 cs := by
  cases hwritten with
  | mk hkey hafter hbefore hitem => exact .mk hkey hafter (.inl rfl) _

/-! ## Tables -/

/-- What describes a pair is its key and what describes its value. -/
def DescribesPair (describes : Value → α → Prop) (p : List String × Value) (e : String × α) :
    Prop :=
  p.1 = [e.1] ∧ describes p.2 e.2

/-- Pairs are read where their values are. -/
theorem readsEach_pair (hskip : PassesBlanks skip) (heach : ReadsEach limit item value describes) :
    ReadsEach limit (WritesPair item) (readPair skip value) (DescribesPair describes) where
  begins hwritten := by
    obtain ⟨c, more, rfl, hopens, -⟩ := hwritten.beginsPair.exists_cons
    exact ⟨c, more, rfl, hopens⟩
  reads hwritten hlimit := by
    cases hwritten with
    | @mk key a writtenKey after before written hkey hafter hbefore hitem =>
      simp only [List.length_append, List.length_cons] at hlimit
      obtain ⟨v, hv, hread⟩ := heach.reads hitem (by omega)
      obtain ⟨c, cs, rfl, hopens⟩ := heach.begins hitem
      refine ⟨([key], v), ⟨rfl, hv⟩, fun rest hrest => ?_⟩
      have hvalue : value (c :: (cs ++ rest)) = some (v, rest) := hread rest hrest
      have hpair : readPair skip value
          (writtenKey ++ (after ++ '=' :: (before ++ c :: (cs ++ rest)))) =
            (value (c :: (cs ++ rest))).map fun found => (([key], found.1), found.2) :=
        readPair_equals hskip hkey hafter hbefore hopens.1
      rw [hvalue] at hpair
      simpa using hpair

inductive WritesTable (item : α → List Char → Prop) (entries : List (String × α)) :
    List Char → Prop
  | mk {inner : List Char} (hnodup : (entries.map Prod.fst).Nodup)
      (hinner : WritesItems (WritesPair item) entries inner) :
    WritesTable item entries ('\x7b' :: (inner ++ ['\x7d']))

namespace Items

variable {items : Items} {entries : List (String × Value)}

/-- Values under different keys are added one behind the other. -/
theorem foldlM_addValue (hnodup : (keys items ++ entries.map Prod.fst).Nodup) :
    (entries.map fun e => ([e.1], e.2)).foldlM (fun items p => addValue p.2 p.1 items) items =
      some (items ++ entries.map fun e => (e.1, Item.value e.2)) := by
  induction entries generalizing items with
  | nil => simp
  | cons e entries ih =>
    have hnew : e.1 ∉ keys items := by
      intro hmem
      exact (List.nodup_append.mp hnodup).2.2 _ hmem _ (by simp) rfl
    have hadd : addValue e.2 [e.1] items = some (items ++ [(e.1, .value e.2)]) := by
      rw [addValue, get?_eq_none_iff.mpr hnew]
      simp [put_of_new hnew]
    have hkeys : keys (items ++ [(e.1, .value e.2)]) = keys items ++ [e.1] := by simp [keys]
    rw [List.map_cons, List.foldlM_cons, hadd]
    refine (ih ?_).trans ?_
    · rw [hkeys, List.append_assoc]
      exact hnodup
    · simp

end Items

/-- Pairs that are described have their keys. -/
theorem exists_entries {pairs : List (List String × Value)} {entries : List (String × α)}
    (hpairs : List.Forall₂ (DescribesPair describes) pairs entries) :
    ∃ found : List (String × Value), pairs = found.map (fun e => ([e.1], e.2)) ∧
      found.map Prod.fst = entries.map Prod.fst ∧
      List.Forall₂ (fun v e => describes v.2 e.2) found entries := by
  induction hpairs with
  | nil => exact ⟨[], rfl, rfl, .nil⟩
  | @cons p e pairs entries hp hpairs ih =>
    obtain ⟨found, rfl, hkeys, hfound⟩ := ih
    obtain ⟨path, v⟩ := p
    obtain ⟨rfl, hv⟩ := hp
    exact ⟨(e.1, v) :: found, rfl, by simp [hkeys], .cons hv hfound⟩

theorem WritesTable.readValue {entries : List (String × α)} (hwritten : WritesTable item entries cs)
    (heach : ReadsEach limit item (readValue limit depth) describes)
    (hlimit : cs.length < limit) :
    ∃ found : List (String × Value), found.map Prod.fst = entries.map Prod.fst ∧
      List.Forall₂ (fun v e => describes v.2 e.2) found entries ∧
      ∀ rest, Toml.readValue limit (depth + 1) (cs ++ rest) = some (.table found, rest) := by
  obtain ⟨hnodup, hinner⟩ := hwritten
  simp only [List.length_append, List.length_cons, List.length_nil] at hlimit
  obtain ⟨pairs, hpairs, hread⟩ :=
    (readsEach_pair passesBlanks_skipLines heach).readItems (.inr rfl) hinner
      (by omega)
  obtain ⟨found, rfl, hkeys, hfound⟩ := exists_entries hpairs
  refine ⟨found, hkeys, hfound, fun rest => ?_⟩
  have hadd : (found.map fun e => ([e.1], e.2)).foldlM
      (fun items p => Items.addValue p.2 p.1 items) [] =
        some (found.map fun e => (e.1, Item.value e.2)) := by
    apply Items.foldlM_addValue
    rw [hkeys]
    exact hnodup
  rw [List.cons_append, List.append_assoc, List.singleton_append, Toml.readValue, hread]
  simp only [bind, Option.bind, hadd, Items.toTable_values]
  rfl

end Emend.Toml
