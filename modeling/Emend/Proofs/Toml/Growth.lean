import Mathlib.Data.List.Basic
import Emend.Toml.Document

/-!
# Documents only grow

Whatever a line adds to a document, every key that stands in it stays, a value under a
key stays what it is, and the tables of a list stay among its tables.
-/

namespace Emend.Toml

variable {key other : String} {path : List String} {v : Value} {item : Item}
  {items old new : Items}

namespace Items

def keys (items : Items) : List String := items.map Prod.fst

theorem get?_cons (e : String × Item) (items : Items) :
    get? (e :: items) key = if e.1 = key then some e.2 else get? items key := by
  simp only [get?, List.find?_cons]
  by_cases hkey : e.1 = key <;> simp [hkey]

theorem get?_eq_none_iff : get? items key = none ↔ key ∉ keys items := by
  simp only [get?, keys, Option.map_eq_none_iff, List.find?_eq_none, List.mem_map,
    decide_eq_true_eq, not_exists, not_and]

theorem mem_keys_of_get? (hget : get? items key = some item) : key ∈ keys items := by
  by_contra hnot
  rw [get?_eq_none_iff.mpr hnot] at hget
  cases hget

theorem exists_of_mem_keys (hkey : key ∈ keys items) : ∃ item, get? items key = some item := by
  rw [← Option.isSome_iff_exists, Option.isSome_iff_ne_none]
  intro hnone
  exact get?_eq_none_iff.mp hnone hkey

/-! ## Putting -/

theorem put_of_new (hnew : key ∉ keys items) : put items key item = items ++ [(key, item)] := by
  have hany : items.any (·.1 = key) = false := by
    rw [List.any_eq_false]
    intro e he hkey
    exact hnew (List.mem_map.mpr ⟨e, he, of_decide_eq_true hkey⟩)
  rw [put, hany]
  rfl

theorem put_of_mem (hmem : key ∈ keys items) :
    put items key item = items.map fun e => if e.1 = key then (key, item) else e := by
  have hany : items.any (·.1 = key) = true := by
    obtain ⟨e, he, hkey⟩ := List.mem_map.mp hmem
    exact List.any_eq_true.mpr ⟨e, he, decide_eq_true hkey⟩
  rw [put, hany]
  rfl

theorem get?_append_singleton :
    get? (items ++ [(key, item)]) other =
      (get? items other).or (if key = other then some item else none) := by
  induction items with
  | nil => simp [get?]
  | cons e items ih =>
    rw [List.cons_append, get?_cons, get?_cons, ih]
    split_ifs <;> rfl

theorem get?_replace :
    get? (items.map fun e => if e.1 = key then (key, item) else e) other =
      (get? items other).map fun old => if other = key then item else old := by
  induction items with
  | nil => rfl
  | cons e items ih =>
    rw [List.map_cons, get?_cons, get?_cons, ih]
    split_ifs <;> simp_all

/-- What is put under a key is found there, and nothing else changes. -/
theorem get?_put : get? (put items key item) other =
    if other = key then some item else get? items other := by
  by_cases hmem : key ∈ keys items
  · rw [put_of_mem hmem, get?_replace]
    split_ifs with hkey
    · obtain ⟨old, hold⟩ := exists_of_mem_keys hmem
      rw [hkey, hold]
      rfl
    · simp
  · rw [put_of_new hmem, get?_append_singleton]
    by_cases hkey : other = key
    · rw [if_pos hkey.symm, if_pos hkey, hkey, get?_eq_none_iff.mpr hmem]
      rfl
    · rw [if_neg (Ne.symm hkey), if_neg hkey]
      exact Option.or_none

theorem get?_put_self : get? (put items key item) key = some item := by
  rw [get?_put, if_pos rfl]

theorem mem_keys_put : other ∈ keys (put items key item) ↔ other = key ∨ other ∈ keys items := by
  rw [← not_iff_not, not_or, ← get?_eq_none_iff, ← get?_eq_none_iff, get?_put]
  split_ifs with hkey <;> simp [hkey]

end Items

/-! ## Keeping -/

/-- An item has become another one without losing anything that counts for what is read. -/
inductive Item.Keeps : Item → Item → Prop
  | value (v : Value) : Keeps (.value v) (.value v)
  | table {origin origin' : Origin} {inner inner' : Items} :
    Keeps (.table origin inner) (.table origin' inner')
  | tables {elements elements' : List Items}
      (hkeys : ∀ e ∈ elements, ∃ e' ∈ elements', Items.keys e ⊆ Items.keys e') :
    Keeps (.tables elements) (.tables elements')

theorem Item.Keeps.refl (item : Item) : item.Keeps item := by
  cases item with
  | value v => exact .value v
  | table origin inner => exact .table
  | tables elements => exact .tables fun e he => ⟨e, he, fun _ => id⟩

theorem Item.Keeps.trans {first second third : Item} (h : first.Keeps second)
    (h' : second.Keeps third) : first.Keeps third := by
  cases h with
  | value v => exact h'
  | table =>
    cases h'
    exact .table
  | tables hkeys =>
    cases h' with
    | tables hkeys' =>
      refine .tables fun e he => ?_
      obtain ⟨e', he', hsub⟩ := hkeys e he
      obtain ⟨e'', he'', hsub'⟩ := hkeys' e' he'
      exact ⟨e'', he'', fun key hkey => hsub' (hsub hkey)⟩

namespace Items

/-- Every key stays, over an item that has lost nothing. -/
def Keeps (old new : Items) : Prop :=
  ∀ ⦃key item⦄, get? old key = some item → ∃ item', get? new key = some item' ∧ item.Keeps item'

theorem Keeps.refl (items : Items) : Keeps items items :=
  fun _ item hget => ⟨item, hget, .refl item⟩

theorem Keeps.trans {third : Items} (h : Keeps old new) (h' : Keeps new third) :
    Keeps old third := by
  intro key item hget
  obtain ⟨item', hget', hkeeps⟩ := h hget
  obtain ⟨item'', hget'', hkeeps'⟩ := h' hget'
  exact ⟨item'', hget'', hkeeps.trans hkeeps'⟩

theorem Keeps.keys_subset (h : Keeps old new) : keys old ⊆ keys new := by
  intro key hkey
  obtain ⟨item, hget⟩ := exists_of_mem_keys hkey
  obtain ⟨item', hget', -⟩ := h hget
  exact mem_keys_of_get? hget'

/-- Putting an item under a key loses nothing, if the item keeps what was there. -/
theorem keeps_put (hkeeps : ∀ old, get? items key = some old → old.Keeps item) :
    Keeps items (put items key item) := by
  intro other old hget
  rw [get?_put]
  split_ifs with hkey
  · subst hkey
    exact ⟨item, rfl, hkeeps old hget⟩
  · exact ⟨old, hget, .refl old⟩

theorem keeps_of_none (hget : get? items key = none) :
    ∀ old, get? items key = some old → old.Keeps item := by
  intro old hold
  rw [hget] at hold
  cases hold

theorem keeps_of_some {old : Item} (hget : get? items key = some old) (hkeeps : old.Keeps item) :
    ∀ old, get? items key = some old → old.Keeps item := by
  intro other hother
  rw [hget] at hother
  cases hother
  exact hkeeps

theorem keeps_replace {old : Item} (hget : get? items key = some old) (hkeeps : old.Keeps item) :
    Keeps items (put items key item) :=
  keeps_put (keeps_of_some hget hkeeps)

/-- The last table of a list may grow. -/
theorem keeps_last {last last' : Items} {others : List Items} (h : Keeps last last') :
    (Item.tables (last :: others)).Keeps (.tables (last' :: others)) := by
  refine .tables fun e he => ?_
  rcases List.mem_cons.mp he with rfl | he
  · exact ⟨last', List.mem_cons_self .., h.keys_subset⟩
  · exact ⟨e, List.mem_cons_of_mem _ he, fun _ => id⟩

/-- Adding a value puts an item under the first of its keys that keeps what stood there. -/
theorem exists_put_of_addValue (hadd : addValue v path items = some new) :
    ∃ key item, path.head? = some key ∧ new = put items key item ∧
      ∀ old, get? items key = some old → old.Keeps item := by
  fun_induction addValue v path items generalizing new with
  | case1 => cases hadd
  | case2 key items hget =>
    cases hadd
    exact ⟨key, _, rfl, rfl, keeps_of_none hget⟩
  | case3 => cases hadd
  | case4 key rest items _ hget ih =>
    obtain ⟨inner, -, rfl⟩ := Option.map_eq_some_iff.mp hadd
    exact ⟨key, _, rfl, rfl, keeps_of_none hget⟩
  | case5 => cases hadd
  | case6 key rest items _ origin inner hget _ ih =>
    obtain ⟨grown, -, rfl⟩ := Option.map_eq_some_iff.mp hadd
    exact ⟨key, _, rfl, rfl, keeps_of_some hget .table⟩
  | case7 => cases hadd

theorem addValue_keeps (hadd : addValue v path items = some new) : Keeps items new := by
  obtain ⟨key, item, -, rfl, hkeeps⟩ := exists_put_of_addValue hadd
  exact keeps_put hkeeps

theorem within_keeps {change : Items → Option Items}
    (hchange : ∀ old new, change old = some new → Keeps old new)
    (hwithin : within change path items = some new) : Keeps items new := by
  fun_induction within change path items generalizing new with
  | case1 items => exact hchange _ _ hwithin
  | case2 items key rest origin inner hget ih =>
    obtain ⟨grown, -, rfl⟩ := Option.map_eq_some_iff.mp hwithin
    exact keeps_replace hget .table
  | case3 items key rest last others hget ih =>
    obtain ⟨grown, hgrown, rfl⟩ := Option.map_eq_some_iff.mp hwithin
    exact keeps_replace hget (keeps_last (ih hgrown))
  | case4 => cases hwithin

/-- Opening a header puts an item under the first of its keys.  If the last step keeps what
it opens, the item keeps what stood there. -/
theorem exists_put_of_openHeader {final : Option Item → Option Item}
    (hopen : openHeader final path items = some new) :
    ∃ key item, path.head? = some key ∧ new = put items key item ∧
      ((∀ old new, final (some old) = some new → old.Keeps new) →
        ∀ old, get? items key = some old → old.Keeps item) := by
  fun_induction openHeader final path items generalizing new with
  | case1 => cases hopen
  | case2 key items =>
    obtain ⟨item, hitem, rfl⟩ := Option.map_eq_some_iff.mp hopen
    refine ⟨key, item, rfl, rfl, fun hfinal old hold => ?_⟩
    rw [hold] at hitem
    exact hfinal old item hitem
  | case3 key rest items _ hget ih =>
    obtain ⟨inner, -, rfl⟩ := Option.map_eq_some_iff.mp hopen
    exact ⟨key, _, rfl, rfl, fun _ => keeps_of_none hget⟩
  | case4 key rest items _ origin inner hget ih =>
    obtain ⟨grown, -, rfl⟩ := Option.map_eq_some_iff.mp hopen
    exact ⟨key, _, rfl, rfl, fun _ => keeps_of_some hget .table⟩
  | case5 key rest items _ last others hget ih =>
    obtain ⟨grown, hgrown, rfl⟩ := Option.map_eq_some_iff.mp hopen
    obtain ⟨_, _, -, rfl, hkeeps⟩ := ih hgrown
    exact ⟨key, _, rfl, rfl, fun hfinal =>
      keeps_of_some hget (keeps_last (keeps_put (hkeeps hfinal)))⟩
  | case6 => cases hopen

theorem openHeader_keeps {final : Option Item → Option Item}
    (hfinal : ∀ old new, final (some old) = some new → old.Keeps new)
    (hopen : openHeader final path items = some new) : Keeps items new := by
  obtain ⟨key, item, -, rfl, hkeeps⟩ := exists_put_of_openHeader hopen
  exact keeps_put (hkeeps hfinal)

theorem mem_keys_put_self : key ∈ keys (put items key item) := mem_keys_put.mpr (.inl rfl)

/-- A value that has been added stands under the first of its keys. -/
theorem head_mem_of_addValue (hadd : addValue v path items = some new)
    (hhead : path.head? = some key) : key ∈ keys new := by
  obtain ⟨first, item, hfirst, rfl, -⟩ := exists_put_of_addValue hadd
  rw [hhead] at hfirst
  cases hfirst
  exact mem_keys_put_self

/-- A header opens something under the first of its keys. -/
theorem head_mem_of_openHeader {final : Option Item → Option Item}
    (hopen : openHeader final path items = some new) (hhead : path.head? = some key) :
    key ∈ keys new := by
  obtain ⟨first, item, hfirst, rfl, -⟩ := exists_put_of_openHeader hopen
  rw [hhead] at hfirst
  cases hfirst
  exact mem_keys_put_self

/-- Values that have been added one after the other have taken nothing away. -/
theorem foldlM_addValue_keeps {pairs : List (List String × Value)}
    (hadd : pairs.foldlM (fun items p => addValue p.2 p.1 items) items = some new) :
    Keeps items new := by
  induction pairs generalizing items with
  | nil =>
    cases hadd
    exact .refl _
  | cons p pairs ih =>
    obtain ⟨next, hnext, hrest⟩ := Option.bind_eq_some_iff.mp hadd
    exact (addValue_keeps hnext).trans (ih hrest)

theorem mem_keys_of_foldlM {pairs : List (List String × Value)} {p : List String × Value}
    (hmem : p ∈ pairs) (hhead : p.1.head? = some key)
    (hadd : pairs.foldlM (fun items p => addValue p.2 p.1 items) items = some new) :
    key ∈ keys new := by
  induction pairs generalizing items with
  | nil => cases hmem
  | cons q pairs ih =>
    obtain ⟨next, hnext, hrest⟩ := Option.bind_eq_some_iff.mp hadd
    rcases List.mem_cons.mp hmem with rfl | hmem
    · exact (foldlM_addValue_keeps hrest).keys_subset (head_mem_of_addValue hnext hhead)
    · exact ih hmem hrest

end Items

/-! ## Lines -/

variable {state state' : List String × Items} {line : Line} {lines : List Line}

theorem openTable_keeps (hopen : Items.openTable path items = some new) :
    Items.Keeps items new := by
  refine Items.openHeader_keeps (fun old new hfinal => ?_) hopen
  cases old with
  | value v => cases hfinal
  | table origin inner =>
    cases origin with
    | passed =>
      cases hfinal
      exact .table
    | dotted | opened => cases hfinal
  | tables elements => cases hfinal

theorem openElement_keeps (hopen : Items.openElement path items = some new) :
    Items.Keeps items new := by
  refine Items.openHeader_keeps (fun old new hfinal => ?_) hopen
  cases old with
  | value v => cases hfinal
  | table origin inner => cases hfinal
  | tables elements =>
    cases hfinal
    exact .tables fun e he => ⟨e, List.mem_cons_of_mem _ he, fun _ => id⟩

/-- A line adds to a document and takes nothing away. -/
theorem addLine_keeps (hadd : addLine state line = some state') :
    Items.Keeps state.2 state'.2 := by
  cases line with
  | pair path v =>
    obtain ⟨new, hnew, hstate⟩ := Option.bind_eq_some_iff.mp hadd
    cases hstate
    exact Items.within_keeps (fun _ _ => Items.addValue_keeps) hnew
  | table path =>
    obtain ⟨new, hnew, hstate⟩ := Option.bind_eq_some_iff.mp hadd
    cases hstate
    exact openTable_keeps hnew
  | element path =>
    obtain ⟨new, hnew, hstate⟩ := Option.bind_eq_some_iff.mp hadd
    cases hstate
    exact openElement_keeps hnew

theorem addLines_keeps (hadd : lines.foldlM addLine state = some state') :
    Items.Keeps state.2 state'.2 := by
  induction lines generalizing state with
  | nil =>
    cases hadd
    exact .refl _
  | cons line lines ih =>
    obtain ⟨next, hnext, hrest⟩ := Option.bind_eq_some_iff.mp hadd
    exact (addLine_keeps hnext).trans (ih hrest)

/-! ## Finished documents -/

theorem Table.mem_keys_of_get? {table : Table} (hget : Table.get? table key = some v) :
    key ∈ Table.keys table := by
  obtain ⟨e, hfind, -⟩ := Option.map_eq_some_iff.mp hget
  have hkey : e.1 = key := by simpa using List.find?_some hfind
  exact List.mem_map.mpr ⟨e, List.mem_of_find?_eq_some hfind, hkey⟩

namespace Items

theorem keys_toTable (items : Items) : Table.keys (toTable items) = keys items := by
  induction items with
  | nil => rfl
  | cons e items ih =>
    rw [toTable, Table.keys, List.map_cons]
    exact congrArg (e.1 :: ·) ih

theorem get?_toTable (items : Items) :
    Table.get? (toTable items) key = (get? items key).map Item.toValue := by
  induction items with
  | nil => rfl
  | cons e items ih =>
    rw [get?_cons, toTable, Table.get?, List.find?_cons]
    split_ifs with hkey
    · simp [hkey]
    · simp only [hkey, decide_false]
      exact ih

theorem toTables_eq_map (elements : List Items) :
    toTables elements = elements.map fun e => .table (toTable e) := by
  induction elements with
  | nil => rfl
  | cons e elements ih => rw [toTables, ih, List.map_cons]

theorem toTable_values (entries : List (String × Value)) :
    toTable (entries.map fun e => (e.1, Item.value e.2)) = entries := by
  induction entries with
  | nil => simp [toTable]
  | cons e entries ih => simp [toTable, Item.toValue, ih]

end Items

end Emend.Toml
