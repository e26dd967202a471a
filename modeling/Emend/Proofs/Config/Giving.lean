import Emend.Proofs.Config.Faults
import Emend.Proofs.Config.Reading

/-!
# What a document gives

A document that is written from a configuration reads back as what was written, with
what is built in for the rest.
-/

namespace Emend

open Toml

theorem ConfigKey.name_injective : Function.Injective ConfigKey.name := by
  intro key other hname
  cases key <;> cases other <;> first | rfl | exact absurd hname (by decide)

namespace Config

variable {config : Config} {keys : List ConfigKey} {items : Items} {key : ConfigKey} {name : String}

/-! ## What a document gives -/

/-- Items that give what a configuration has under some keys. -/
structure Gives (config : Config) (keys : List ConfigKey) (items : Items) : Prop where
  exists_key : ∀ name ∈ Items.keys items, ∃ key ∈ keys, name = key.name
  holds : ∀ key ∈ keys, ∃ item, Items.get? items key.name = some item ∧
    Holds config (Items.Item.toValue item) key

theorem Gives.get?_eq_none (hgives : Gives config keys items) (hkey : key ∉ keys) :
    Items.get? items key.name = none := by
  rw [Items.get?_eq_none_iff]
  intro hname
  obtain ⟨other, hother, hsame⟩ := hgives.exists_key _ hname
  exact hkey (ConfigKey.name_injective hsame ▸ hother)

/-- Under a chosen key stands what the configuration has, and else nothing. -/
theorem Gives.given? {α : Type} {read : Value → Option α} {builtIn chosen : α}
    (hgives : Gives config keys items) (key : ConfigKey)
    (hread : ∀ v, Holds config v key → read v = some chosen) :
    given? (Items.toTable items) key.name read builtIn =
      some (if key ∈ keys then chosen else builtIn) := by
  rw [Config.given?, Items.get?_toTable]
  split_ifs with hkey
  · obtain ⟨item, hget, hholds⟩ := hgives.holds key hkey
    rw [hget]
    exact hread _ hholds
  · rw [hgives.get?_eq_none hkey]
    rfl

/-- Items that give a configuration are read back as what it has under their keys. -/
theorem Gives.ofTable (hgives : Gives config keys items) :
    ofTable? (Items.toTable items) = some (config.onlyAt keys) := by
  have hknown : (Table.keys (Items.toTable items)).all (· ∈ ["root", "extensions", "rules"]) := by
    rw [Items.keys_toTable, List.all_eq_true]
    intro name hname
    obtain ⟨key, -, rfl⟩ := hgives.exists_key name hname
    cases key <;> rfl
  have hroot : Config.given? (Items.toTable items) "root" (fun v => v.string?.map Path.ofString)
      builtIn.root = some (if .root ∈ keys then config.root else builtIn.root) :=
    hgives.given? .root fun v => id
  have hextensions : Config.given? (Items.toTable items) "extensions" Value.strings?
      builtIn.extensions =
        some (if .extensions ∈ keys then config.extensions else builtIn.extensions) :=
    hgives.given? .extensions fun v => id
  have hrules : Config.given? (Items.toTable items) "rules" rulesOfValue? builtIn.rules =
      some (if .rules ∈ keys then config.rules else builtIn.rules) :=
    hgives.given? .rules fun v => id
  rw [ofTable?, hroot, hextensions, hrules]
  simp only [hknown]
  rfl

/-! ## Settings -/

theorem gives_nil (config : Config) : Gives config [] [] := ⟨by simp [Items.keys], by simp⟩

/-- One more key of a configuration is given. -/
theorem Gives.put {item : Item} (hgives : Gives config keys items)
    (hholds : Holds config (Items.Item.toValue item) key) :
    Gives config (keys ++ [key]) (Items.put items key.name item) := by
  constructor
  · intro name hname
    rcases Items.mem_keys_put.mp hname with rfl | hname
    · exact ⟨key, by simp, rfl⟩
    · obtain ⟨other, hother, rfl⟩ := hgives.exists_key name hname
      exact ⟨other, List.mem_append_left _ hother, rfl⟩
  · intro other hother
    rw [Items.get?_put]
    split_ifs with hsame
    · rw [ConfigKey.name_injective hsame]
      exact ⟨item, rfl, hholds⟩
    · rcases List.mem_append.mp hother with hother | hother
      · exact hgives.holds other hother
      · rw [List.mem_singleton.mp hother] at hsame
        exact absurd rfl hsame

/-- Lines that give keys once give them in addition to what is given. -/
theorem foldlM_settings {more : List ConfigKey} {lines : List Line}
    (hgives : Gives config keys items) (hnodup : (keys ++ more).Nodup)
    (hlines : List.Forall₂ (Says config) lines (Piece.settings more)) :
    ∃ after, lines.foldlM addLine ([], items) = some ([], after) ∧
      Gives config (keys ++ more) after := by
  induction more generalizing keys items lines with
  | nil =>
    cases hlines
    exact ⟨items, rfl, by simpa using hgives⟩
  | cons key more ih =>
    cases hlines with
    | @cons line _ lines _ hline hlines =>
      obtain ⟨v, rfl, hv⟩ := hline
      have hnew : key ∉ keys := by
        intro hkey
        exact (List.nodup_append.mp hnodup).2.2 key hkey key (by simp) rfl
      have hholds : Holds config (Items.Item.toValue (.value v)) key := by
        rw [Items.Item.toValue]
        exact hv
      have hadd : addLine ([], items) (.pair [key.name] v) =
          some ([], Items.put items key.name (.value v)) := by
        rw [addLine, Items.within, Items.addValue, hgives.get?_eq_none hnew]
        rfl
      obtain ⟨after, hfold, hafter⟩ := ih (hgives.put hholds) (by simpa using hnodup) hlines
      exact ⟨after, by rw [List.foldlM_cons, hadd]; exact hfold, by simpa using hafter⟩

/-! ## Sections -/

theorem toTable_strings (fields : List (String × String)) :
    Items.toTable (fields.map fun e => (e.1, Item.value (.string e.2))) =
      fields.map fun e => (e.1, Value.string e.2) := by
  have h := Items.toTable_values (fields.map fun e => (e.1, Value.string e.2))
  rwa [List.map_map] at h

/-- Rules whose sections have been read, under the key of the rules. -/
inductive Opened : List Rule → Option Item → Prop
  | missing : Opened [] none
  | tables {rules : List Rule} {elements : List Items}
      (helements : List.Forall₂
        (fun e rule => Rule.ofValue? (.table (Items.toTable e)) = some rule)
        elements.reverse rules) :
    Opened rules (some (.tables elements))

/-- Under all keys but that of the rules nothing has changed. -/
def SameBeside (items after : Items) : Prop :=
  ∀ name, name ≠ "rules" → Items.get? after name = Items.get? items name

theorem SameBeside.trans {first second third : Items} (h : SameBeside first second)
    (h' : SameBeside second third) : SameBeside first third :=
  fun name hname => (h' name hname).trans (h name hname)

theorem sameBeside_put (items : Items) (item : Item) :
    SameBeside items (Items.put items "rules" item) := by
  intro name hname
  rw [Items.get?_put, if_neg hname]

/-- A field that the last table does not have is added to it. -/
theorem addLine_field {field text : String} {last : Items} {others : List Items}
    (hrules : Items.get? items "rules" = some (.tables (last :: others)))
    (hnew : field ∉ Items.keys last) :
    addLine (["rules"], items) (.pair [field] (.string text)) =
      some (["rules"], Items.put items "rules"
        (.tables ((last ++ [(field, .value (.string text))]) :: others))) := by
  have hvalue : Items.addValue (.string text) [field] last =
      some (last ++ [(field, .value (.string text))]) := by
    rw [Items.addValue, Items.get?_eq_none_iff.mpr hnew, Items.put_of_new hnew]
  simp only [addLine, Items.within, hrules, hvalue]
  rfl

/-- The fields of a section are added to the last table. -/
theorem foldlM_fields {fields : List (String × String)} {lines : List Line} {last : Items}
    {others : List Items} (hrules : Items.get? items "rules" = some (.tables (last :: others)))
    (hnodup : (Items.keys last ++ fields.map Prod.fst).Nodup)
    (hlines : List.Forall₂ (Says config) lines (Piece.fields fields)) :
    ∃ after, lines.foldlM addLine (["rules"], items) = some (["rules"], after) ∧
      SameBeside items after ∧
      Items.get? after "rules" = some (.tables
        ((last ++ fields.map fun e => (e.1, Item.value (.string e.2))) :: others)) := by
  induction fields generalizing items lines last with
  | nil =>
    cases hlines
    exact ⟨items, rfl, fun _ _ => rfl, by simpa using hrules⟩
  | cons e fields ih =>
    cases hlines with
    | @cons line _ lines _ hline hlines =>
      rw [Says] at hline
      subst hline
      have hnew : e.1 ∉ Items.keys last := by
        intro hkey
        exact (List.nodup_append.mp hnodup).2.2 _ hkey _ (by simp) rfl
      have hkeys : Items.keys (last ++ [(e.1, Item.value (.string e.2))]) =
          Items.keys last ++ [e.1] := by simp [Items.keys]
      obtain ⟨after, hfold, hsame, hafter⟩ :=
        ih Items.get?_put_self (by rw [hkeys]; simpa using hnodup) hlines
      refine ⟨after, ?_, (sameBeside_put items _).trans hsame, by simpa using hafter⟩
      rw [List.foldlM_cons, addLine_field hrules hnew]
      exact hfold

theorem exists_append_of_forall₂ {α β : Type} {R : α → β → Prop} {as : List α} {bs cs : List β}
    (h : List.Forall₂ R as (bs ++ cs)) :
    ∃ front back, as = front ++ back ∧ List.Forall₂ R front bs ∧ List.Forall₂ R back cs :=
  ⟨_, _, (List.take_append_drop bs.length as).symm, List.forall₂_take_append _ _ _ h,
    List.forall₂_drop_append _ _ _ h⟩

/-- A header opens an empty table at the end of the list. -/
theorem addLine_element {path : List String} {rules : List Rule}
    (hopened : Opened rules (Items.get? items "rules")) :
    ∃ elements, List.Forall₂ (fun e rule => Rule.ofValue? (.table (Items.toTable e)) = some rule)
        elements.reverse rules ∧
      addLine (path, items) (.element ["rules"]) =
        some (["rules"], Items.put items "rules" (.tables ([] :: elements))) := by
  generalize hrules : Items.get? items "rules" = found at hopened
  cases hopened with
  | missing =>
    refine ⟨[], .nil, ?_⟩
    simp only [addLine, Items.openElement, Items.openHeader, hrules]
    rfl
  | @tables rules elements helements =>
    refine ⟨elements, helements, ?_⟩
    simp only [addLine, Items.openElement, Items.openHeader, hrules]
    rfl

/-- Sections add their rules one by one. -/
theorem foldlM_sections {path : List String} {done more : List Rule} {pieces : List Piece}
    {lines : List Line} (hopened : Opened done (Items.get? items "rules"))
    (hsections : Sections more pieces) (hlines : List.Forall₂ (Says config) lines pieces) :
    ∃ state, lines.foldlM addLine (path, items) = some state ∧ SameBeside items state.2 ∧
      Opened (done ++ more) (Items.get? state.2 "rules") := by
  induction hsections generalizing items path done lines with
  | nil =>
    cases hlines
    exact ⟨(path, items), rfl, fun _ _ => rfl, by simpa using hopened⟩
  | @cons rule rules fields pieces hfields hmore ih =>
    cases hlines with
    | @cons line _ lines _ hline hlines =>
      rw [Says] at hline
      subst hline
      obtain ⟨own, others, rfl, hown, hothers⟩ := exists_append_of_forall₂ hlines
      obtain ⟨elements, helements, hopen⟩ := addLine_element hopened
      have hput : Items.get? (Items.put items "rules" (.tables ([] :: elements))) "rules" =
          some (.tables ([] :: elements)) := Items.get?_put_self
      obtain ⟨filled, hfill, hbeside, hfilled⟩ :=
        foldlM_fields hput (by simpa [Items.keys] using hfields.nodup) hown
      -- The last table stands first, so the rule is the last of those that are opened.
      have hnext : Opened (done ++ [rule]) (Items.get? filled "rules") := by
        rw [hfilled, List.nil_append]
        apply Opened.tables
        rw [List.reverse_cons]
        refine List.rel_append helements (.cons ?_ .nil)
        rw [toTable_strings]
        exact Rule.ofValue_of_fields hfields
      obtain ⟨state, hfold, hrest, hlast⟩ := ih hnext hothers
      refine ⟨state, ?_, (sameBeside_put items _).trans (hbeside.trans hrest), by simpa using hlast⟩
      rw [List.foldlM_cons, hopen]
      change ((own ++ others).foldlM addLine _) = _
      rw [List.foldlM_append, hfill]
      exact hfold

/-! ## Whole documents -/

/-- Sections, one at least, read back as their rules. -/
theorem Opened.exists_item {rules : List Rule} {found : Option Item}
    (hopened : Opened rules found) (hne : rules ≠ []) :
    ∃ item, found = some item ∧ rulesOfValue? (Items.Item.toValue item) = some rules := by
  cases hopened with
  | missing => exact absurd rfl hne
  | @tables rules elements helements =>
    refine ⟨_, rfl, ?_⟩
    rw [Items.Item.toValue, Items.toTables_eq_map, ← List.map_reverse]
    apply mapM_of_forall₂
    exact List.forall₂_map_left_iff.mpr helements

theorem Gives.sections {after : Items} (hgives : Gives config keys items) (hnew : .rules ∉ keys)
    (hbeside : SameBeside items after) (hne : config.rules ≠ [])
    (hopened : Opened config.rules (Items.get? after "rules")) :
    Gives config (keys ++ [.rules]) after := by
  constructor
  · intro name hname
    by_cases hrules : name = "rules"
    · exact ⟨.rules, by simp, hrules⟩
    · obtain ⟨item, hget⟩ := Items.exists_of_mem_keys hname
      rw [hbeside name hrules] at hget
      obtain ⟨key, hkey, hsame⟩ := hgives.exists_key name (Items.mem_keys_of_get? hget)
      exact ⟨key, List.mem_append_left _ hkey, hsame⟩
  · intro key hkey
    rcases List.mem_append.mp hkey with hkey | hkey
    · have hbut : key.name ≠ "rules" := by
        intro hname
        have hsame : key = .rules := ConfigKey.name_injective hname
        exact hnew (hsame ▸ hkey)
      rw [hbeside _ hbut]
      exact hgives.holds key hkey
    · rw [List.mem_singleton.mp hkey]
      exact hopened.exists_item hne

/-- Lines that lay out a configuration make up a table that reads back. -/
theorem Lays.ofLines {pieces : List Piece} {lines : List Line} (hlays : Lays config keys pieces)
    (hlines : List.Forall₂ (Says config) lines pieces) :
    (Table.ofLines? lines).bind ofTable? = some (config.onlyAt keys) := by
  have hgives : ∃ state, lines.foldlM addLine ([], []) = some state ∧
      Gives config keys state.2 := by
    cases hlays with
    | settings hnodup =>
      obtain ⟨after, hfold, hafter⟩ := foldlM_settings (gives_nil config) hnodup hlines
      exact ⟨_, hfold, hafter⟩
    | @sections keys pieces hnodup hne hsections =>
      obtain ⟨front, back, rfl, hfront, hback⟩ := exists_append_of_forall₂ hlines
      obtain ⟨hkeys, -, hnew⟩ := List.nodup_append.mp hnodup
      obtain ⟨items, hfold, hgives⟩ := foldlM_settings (gives_nil config) hkeys hfront
      rw [List.nil_append] at hgives
      have hrules : .rules ∉ keys := fun hkey => hnew _ hkey _ (List.mem_singleton_self _) rfl
      have hnone : Items.get? items "rules" = none := hgives.get?_eq_none hrules
      obtain ⟨state, hrest, hbeside, hopened⟩ :=
        foldlM_sections (hnone ▸ Opened.missing) hsections hback
      refine ⟨state, ?_, hgives.sections hrules hbeside hne hopened⟩
      rw [List.foldlM_append, hfold]
      exact hrest
  obtain ⟨state, hfold, hgives⟩ := hgives
  rw [Table.ofLines?, hfold]
  exact hgives.ofTable

/-! ## Texts -/

/-- A byte order mark makes no difference to what is read. -/
theorem ofText_of_marked {cs : List Char} {text : String} (hmarked : Marked cs text)
    (hmark : cs.head? ≠ some '\uFEFF') :
    Table.ofText? text =
      (readLines (cs.length + 1) (cs.length + 1) cs).bind Table.ofLines? := by
  cases hmarked with
  | plain =>
    rw [Table.ofText?, String.toList_ofList]
    split
    · exact absurd rfl hmark
    · rfl
  | mark =>
    rw [Table.ofText?, String.toList_ofList]
    rfl

theorem validate_onlyAt (hvalid : config.validate = .ok ()) (keys : List ConfigKey) :
    (config.onlyAt keys).validate = .ok () := by
  have hbuiltIn : builtIn.validate = .ok () := rfl
  obtain ⟨hne, hdots, hpatterns⟩ := validate_ok_iff.mp hvalid
  obtain ⟨hne', hdots', hpatterns'⟩ := validate_ok_iff.mp hbuiltIn
  apply validate_ok_iff.mpr
  simp only [onlyAt]
  split_ifs <;> exact ⟨by assumption, by assumption, by assumption⟩

/-- A document that gives what a configuration has under some keys reads back as that, with the
rest built in. -/
theorem ofText_of_writes {text : String} (hvalid : config.validate = .ok ())
    (hwrites : Writes config keys text) (path : Path) :
    ofText path text = .ok (config.onlyAt keys) := by
  obtain @⟨pieces, cs, _, hlays, hlines, hmarked⟩ := hwrites
  have heach := readsEach_piece (cs.length + 1) config
  have hmark := hlines.head_ne_mark fun _ _ => heach.begins
  obtain ⟨lines, htold, hread⟩ := heach.readDocument hlines (Nat.lt_succ_self _)
  obtain ⟨table, htable, hconfig⟩ := Option.bind_eq_some_iff.mp (hlays.ofLines htold)
  rw [ofText, ofText_of_marked hmarked hmark, hread, Option.bind_some, htable]
  simp only [hconfig, validate_onlyAt hvalid keys]
  rfl

end Config

end Emend
