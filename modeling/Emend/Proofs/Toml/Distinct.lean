import Mathlib.Data.List.Nodup
import Emend.Proofs.Toml.Growth

/-!
# Keys stand once

Whatever a line adds to a document, it is put under its key in the place of what is there.
So no key of a document stands twice, and what is found under a key is the one entry that
has it.
-/

namespace Emend.Toml

variable {key : String} {path : List String} {v : Value} {item : Item} {items new : Items}
  {text : String} {table : Table} {state state' : List String × Items} {line : Line}
  {lines : List Line}

/-! ## Documents -/

namespace Items

theorem nodup_put (hnodup : (keys items).Nodup) : (keys (put items key item)).Nodup := by
  by_cases hmem : key ∈ keys items
  · have hsame : keys (put items key item) = keys items := by
      rw [put_of_mem hmem, keys, keys, List.map_map]
      apply List.map_congr_left
      intro e he
      rw [Function.comp_apply]
      split_ifs with hkey
      · exact hkey.symm
      · rfl
    rwa [hsame]
  · have hnew : keys (put items key item) = (keys items).concat key := by
      rw [put_of_new hmem, keys, List.map_append, List.map_singleton, List.concat_eq_append]
      rfl
    rw [hnew]
    exact (List.nodup_concat _ _).mpr ⟨hmem, hnodup⟩

theorem addValue_nodup (hnodup : (keys items).Nodup) (hadd : addValue v path items = some new) :
    (keys new).Nodup := by
  obtain ⟨key, item, -, rfl, -⟩ := exists_put_of_addValue hadd
  exact nodup_put hnodup

theorem within_nodup {change : Items → Option Items}
    (hchange : ∀ new, change items = some new → (keys new).Nodup) (hnodup : (keys items).Nodup)
    (hwithin : within change path items = some new) : (keys new).Nodup := by
  cases path with
  | nil => exact hchange new hwithin
  | cons key rest =>
    rw [within] at hwithin
    split at hwithin
    · obtain ⟨inner, -, rfl⟩ := Option.map_eq_some_iff.mp hwithin
      exact nodup_put hnodup
    · obtain ⟨last, -, rfl⟩ := Option.map_eq_some_iff.mp hwithin
      exact nodup_put hnodup
    · cases hwithin

theorem openHeader_nodup {final : Option Item → Option Item} (hnodup : (keys items).Nodup)
    (hopen : openHeader final path items = some new) : (keys new).Nodup := by
  obtain ⟨key, item, -, rfl, -⟩ := exists_put_of_openHeader hopen
  exact nodup_put hnodup

end Items

/-- Adding a line leaves every key single. -/
theorem addLine_nodup (hnodup : (Items.keys state.2).Nodup)
    (hadd : addLine state line = some state') : (Items.keys state'.2).Nodup := by
  cases line with
  | pair path v =>
    obtain ⟨new, hnew, hstate⟩ := Option.bind_eq_some_iff.mp hadd
    cases hstate
    exact Items.within_nodup (fun _ => Items.addValue_nodup hnodup) hnodup hnew
  | table path | element path =>
    obtain ⟨new, hnew, hstate⟩ := Option.bind_eq_some_iff.mp hadd
    cases hstate
    exact Items.openHeader_nodup hnodup hnew

theorem addLines_nodup (hnodup : (Items.keys state.2).Nodup)
    (hadd : lines.foldlM addLine state = some state') : (Items.keys state'.2).Nodup := by
  induction lines generalizing state with
  | nil =>
    cases hadd
    exact hnodup
  | cons line lines ih =>
    obtain ⟨next, hnext, hrest⟩ := Option.bind_eq_some_iff.mp hadd
    exact ih (addLine_nodup hnodup hnext) hrest

/-! ## Tables -/

namespace Table

/-- No key of a document stands twice. -/
theorem nodup_of_ofText (htable : ofText? text = some table) : (keys table).Nodup := by
  obtain ⟨lines, -, hlines⟩ := Option.bind_eq_some_iff.mp htable
  obtain ⟨state, hstate, htoTable⟩ := Option.bind_eq_some_iff.mp hlines
  cases htoTable
  rw [Items.keys_toTable]
  refine addLines_nodup ?_ hstate
  exact List.nodup_nil

theorem get?_eq_none_iff : get? table key = none ↔ key ∉ keys table := by
  simp only [get?, keys, Option.map_eq_none_iff, List.find?_eq_none, List.mem_map,
    decide_eq_true_eq, not_exists, not_and]

theorem mem_of_get? (hget : get? table key = some v) : (key, v) ∈ table := by
  obtain ⟨e, hfind, rfl⟩ := Option.map_eq_some_iff.mp hget
  have hkey : e.1 = key := by simpa using List.find?_some hfind
  rw [← hkey]
  exact List.mem_of_find?_eq_some hfind

/-- What is found under a key is the entry that has it. -/
theorem get?_eq_some_iff (hnodup : (keys table).Nodup) :
    get? table key = some v ↔ (key, v) ∈ table := by
  refine ⟨mem_of_get?, fun hmem => ?_⟩
  cases hget : get? table key with
  | none => exact absurd (List.mem_map_of_mem hmem) (get?_eq_none_iff.mp hget)
  | some w =>
    have hsame := List.inj_on_of_nodup_map hnodup (mem_of_get? hget) hmem rfl
    cases hsame
    rfl

end Table

end Emend.Toml
