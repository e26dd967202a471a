import Mathlib
import Emend.Proofs.Config.Faults
import Emend.Proofs.Config.Reading
import Emend.Proofs.Toml.Distinct

/-!
# What a document comes to

A document that is read gives a table of values.  The table is refused if a key or a value
is of no use to a configuration, then for the first fault of the configuration that it gives,
and else the configuration is accepted.  What stands behind the two texts of a rule does not
count.
-/

namespace Emend

open Toml

variable {path : Path} {text key : String} {table : Table} {v : Value} {values : List Value}
  {rule : Rule} {rules : List Rule} {config : Config} {texts : List String}
  {result : Except Error Config}

/-! ## Rules -/

/-- A value that describes a rule: a table of its two texts, or an array that begins with
them. -/
inductive DescribesRule : Value → Rule → Prop
  | table {entries : Table} {pattern replacement : String}
      (hentries : entries.Perm [("pattern", .string pattern), ("replacement", .string replacement)]) :
    DescribesRule (.table entries) ⟨pattern, replacement⟩
  | array {pattern replacement : String} {more : List Value} :
    DescribesRule (.array (.string pattern :: .string replacement :: more)) ⟨pattern, replacement⟩

theorem Toml.Value.string_eq_some_iff : v.string? = some text ↔ v = .string text := by
  cases v <;> simp [Value.string?]

theorem perm_of_fields {entries : Table} {first second : Value} (hlength : entries.length = 2)
    (hpattern : Table.get? entries "pattern" = some first)
    (hreplacement : Table.get? entries "replacement" = some second) :
    entries.Perm [("pattern", first), ("replacement", second)] := by
  have hnodup : [("pattern", first), ("replacement", second)].Nodup := by simp
  have hsubset : [("pattern", first), ("replacement", second)] ⊆ entries := by
    simp [Table.mem_of_get? hpattern, Table.mem_of_get? hreplacement]
  exact ((List.subperm_of_subset hnodup hsubset).perm_of_length_le hlength.le).symm

theorem DescribesRule.ofValue (hrule : DescribesRule v rule) : Rule.ofValue? v = some rule := by
  cases hrule with
  | @table entries pattern replacement hentries =>
    have hnodup : (Table.keys entries).Nodup := by
      rw [Table.keys, (hentries.map Prod.fst).nodup_iff]
      simp
    have hpattern : Table.get? entries "pattern" = some (.string pattern) := by
      rw [Table.get?_eq_some_iff hnodup, hentries.mem_iff]
      simp
    have hreplacement : Table.get? entries "replacement" = some (.string replacement) := by
      rw [Table.get?_eq_some_iff hnodup, hentries.mem_iff]
      simp
    simp only [Rule.ofValue?, hentries.length_eq, hpattern, hreplacement]
    rfl
  | array => rfl

/-- The values that are read as rules are those that describe them. -/
theorem ofValue_eq_some_iff : Rule.ofValue? v = some rule ↔ DescribesRule v rule := by
  refine ⟨fun hrule => ?_, DescribesRule.ofValue⟩
  unfold Rule.ofValue? at hrule
  split at hrule
  · next entries =>
    obtain ⟨_, hguard, hrule⟩ := Option.bind_eq_some_iff.mp hrule
    obtain ⟨first, hpattern, hrule⟩ := Option.bind_eq_some_iff.mp hrule
    obtain ⟨pattern, hfirst, hrule⟩ := Option.bind_eq_some_iff.mp hrule
    obtain ⟨second, hreplacement, hrule⟩ := Option.bind_eq_some_iff.mp hrule
    obtain ⟨replacement, hsecond, hrule⟩ := Option.bind_eq_some_iff.mp hrule
    cases hrule
    have hlength : entries.length = 2 := by
      by_contra hne
      simp [guard, hne] at hguard
    rw [Value.string_eq_some_iff.mp hfirst] at hpattern
    rw [Value.string_eq_some_iff.mp hsecond] at hreplacement
    exact .table (perm_of_fields hlength hpattern hreplacement)
  · cases hrule
    exact .array
  · cases hrule

/-! ## Arrays -/

theorem mapM_eq_some_iff {α β : Type} {f : α → Option β} {as : List α} {bs : List β} :
    as.mapM f = some bs ↔ List.Forall₂ (fun a b => f a = some b) as bs := by
  refine ⟨fun hbs => ?_, mapM_of_forall₂⟩
  induction as generalizing bs with
  | nil =>
    cases hbs
    exact .nil
  | cons a as ih =>
    rw [List.mapM_cons] at hbs
    obtain ⟨b, hb, hbs⟩ := Option.bind_eq_some_iff.mp hbs
    obtain ⟨rest, hrest, hbs⟩ := Option.bind_eq_some_iff.mp hbs
    cases hbs
    exact .cons hb (ih hrest)

/-- Items are read together if each of them is read. -/
theorem exists_mapM_iff {α β : Type} {f : α → Option β} {as : List α} :
    (∃ bs, as.mapM f = some bs) ↔ ∀ a ∈ as, ∃ b, f a = some b := by
  induction as with
  | nil => simp
  | cons a as ih =>
    rw [List.forall_mem_cons, ← ih]
    simp only [mapM_eq_some_iff, List.forall₂_cons_left_iff]
    constructor
    · rintro ⟨_, b, bs, hb, hbs, -⟩
      exact ⟨⟨b, hb⟩, bs, hbs⟩
    · rintro ⟨⟨b, hb⟩, bs, hbs⟩
      exact ⟨b :: bs, b, bs, hb, hbs, rfl⟩

theorem strings_eq_some_iff : v.strings? = some texts ↔ v = .array (texts.map .string) := by
  constructor
  · intro htexts
    unfold Value.strings? at htexts
    split at htexts
    · next items =>
      rw [mapM_eq_some_iff] at htexts
      rw [eq_map_string (htexts.imp fun _ _ => Value.string_eq_some_iff.mp)]
    · cases htexts
  · rintro rfl
    apply strings_of_forall₂
    rw [List.forall₂_map_left_iff, List.forall₂_same]
    exact fun _ _ => rfl

theorem rulesOfValue_eq_some_iff : Config.rulesOfValue? v = some rules ↔
    ∃ values, v = .array values ∧ List.Forall₂ DescribesRule values rules := by
  unfold Config.rulesOfValue?
  split
  · next items =>
    simp [mapM_eq_some_iff, ofValue_eq_some_iff]
  · next hnot =>
    exact iff_of_false (by simp) fun ⟨values, hvalues, _⟩ => hnot values hvalues

/-! ## Tables -/

namespace Config

/-- What is wrong with a table that gives no configuration. -/
inductive Misfit (table : Table) : Prop
  | stray {key : String} (hkey : key ∈ Table.keys table) (hstray : key ∉ ConfigKey.names)
  | root {v : Value} (hmem : ("root", v) ∈ table) (hv : ¬∃ text, v = .string text)
  | extensions {v : Value} (hmem : ("extensions", v) ∈ table)
      (hv : ¬∃ values, v = .array values ∧ ∀ value ∈ values, ∃ text, value = .string text)
  | rules {v : Value} (hmem : ("rules", v) ∈ table)
      (hv : ¬∃ values, v = .array values ∧ ∀ value ∈ values, ∃ rule, DescribesRule value rule)

/-- A configuration has what the table gives for a key, and what is built in where the table
gives nothing. -/
structure InEffect (table : Table) (config : Config) : Prop where
  root : (∃ text, ("root", .string text) ∈ table ∧ config.root = Path.ofString text) ∨
    "root" ∉ Table.keys table ∧ config.root = builtIn.root
  extensions : ("extensions", .array (config.extensions.map .string)) ∈ table ∨
    "extensions" ∉ Table.keys table ∧ config.extensions = builtIn.extensions
  rules : (∃ values, ("rules", .array values) ∈ table ∧
      List.Forall₂ DescribesRule values config.rules) ∨
    "rules" ∉ Table.keys table ∧ config.rules = builtIn.rules

section Given

variable {α : Type} {read : Value → Option α} {default chosen : α}

/-- A key gives what its one value is read as, or the default if it is not there. -/
theorem given_eq_some_iff (hnodup : (Table.keys table).Nodup) :
    given? table key read default = some chosen ↔
      (∃ v, (key, v) ∈ table ∧ read v = some chosen) ∨
        key ∉ Table.keys table ∧ chosen = default := by
  simp only [← Table.get?_eq_some_iff hnodup, ← Table.get?_eq_none_iff]
  unfold given?
  cases Table.get? table key <;> simp [eq_comm]

theorem given_eq_none_iff (hnodup : (Table.keys table).Nodup) :
    given? table key read default = none ↔ ∃ v, (key, v) ∈ table ∧ read v = none := by
  simp only [← Table.get?_eq_some_iff hnodup]
  unfold given?
  cases Table.get? table key <;> simp

end Given

theorem root_eq_none_iff :
    v.string?.map Path.ofString = none ↔ ¬∃ text, v = .string text := by
  rw [Option.map_eq_none_iff, Option.eq_none_iff_forall_ne_some]
  simp only [Ne, Value.string_eq_some_iff, not_exists]

theorem strings_eq_none_iff : v.strings? = none ↔
    ¬∃ values, v = .array values ∧ ∀ value ∈ values, ∃ text, value = .string text := by
  rw [← not_iff_not, not_not, ← Ne, Option.ne_none_iff_exists']
  cases v <;> simp [Value.strings?, exists_mapM_iff, Value.string_eq_some_iff]

theorem rulesOfValue_eq_none_iff : rulesOfValue? v = none ↔
    ¬∃ values, v = .array values ∧ ∀ value ∈ values, ∃ rule, DescribesRule value rule := by
  rw [← not_iff_not, not_not, ← Ne, Option.ne_none_iff_exists']
  cases v <;> simp [rulesOfValue?, exists_mapM_iff, ofValue_eq_some_iff]

theorem inEffect_iff (hnodup : (Table.keys table).Nodup) :
    InEffect table config ↔
      given? table "root" (fun v => v.string?.map Path.ofString) builtIn.root =
          some config.root ∧
        given? table "extensions" Value.strings? builtIn.extensions = some config.extensions ∧
        given? table "rules" rulesOfValue? builtIn.rules = some config.rules := by
  have hroot : (∃ v, ("root", v) ∈ table ∧ v.string?.map Path.ofString = some config.root) ↔
      ∃ text, ("root", .string text) ∈ table ∧ config.root = Path.ofString text := by
    simp only [Option.map_eq_some_iff, Value.string_eq_some_iff]
    constructor
    · rintro ⟨_, hmem, text, rfl, htext⟩
      exact ⟨text, hmem, htext.symm⟩
    · rintro ⟨text, hmem, htext⟩
      exact ⟨_, hmem, text, rfl, htext.symm⟩
  have hextensions : (∃ v, ("extensions", v) ∈ table ∧ v.strings? = some config.extensions) ↔
      ("extensions", .array (config.extensions.map .string)) ∈ table := by
    simp [strings_eq_some_iff]
  have hrules : (∃ v, ("rules", v) ∈ table ∧ rulesOfValue? v = some config.rules) ↔
      ∃ values, ("rules", .array values) ∈ table ∧
        List.Forall₂ DescribesRule values config.rules := by
    simp only [rulesOfValue_eq_some_iff]
    constructor
    · rintro ⟨_, hmem, values, rfl, hvalues⟩
      exact ⟨values, hmem, hvalues⟩
    · rintro ⟨values, hmem, hvalues⟩
      exact ⟨_, hmem, values, rfl, hvalues⟩
  simp only [given_eq_some_iff hnodup, hroot, hextensions, hrules]
  exact ⟨fun h => ⟨h.root, h.extensions, h.rules⟩, fun ⟨h, h', h''⟩ => ⟨h, h', h''⟩⟩

theorem misfit_iff (hnodup : (Table.keys table).Nodup) :
    Misfit table ↔ (∃ key ∈ Table.keys table, key ∉ ConfigKey.names) ∨
      given? table "root" (fun v => v.string?.map Path.ofString) builtIn.root = none ∨
      given? table "extensions" Value.strings? builtIn.extensions = none ∨
      given? table "rules" rulesOfValue? builtIn.rules = none := by
  simp only [given_eq_none_iff hnodup, root_eq_none_iff, strings_eq_none_iff,
    rulesOfValue_eq_none_iff]
  constructor
  · rintro (⟨hkey, hstray⟩ | ⟨hmem, hv⟩ | ⟨hmem, hv⟩ | ⟨hmem, hv⟩)
    · exact .inl ⟨_, hkey, hstray⟩
    · exact .inr (.inl ⟨_, hmem, hv⟩)
    · exact .inr (.inr (.inl ⟨_, hmem, hv⟩))
    · exact .inr (.inr (.inr ⟨_, hmem, hv⟩))
  · rintro (⟨key, hkey, hstray⟩ | ⟨v, hmem, hv⟩ | ⟨v, hmem, hv⟩ | ⟨v, hmem, hv⟩)
    · exact .stray hkey hstray
    · exact .root hmem hv
    · exact .extensions hmem hv
    · exact .rules hmem hv

theorem all_names_iff : (Table.keys table).all (· ∈ ["root", "extensions", "rules"]) = true ↔
    ∀ key ∈ Table.keys table, key ∈ ConfigKey.names := by
  simp only [List.all_eq_true, decide_eq_true_eq]
  rfl

/-- A table gives the configuration in effect, provided that no key is a stray one. -/
theorem ofTable_eq_some_iff (hnodup : (Table.keys table).Nodup) :
    ofTable? table = some config ↔
      (∀ key ∈ Table.keys table, key ∈ ConfigKey.names) ∧ InEffect table config := by
  rw [inEffect_iff hnodup, ← all_names_iff]
  constructor
  · intro hconfig
    obtain ⟨_, hguard, hconfig⟩ := Option.bind_eq_some_iff.mp hconfig
    obtain ⟨root, hroot, hconfig⟩ := Option.bind_eq_some_iff.mp hconfig
    obtain ⟨extensions, hextensions, hconfig⟩ := Option.bind_eq_some_iff.mp hconfig
    obtain ⟨rules, hrules, hconfig⟩ := Option.bind_eq_some_iff.mp hconfig
    cases hconfig
    refine ⟨?_, hroot, hextensions, hrules⟩
    by_contra hstray
    rw [guard, if_neg hstray] at hguard
    cases hguard
  · rintro ⟨hknown, hroot, hextensions, hrules⟩
    rw [ofTable?, hknown, hroot, hextensions, hrules]
    rfl

/-- A table gives no configuration just when something is wrong with it. -/
theorem ofTable_eq_none_iff (hnodup : (Table.keys table).Nodup) :
    ofTable? table = none ↔ Misfit table := by
  rw [misfit_iff hnodup]
  constructor
  · intro hnone
    by_contra hfits
    simp only [not_or, not_exists, not_and, not_not, ← Ne.eq_def, Option.ne_none_iff_exists']
      at hfits
    obtain ⟨hknown, ⟨root, hroot⟩, ⟨extensions, hextensions⟩, rules, hrules⟩ := hfits
    have heffect : InEffect table ⟨root, extensions, rules⟩ :=
      (inEffect_iff hnodup).mpr ⟨hroot, hextensions, hrules⟩
    rw [(ofTable_eq_some_iff hnodup).mpr ⟨hknown, heffect⟩] at hnone
    cases hnone
  · intro hmisfit
    rw [Option.eq_none_iff_forall_ne_some]
    intro config hconfig
    obtain ⟨hknown, heffect⟩ := (ofTable_eq_some_iff hnodup).mp hconfig
    obtain ⟨hroot, hextensions, hrules⟩ := (inEffect_iff hnodup).mp heffect
    rw [hroot, hextensions, hrules] at hmisfit
    rcases hmisfit with ⟨key, hkey, hstray⟩ | hnone | hnone | hnone
    · exact hstray (hknown key hkey)
    all_goals cases hnone

/-! ## Texts -/

/-- What a table that has been read comes to. -/
inductive Outcome (path : Path) (table : Table) : Except Error Config → Prop
  | misfit (hmisfit : Misfit table) : Outcome path table (.error (.configUnparsable path))
  | faulty {config : Config} {fault : ConfigFault} {reason : String} (hfits : ¬Misfit table)
      (heffect : InEffect table config) (hfault : FirstFault config fault reason) :
    Outcome path table (.error (.configInvalid fault))
  | accepted {config : Config} (hfits : ¬Misfit table) (heffect : InEffect table config)
      (hextensions : config.extensions ≠ []) (hdots : ∀ e ∈ config.extensions, ¬OnlyDots e)
      (hpatterns : ∀ rule ∈ config.rules, rule.pattern ≠ "") :
    Outcome path table (.ok config)

/-- Every table comes to something. -/
theorem exists_outcome (path : Path) (hnodup : (Table.keys table).Nodup) :
    ∃ result, Outcome path table result := by
  cases hconfig : ofTable? table with
  | none => exact ⟨_, .misfit ((ofTable_eq_none_iff hnodup).mp hconfig)⟩
  | some config =>
    have hfits : ¬Misfit table := by
      rw [← ofTable_eq_none_iff hnodup, hconfig]
      simp
    obtain ⟨-, heffect⟩ := (ofTable_eq_some_iff hnodup).mp hconfig
    cases hvalid : config.validate with
    | error e =>
      obtain ⟨fault, hfault, -⟩ := validate_eq_error_iff.mp hvalid
      obtain ⟨reason, hfirst⟩ := fault_eq_some_iff.mp hfault
      exact ⟨_, .faulty hfits heffect hfirst⟩
    | ok =>
      obtain ⟨hextensions, hdots, hpatterns⟩ := validate_ok_iff.mp hvalid
      exact ⟨_, .accepted hfits heffect hextensions hdots hpatterns⟩

theorem ofTable_of_inEffect (hnodup : (Table.keys table).Nodup) (hfits : ¬Misfit table)
    (heffect : InEffect table config) : ofTable? table = some config := by
  refine (ofTable_eq_some_iff hnodup).mpr ⟨fun key hkey => ?_, heffect⟩
  by_contra hstray
  exact hfits (.stray hkey hstray)

theorem Outcome.ofText_eq (htable : Table.ofText? text = some table)
    (houtcome : Outcome path table result) : ofText path text = result := by
  have hnodup := Table.nodup_of_ofText htable
  cases houtcome with
  | misfit hmisfit =>
    have hconfig := (ofTable_eq_none_iff hnodup).mpr hmisfit
    simp only [ofText, htable, hconfig]
  | faulty hfits heffect hfault =>
    have hconfig := ofTable_of_inEffect hnodup hfits heffect
    have hvalid := validate_eq_error_iff.mpr ⟨_, hfault.fault_eq, rfl⟩
    simp only [ofText, htable, hconfig, hvalid]
    rfl
  | accepted hfits heffect hextensions hdots hpatterns =>
    have hconfig := ofTable_of_inEffect hnodup hfits heffect
    have hvalid := validate_ok_iff.mpr ⟨hextensions, hdots, hpatterns⟩
    simp only [ofText, htable, hconfig, hvalid]
    rfl

/-- A text comes to what its table comes to, and to nothing else. -/
theorem ofText_eq_iff (htable : Table.ofText? text = some table) :
    ofText path text = result ↔ Outcome path table result := by
  obtain ⟨found, hfound⟩ := exists_outcome path (Table.nodup_of_ofText htable)
  constructor
  · rintro rfl
    rwa [hfound.ofText_eq htable]
  · exact Outcome.ofText_eq htable

/-- A text that is read comes to what its table comes to, and no other text is accepted. -/
theorem ofText_decides (path : Path) (text : String) :
    (Table.ofText? text = none → ofText path text = .error (.configUnparsable path)) ∧
      (∀ table, Table.ofText? text = some table →
        ∀ result, ofText path text = result ↔ Outcome path table result) ∧
      ∀ config fault reason, FirstFault config fault reason →
        (Error.configInvalid fault).message = "Invalid configuration: " ++ reason := by
  refine ⟨fun hnone => ?_, fun table htable result => ofText_eq_iff htable,
    fun config fault reason hfault => ?_⟩
  · rw [ofText, hnone]
  · rw [← hfault.reason_eq]
    rfl

def dotDocument : String := "extensions=['hx','.']"

def dotTable : Table := [("extensions", .array [.string "hx", .string "."])]

theorem ofText_decides_dot :
    Table.ofText? dotDocument = some dotTable ∧
      FirstFault ⟨builtIn.root, ["hx", "."], builtIn.rules⟩ (.bareDots ".")
        ("invalid extension \"" ++ "." ++ "\"") ∧
      ofText (Path.ofString "t") dotDocument = .error (.configInvalid (.bareDots ".")) ∧
      (Error.configInvalid (.bareDots ".")).message =
        "Invalid configuration: " ++ ("invalid extension \"" ++ "." ++ "\"") := by
  have htable : Table.ofText? dotDocument = some dotTable := by cbv
  have hfault : FirstFault ⟨builtIn.root, ["hx", "."], builtIn.rules⟩ (.bareDots ".")
      ("invalid extension \"" ++ "." ++ "\"") := by
    refine .bareDots (show _ = ["hx"] ++ "." :: [] from rfl) ?_ ?_ <;> simp [OnlyDots]
  have hfits : ¬Misfit dotTable := by
    rintro (⟨hkey, hstray⟩ | ⟨hmem, -⟩ | ⟨hmem, hv⟩ | ⟨hmem, -⟩)
    · rw [List.mem_singleton.mp hkey] at hstray
      exact hstray (by decide)
    · simp [dotTable] at hmem
    · obtain rfl := (Prod.mk.inj (List.mem_singleton.mp hmem)).2
      exact hv ⟨_, rfl, by simp⟩
    · simp [dotTable] at hmem
  have heffect : InEffect dotTable ⟨builtIn.root, ["hx", "."], builtIn.rules⟩ :=
    ⟨.inr ⟨by decide, rfl⟩, .inl (List.mem_singleton_self _), .inr ⟨by decide, rfl⟩⟩
  have hdecides := ofText_decides (Path.ofString "t") dotDocument
  exact ⟨htable, hfault, (hdecides.2.1 _ htable _).mpr (.faulty hfits heffect hfault),
    hdecides.2.2 _ _ _ hfault⟩

end Config

end Emend
