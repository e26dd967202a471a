import Emend.Proofs.Config.Spelling

/-!
# Reading written configurations

Each way to write a rule reads back as the rule, and each line of a document as what it
says.
-/

namespace Emend

open Toml

variable {limit depth : Nat} {config : Config} {rule : Rule} {fields : List (String × String)}
  {texts : List String} {rules : List Rule} {vs : List Value}

/-! ## Values -/

theorem eq_map_string (hvs : List.Forall₂ (fun v text => v = Value.string text) vs texts) :
    vs = texts.map .string := by
  induction hvs with
  | nil => rfl
  | cons hv hvs ih => rw [hv, ih, List.map_cons]

theorem mapM_of_forall₂ {α β : Type} {f : α → Option β} {as : List α} {bs : List β}
    (h : List.Forall₂ (fun a b => f a = some b) as bs) : as.mapM f = some bs := by
  induction h with
  | nil => rfl
  | cons ha has ih =>
    rw [List.mapM_cons, ha, ih]
    rfl

theorem strings_of_forall₂ (hvs : List.Forall₂ (fun v text => v = Value.string text) vs texts) :
    (Value.array vs).strings? = some texts := by
  apply mapM_of_forall₂
  apply hvs.imp
  rintro v text rfl
  rfl

/-- Entries that are read from the fields of a rule are the rule. -/
theorem Rule.ofValue_of_fields (hfields : rule.HasFields fields) :
    Rule.ofValue? (.table (fields.map fun e => (e.1, .string e.2))) = some rule := by
  cases hfields <;> rfl

theorem Rule.HasFields.nodup (hfields : rule.HasFields fields) : (fields.map Prod.fst).Nodup := by
  cases hfields <;> simp

theorem eq_map_fields {found : List (String × Value)}
    (hkeys : found.map Prod.fst = fields.map Prod.fst)
    (hfound : List.Forall₂ (fun v e => v.2 = Value.string e.2) found fields) :
    found = fields.map fun e => (e.1, .string e.2) := by
  induction hfound with
  | nil => rfl
  | @cons v e found fields hv hfound ih =>
    obtain ⟨hkey, hkeys⟩ := List.cons.inj hkeys
    rw [List.map_cons, ← ih hkeys, ← hkey, ← hv]

/-- A written rule reads back as the rule. -/
theorem readsEach_rule (limit depth : Nat) :
    ReadsEach limit WritesRule (readValue limit (depth + 1)) fun v rule =>
      Rule.ofValue? v = some rule where
  begins hwritten := by
    cases hwritten with
    | table hfields hwritten =>
      obtain ⟨hnodup, hinner⟩ := hwritten
      exact ⟨_, _, rfl, by decide⟩
    | array hwritten =>
      obtain ⟨hinner⟩ := hwritten
      exact ⟨_, _, rfl, by decide⟩
  reads hwritten hlimit := by
    cases hwritten with
    | table hfields hwritten =>
      obtain ⟨found, hkeys, hfound, hread⟩ :=
        hwritten.readValue (readsEach_string limit depth) hlimit
      refine ⟨_, ?_, fun rest _ => hread rest⟩
      rw [eq_map_fields hkeys hfound]
      exact Rule.ofValue_of_fields hfields
    | array hwritten =>
      obtain ⟨vs, hvs, hread⟩ := hwritten.readValue (readsEach_string limit depth) hlimit
      refine ⟨_, ?_, fun rest _ => hread rest⟩
      rw [eq_map_string hvs]
      rfl

namespace Config

/-- A value that reads back as what a configuration has under a key. -/
def Holds (config : Config) (v : Value) : ConfigKey → Prop
  | .root => v.string?.map Path.ofString = some config.root
  | .extensions => v.strings? = some config.extensions
  | .rules => rulesOfValue? v = some config.rules

/-- What is written under a key reads back as what the configuration has there. -/
theorem readsEach_setting (limit depth : Nat) (config : Config) :
    ReadsEach limit (WritesSetting config) (readValue limit (depth + 2)) (Holds config) where
  begins hwritten := by
    cases hwritten with
    | root hroot hwritten =>
      obtain ⟨more, rfl⟩ := hwritten.exists_cons
      exact ⟨_, _, rfl, by decide⟩
    | extensions hwritten | rules hwritten =>
      obtain ⟨hinner⟩ := hwritten
      exact ⟨_, _, rfl, by decide⟩
  reads hwritten hlimit := by
    cases hwritten with
    | @root text cs hroot hwritten =>
      have hvalue : (Value.string text).string?.map Path.ofString = some config.root :=
        congrArg some hroot.symm
      exact ⟨_, hvalue, fun rest hrest => hwritten.readValue hrest⟩
    | extensions hwritten =>
      obtain ⟨vs, hvs, hread⟩ := hwritten.readValue (readsEach_string limit (depth + 1)) hlimit
      exact ⟨_, strings_of_forall₂ hvs, fun rest _ => hread rest⟩
    | rules hwritten =>
      obtain ⟨vs, hvs, hread⟩ := hwritten.readValue (readsEach_rule limit depth) hlimit
      have hrules : rulesOfValue? (.array vs) = some config.rules := mapM_of_forall₂ hvs
      exact ⟨_, hrules, fun rest _ => hread rest⟩

theorem readLine_of_pair {α : Type} {item : α → List Char → Prop} {describes : Value → α → Prop}
    (heach : ReadsEach limit item (readValue limit depthLimit) describes) {e : String × α}
    {cs : List Char} (hwritten : WritesPair item e cs) (hlimit : cs.length < limit) :
    ∃ v, describes v e.2 ∧ ∀ rest, rest.head? ≠ some '"' →
      readLine limit (cs ++ rest) = some (.pair [e.1] v, rest) := by
  obtain ⟨⟨path, v⟩, ⟨hpath, hv⟩, hread⟩ :=
    (readsEach_pair passesBlanks_skipBlanks heach).reads hwritten hlimit
  obtain ⟨c, more, rfl, -, hopen⟩ := hwritten.beginsPair.exists_cons
  refine ⟨v, hv, fun rest hrest => ?_⟩
  have hpair := hread rest hrest
  rw [List.cons_append] at hpair ⊢
  rw [readLine_pair hopen, hpair, ← hpath]
  rfl

def Says (config : Config) (line : Line) : Piece → Prop
  | .setting key => ∃ v, line = .pair [key.name] v ∧ Holds config v key
  | .opening => line = .element ["rules"]
  | .field key text => line = .pair [key] (.string text)

/-- Every written line reads back as what it says. -/
theorem readsEach_piece (limit : Nat) (config : Config) :
    ReadsEach limit (WritesPiece config) (readLine limit) (Says config) where
  begins hwritten := by
    cases hwritten with
    | setting hwritten | field hwritten =>
      obtain ⟨c, more, rfl, hopens, -⟩ := hwritten.beginsPair.exists_cons
      exact ⟨c, more, rfl, hopens⟩
    | opening hwritten =>
      obtain ⟨hbefore, hkey, hafter⟩ := hwritten
      exact ⟨_, _, rfl, by decide⟩
  reads hwritten hlimit := by
    cases hwritten with
    | setting hwritten =>
      obtain ⟨v, hv, hread⟩ := readLine_of_pair (readsEach_setting limit _ config) hwritten hlimit
      exact ⟨_, ⟨v, rfl, hv⟩, hread⟩
    | opening hwritten => exact ⟨_, rfl, fun rest _ => hwritten.readLine rest⟩
    | field hwritten =>
      obtain ⟨v, hv, hread⟩ :=
        readLine_of_pair (readsEach_string limit depthLimit) hwritten hlimit
      subst hv
      exact ⟨_, rfl, hread⟩

end Config

end Emend
