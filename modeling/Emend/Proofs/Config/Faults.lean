import Mathlib.Data.List.TakeWhile
import Emend.Error

/-!
# Faults of a configuration

A configuration is checked from its extensions to its rules, and the first fault found is
the one that is reported, by what it is about.
-/

namespace Emend

variable {config : Config} {extension : String} {fault : ConfigFault} {reason : String}
  {e : Error}

def OnlyDots (extension : String) : Prop := ∀ c ∈ extension.toList, c = '.'

theorem bareExtension_eq_nil_iff : bareExtension extension = [] ↔ OnlyDots extension := by
  simp [bareExtension, OnlyDots, List.dropWhile_eq_nil_iff]

namespace Config

/-- The fault that comes first, with the text that tells of it. -/
inductive FirstFault (config : Config) : ConfigFault → String → Prop
  | noExtension (hnone : config.extensions = []) :
    FirstFault config .noExtension "extensions must not be empty"
  | bareDots {before after : List String} {extension : String}
      (hextensions : config.extensions = before ++ extension :: after)
      (hbefore : ∀ e ∈ before, ¬OnlyDots e) (hdots : OnlyDots extension) :
    FirstFault config (.bareDots extension) ("invalid extension \"" ++ extension ++ "\"")
  | emptyPattern {before after : List Rule} {rule : Rule} (hsome : config.extensions ≠ [])
      (hextensions : ∀ e ∈ config.extensions, ¬OnlyDots e)
      (hrules : config.rules = before ++ rule :: after)
      (hbefore : ∀ r ∈ before, r.pattern ≠ "") (hempty : rule.pattern = "") :
    FirstFault config (.emptyPattern (before.length + 1))
      ("rule " ++ toString (before.length + 1) ++ " has an empty pattern")

theorem FirstFault.reason_eq (hfault : FirstFault config fault reason) : fault.reason = reason := by
  cases hfault <;> rfl

theorem find_bareDots_eq_none_iff :
    config.extensions.find? (fun e => (bareExtension e).isEmpty) = none ↔
      ∀ e ∈ config.extensions, ¬OnlyDots e := by
  simp [bareExtension_eq_nil_iff]

theorem find_bareDots_eq_some_iff :
    config.extensions.find? (fun e => (bareExtension e).isEmpty) = some extension ↔
      OnlyDots extension ∧ ∃ before after, config.extensions = before ++ extension :: after ∧
        ∀ e ∈ before, ¬OnlyDots e := by
  simp [List.find?_eq_some_iff_append, bareExtension_eq_nil_iff]

theorem FirstFault.fault_eq (hfault : FirstFault config fault reason) :
    config.fault? = some fault := by
  cases hfault with
  | noExtension hnone => rw [fault?, if_pos hnone]
  | @bareDots before after extension hextensions hbefore hdots =>
    have hfind := find_bareDots_eq_some_iff.mpr ⟨hdots, before, after, hextensions, hbefore⟩
    rw [fault?, if_neg (by simp [hextensions]), hfind]
  | @emptyPattern before after rule hsome hextensions hrules hbefore hempty =>
    have hindex : config.rules.findIdx? (fun rule => rule.pattern = "") = some before.length := by
      have hnone : before.findIdx? (fun rule => rule.pattern = "") = none := by
        simpa using hbefore
      rw [hrules, List.findIdx?_append, hnone, List.findIdx?_cons, if_pos (decide_eq_true hempty)]
      simp
    rw [fault?, if_neg hsome, find_bareDots_eq_none_iff.mpr hextensions, hindex]
    rfl

/-- The fault of a configuration is the one that comes first. -/
theorem fault_eq_some_iff :
    config.fault? = some fault ↔ ∃ reason, FirstFault config fault reason := by
  refine ⟨fun hfault => ?_, fun ⟨_, hfirst⟩ => hfirst.fault_eq⟩
  unfold fault? at hfault
  split at hfault
  · next hnone =>
    cases hfault
    exact ⟨_, .noExtension hnone⟩
  · next hsome =>
    split at hfault
    · next hfind =>
      cases hfault
      obtain ⟨hdots, before, after, hextensions, hbefore⟩ := find_bareDots_eq_some_iff.mp hfind
      exact ⟨_, .bareDots hextensions hbefore hdots⟩
    · next hfind =>
      obtain ⟨i, hindex, rfl⟩ := Option.map_eq_some_iff.mp hfault
      obtain ⟨hi, hempty, hbefore⟩ := List.findIdx?_eq_some_iff_getElem.mp hindex
      have hrules : config.rules =
          config.rules.take i ++ config.rules[i] :: config.rules.drop (i + 1) := by
        rw [← List.drop_eq_getElem_cons hi, List.take_append_drop]
      have hfirst : ∀ r ∈ config.rules.take i, r.pattern ≠ "" := by
        intro r hr
        obtain ⟨j, hj, rfl⟩ := List.mem_take_iff_getElem.mp hr
        simpa using hbefore j (by omega)
      have hfault := FirstFault.emptyPattern hsome (find_bareDots_eq_none_iff.mp hfind) hrules
        hfirst (of_decide_eq_true hempty)
      rw [List.length_take_of_le hi.le] at hfault
      exact ⟨_, hfault⟩

theorem validate_eq_error_iff :
    config.validate = .error e ↔
      ∃ fault, config.fault? = some fault ∧ e = .configInvalid fault := by
  rw [validate]
  cases config.fault? <;> simp [eq_comm]

/-- A configuration is accepted if no fault of the three kinds is in it. -/
theorem validate_ok_iff : config.validate = .ok () ↔
    config.extensions ≠ [] ∧ (∀ e ∈ config.extensions, ¬OnlyDots e) ∧
      ∀ rule ∈ config.rules, rule.pattern ≠ "" := by
  have hfault : config.validate = .ok () ↔ config.fault? = none := by
    rw [validate]
    cases config.fault? <;> simp
  rw [hfault, fault?]
  split_ifs with hnil
  · simp [hnil]
  · cases hfind : config.extensions.find? fun e => (bareExtension e).isEmpty with
    | some extension =>
      have hmem := List.mem_of_find?_eq_some hfind
      obtain ⟨hdots, -⟩ := find_bareDots_eq_some_iff.mp hfind
      exact iff_of_false (by simp) fun hall => hall.2.1 extension hmem hdots
    | none =>
      have hnone := find_bareDots_eq_none_iff.mp hfind
      simp only [Option.map_eq_none_iff, List.findIdx?_eq_none_iff]
      constructor
      · intro hrules
        exact ⟨hnil, hnone, fun rule hrule => of_decide_eq_false (hrules rule hrule)⟩
      · intro hall rule hrule
        exact decide_eq_false (hall.2.2 rule hrule)

end Config

end Emend
