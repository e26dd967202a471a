/-!
# Steps that can fail

One step after another ends well exactly if both do.
-/

namespace Emend

variable {ε α β : Type} {first : Except ε α} {next : α → Except ε β} {b : β} {e : ε}

/-- What ends well has ended well so far. -/
theorem exists_of_bind_ok (hok : first >>= next = .ok b) : ∃ a, first = .ok a ∧ next a = .ok b := by
  cases first with
  | error e => cases hok
  | ok a => exact ⟨a, rfl, hok⟩

/-- What ends badly ended so at once or later. -/
theorem error_of_bind (herror : first >>= next = .error e) :
    first = .error e ∨ ∃ a, first = .ok a ∧ next a = .error e := by
  cases first with
  | error fault =>
    cases herror
    exact .inl rfl
  | ok a => exact .inr ⟨a, rfl, herror⟩

end Emend
