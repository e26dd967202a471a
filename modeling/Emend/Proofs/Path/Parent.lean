import Emend.Proofs.Path.Descent

/-!
# The parent of a path

Empty components and single dots do not count in a path, but for a dot that it starts
with.  Paths that differ in their last component only have the same parent.
-/

namespace Emend.Path

/-- What a path starts from: the root, or a dot that stands in its first place. -/
def anchor (path : Path) : List Bytes :=
  if isAbsolute path then [[slash]]
  else if (split path).head? = some [dot] then [[dot]]
  else []

/-- The components that count, each without slashes but for the root. -/
def components (path : Path) : List Bytes :=
  anchor path ++ (split path).filter fun c => c ≠ [] ∧ c ≠ [dot]

/-- The components of the parent.  Neither the root nor an empty path has one. -/
def parent? (path : Path) : Option (List Bytes) :=
  if components path = [] ∨ components path = [[slash]] then none
  else some (components path).dropLast

variable {path start last : Path} {name : Name}

/-- What a path starts from does not depend on what stands behind its last slash. -/
theorem anchor_append (hstart : start = [] ∨ start.getLast? = some slash)
    (hlast : slash ∉ last) (hne : last ≠ []) (hdot : last ≠ [dot]) :
    anchor (start ++ last) = anchor start := by
  rcases hstart with rfl | hslash
  · have hfirst : isAbsolute last = false := by
      cases last with
      | nil => exact absurd rfl hne
      | cons first rest =>
        have hfirst : first ≠ slash := fun heq => hlast (heq ▸ List.mem_cons_self)
        simp [isAbsolute, hfirst]
    have hsplit : split last = [last] := List.splitOn_eq_singleton hlast
    have hempty : anchor [] = [] := by
      decide
    rw [List.nil_append, hempty, anchor, hfirst, hsplit]
    simp [hdot]
  · obtain ⟨front, rfl⟩ : ∃ front, start = front ++ [slash] :=
      ⟨_, (List.dropLast_append_getLast? _ hslash).symm⟩
    have hsplit : split (front ++ [slash] ++ last) = split front ++ [last] := by
      rw [List.append_assoc, List.singleton_append, split, List.splitOn_append_cons_self,
        List.splitOn_eq_singleton hlast, split]
    have habsolute : isAbsolute (front ++ [slash] ++ last) = isAbsolute (front ++ [slash]) := by
      cases front <;> rfl
    have hhead : (split front ++ [last]).head? = (split front ++ [[]]).head? := by
      cases hfront : split front with
      | nil => exact absurd hfront (List.splitOn_ne_nil slash front)
      | cons first rest => rfl
    rw [anchor, anchor, habsolute, hsplit, split_slash, hhead]

theorem components_append {front : List Bytes}
    (hsplit : ∀ other, slash ∉ other → split (start ++ other) = front ++ [other])
    (hstart : start = [] ∨ start.getLast? = some slash)
    (hlast : slash ∉ last) (hne : last ≠ []) (hdot : last ≠ [dot]) :
    components (start ++ last) = components start ++ [last] := by
  have hkeep : [last].filter (fun c => c ≠ [] ∧ c ≠ [dot]) = [last] :=
    List.filter_cons_of_pos (decide_eq_true ⟨hne, hdot⟩)
  have hempty : split start = front ++ [[]] := by
    simpa using hsplit [] List.not_mem_nil
  rw [components, components, anchor_append hstart hlast hne hdot, hsplit last hlast, hempty,
    List.filter_append, List.filter_append, hkeep]
  simp

/-- The parent of a path whose last component counts is what stands before it. -/
theorem parent?_append {front : List Bytes}
    (hsplit : ∀ other, slash ∉ other → split (start ++ other) = front ++ [other])
    (hstart : start = [] ∨ start.getLast? = some slash)
    (hlast : slash ∉ last) (hne : last ≠ []) (hdot : last ≠ [dot]) :
    parent? (start ++ last) = some (components start) := by
  have hroot : components start ++ [last] ≠ [[slash]] := by
    intro heq
    have hlength : components start = [] := by
      simpa using congrArg List.length heq
    rw [hlength] at heq
    cases heq
    exact hlast List.mem_cons_self
  rw [parent?, components_append hsplit hstart hlast hne hdot,
    if_neg (not_or_intro (by simp) hroot), List.dropLast_concat]

/-- A longer last component leaves the parent as it is. -/
theorem parent?_longer {tail : Bytes} (hname : (split path).getLast? = some name)
    (hne : name ≠ []) (hdot : name ≠ [dot]) (hlonger : name ++ tail ≠ [dot])
    (htail : slash ∉ tail) : parent? (path ++ tail) = parent? path := by
  obtain ⟨start, last, front, rfl, hlast, hstart, hsplit⟩ := exists_last path
  obtain rfl : last = name := by
    simpa [hsplit last hlast] using hname
  rw [List.append_assoc, parent?_append hsplit hstart hlast hne hdot,
    parent?_append hsplit hstart (List.not_mem_append hlast htail) (by simp [hne]) hlonger]

end Emend.Path
