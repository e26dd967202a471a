import Emend.Files
import Emend.Proofs.Tree.Entries

/-!
# The shape of a tree

Patching writes files and nothing else.  What it leaves alone is the shape of a
tree: its directories and its links.  Two trees of one shape can differ only in
which files there are and in what these hold.
-/

namespace Emend

@[simp]
theorem Entry.kind_file (content : Bytes) : (Entry.file content).kind = .file := rfl

@[simp]
theorem Entry.kind_directory : Entry.directory.kind = .directory := rfl

@[simp]
theorem Entry.kind_link (target : Path) : (Entry.link target).kind = .link := rfl

namespace Tree

/-- The trees have the same directories and the same links. -/
def SameShape (before after : Tree) : Prop :=
  ∀ location entry, entry.kind ≠ .file →
    (before.entry? location = some entry ↔ after.entry? location = some entry)

def IsOpen (tree : Tree) (location : Location) : Prop :=
  tree.entry? location = none ∨ ∃ content, tree.entry? location = some (.file content)

variable {tree first second third : Tree} {location : Location}

/-- A location is open unless a directory or a link stands there. -/
theorem isOpen_iff :
    tree.IsOpen location ↔ ∀ entry, tree.entry? location = some entry → entry.kind = .file := by
  constructor
  · rintro (hnone | ⟨content, hfile⟩) entry hentry
    · rw [hnone] at hentry
      cases hentry
    · rw [hfile] at hentry
      cases hentry
      rfl
  · intro hfile
    cases hentry : tree.entry? location with
    | none => exact .inl hentry
    | some entry =>
      cases entry with
      | file content => exact .inr ⟨content, hentry⟩
      | directory => cases hfile _ hentry
      | link target => cases hfile _ hentry

theorem IsOpen.ne_nil (hopen : tree.IsOpen location) : location ≠ [] := by
  rintro rfl
  rcases hopen with hnone | ⟨content, hfile⟩
  · simp at hnone
  · simp at hfile

namespace SameShape

theorem refl (tree : Tree) : tree.SameShape tree := fun _ _ _ => Iff.rfl

theorem symm (hshape : first.SameShape second) : second.SameShape first :=
  fun location entry hkind => (hshape location entry hkind).symm

theorem trans (hfirst : first.SameShape second) (hsecond : second.SameShape third) :
    first.SameShape third :=
  fun location entry hkind =>
    (hfirst location entry hkind).trans (hsecond location entry hkind)

theorem isOpen (hshape : first.SameShape second) (hopen : first.IsOpen location) :
    second.IsOpen location := by
  rw [isOpen_iff] at hopen ⊢
  intro entry hentry
  by_contra hkind
  exact hkind (hopen entry ((hshape location entry hkind).mpr hentry))

theorem linkFree (hshape : first.SameShape second) (hfree : first.LinkFree) :
    second.LinkFree := by
  intro location target hentry
  exact hfree location target ((hshape location _ (by simp)).mpr hentry)

end SameShape

/-- Writing a file where there is a file or nothing keeps the shape. -/
theorem sameShape_put {content : Bytes} (hopen : tree.IsOpen location) :
    tree.SameShape (tree.put location (.file content)) := by
  intro other entry hkind
  rw [entry_put hopen.ne_nil]
  split
  · rename_i heq
    constructor
    · intro hentry
      exact absurd (isOpen_iff.mp hopen entry (heq ▸ hentry)) hkind
    · intro hentry
      cases hentry
      exact absurd rfl hkind
  · exact Iff.rfl

end Tree

end Emend
