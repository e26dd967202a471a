import Emend.Pattern.Search

/-!
# Replacement templates

A replacement is text in which a dollar sign begins a reference to a capture group,
by number or by name, bare or in braces.  Two dollar signs stand for one, and a
dollar sign that begins no reference stands for itself.
-/

namespace Emend.Pattern

inductive TemplatePiece where
  | char (c : Char)
  | numbered (index : Nat)
  | named (name : List Char)
  deriving DecidableEq

abbrev Template := List TemplatePiece

namespace Template

/-- The characters of a bare reference. -/
def isNameChar (c : Char) : Bool := c.isAlphanum || c = '_'

def number? (digits : List Char) : Option Nat :=
  if digits.isEmpty || !digits.all Char.isDigit then none
  else some (digits.foldl (fun n c => n * 10 + (c.toNat - '0'.toNat)) 0)

/-- Digits, which may follow a plus sign, are the number of a group, and anything
else is a name. -/
def reference (text : List Char) : TemplatePiece :=
  let digits :=
    match text with
    | '+' :: digits => digits
    | digits => digits
  match number? digits with
  | some index => .numbered index
  | none => .named text

/-- Splits off a reference that follows a dollar sign. -/
def splitReference? : List Char → Option (List Char × List Char)
  | '\x7b' :: rest =>
    match rest.dropWhile (· ≠ '\x7d') with
    | _ :: after => some (rest.takeWhile (· ≠ '\x7d'), after)
    | [] => none
  | rest =>
    let name := rest.takeWhile isNameChar
    if name.isEmpty then none else some (name, rest.dropWhile isNameChar)

theorem length_splitReference? {cs name after : List Char}
    (hsplit : splitReference? cs = some (name, after)) : after.length ≤ cs.length := by
  have hdrop (p : Char → Bool) (l : List Char) : (l.dropWhile p).length ≤ l.length :=
    (List.dropWhile_suffix p).length_le
  unfold splitReference? at hsplit
  split at hsplit
  · split at hsplit
    · rename_i rest _ _ tail heq
      have := hdrop (· ≠ '\x7d') rest
      rw [heq] at this
      simp only [Option.some.injEq, Prod.mk.injEq] at hsplit
      obtain ⟨-, rfl⟩ := hsplit
      simp only [List.length_cons] at this ⊢
      omega
    · simp at hsplit
  · simp only [Option.ite_none_left_eq_some, Option.some.injEq, Prod.mk.injEq] at hsplit
    obtain ⟨-, -, rfl⟩ := hsplit
    exact hdrop _ _

def ofChars : List Char → Template
  | [] => []
  | '$' :: '$' :: rest => .char '$' :: ofChars rest
  | '$' :: rest =>
    match _hsplit : splitReference? rest with
    | some (name, after) => reference name :: ofChars after
    | none => .char '$' :: ofChars rest
  | c :: rest => .char c :: ofChars rest
termination_by cs => cs.length
decreasing_by
  · simp only [List.length_cons]; omega
  · have := length_splitReference? _hsplit
    simp only [List.length_cons]; omega
  · simp only [List.length_cons]; omega
  · simp only [List.length_cons]; omega

def ofText (text : String) : Template := ofChars text.toList

/-- The text that stands in the place of a match.  A name that no group has stands
for nothing. -/
def expand (template : Template) (names : List (String × Nat)) (text : Text) (m : Match) :
    List Char :=
  template.flatMap fun
    | .char c => [c]
    | .numbered index => m.group text index
    | .named name =>
      match names.find? (·.1 = String.ofList name) with
      | some (_, index) => m.group text index
      | none => []

end Template

end Emend.Pattern
