import Emend.Proofs.Config.Spelling

/-!
# Every configuration can be written

There is a way to write every character, and so every string, every list and every
configuration whose root is text.
-/

namespace Emend

open Toml

variable {α : Type} {item : α → List Char → Prop} {as : List α} {c : Char} {text : String}
  {config : Config} {keys : List ConfigKey}

namespace Toml

/-! ## Strings -/

theorem digit?_digitChar : ∀ n < 16, Hex.digit? n.digitChar = some n := by
  decide

/-- Four digits are enough for a control character. -/
theorem exists_isHex {n : Nat} (hn : n < 256) :
    ∃ digits : List Char, digits.length = 4 ∧ IsHex digits n := by
  have hhigh := digit?_digitChar (n / 16) (by omega)
  have hlow := digit?_digitChar (n % 16) (by omega)
  refine ⟨['0', '0', (n / 16).digitChar, (n % 16).digitChar], rfl,
    [0, 0, n / 16, n % 16], ?_, ?_⟩
  · exact .cons rfl (.cons rfl (.cons hhigh (.cons hlow .nil)))
  · simp [Nat.ofDigits]
    omega

theorem exists_writesChar (c : Char) : ∃ written, WritesChar c written := by
  by_cases htext : IsText c
  · by_cases hmark : c = '"'
    · have hletter : ('"', '"') ∈ letterEscapes := by decide
      exact ⟨_, .letter (hmark ▸ hletter)⟩
    · by_cases hescape : c = '\\'
      · have hletter : ('\\', '\\') ∈ letterEscapes := by decide
        exact ⟨_, .letter (hescape ▸ hletter)⟩
      · exact ⟨_, .plain htext hmark hescape⟩
  · have hcode : c.toNat < 256 := by
      rw [IsText, not_or, not_and_or] at htext
      omega
    obtain ⟨digits, hlength, hdigits⟩ := exists_isHex hcode
    have hletter : ('u', digits.length) ∈ codeEscapes := by
      rw [hlength]
      decide
    exact ⟨_, .code hletter hdigits⟩

/-- Every text can be written as a basic string. -/
theorem exists_writesString (text : String) : ∃ written, WritesString text written := by
  have hinner (characters : List Char) : ∃ inner, WritesText characters inner := by
    induction characters with
    | nil => exact ⟨_, .nil⟩
    | cons c characters ih =>
      obtain ⟨more, hmore⟩ := ih
      obtain ⟨written, hwritten⟩ := exists_writesChar c
      exact ⟨_, .cons hwritten hmore⟩
  obtain ⟨inner, hinner⟩ := hinner text.toList
  exact ⟨_, ⟨hinner⟩⟩

/-! ## Lists -/

theorem exists_writesArray (hitems : ∀ a ∈ as, ∃ written, item a written) :
    ∃ written, WritesArray item as written := by
  have hfront : ∃ front, WritesFront item as front := by
    induction as with
    | nil => exact ⟨_, .nil⟩
    | cons a as ih =>
      obtain ⟨⟨written, ha⟩, has⟩ := List.forall_mem_cons.mp hitems
      obtain ⟨front, hfront⟩ := ih has
      exact ⟨_, .cons Filler.nil ha Filler.nil hfront⟩
  obtain ⟨front, hfront⟩ := hfront
  exact ⟨_, ⟨.closed hfront Filler.nil⟩⟩

theorem exists_writesDocument (hlines : ∀ a ∈ as, ∃ written, item a written) :
    ∃ written, WritesDocument item as written := by
  have hfront : ∃ front, WritesLines item as front := by
    induction as with
    | nil => exact ⟨_, .nil⟩
    | cons a as ih =>
      obtain ⟨⟨written, ha⟩, has⟩ := List.forall_mem_cons.mp hlines
      obtain ⟨front, hfront⟩ := ih has
      exact ⟨_, .cons Filler.nil ha (.blanks Blanks.nil) .lineFeed hfront⟩
  obtain ⟨front, hfront⟩ := hfront
  exact ⟨_, .ended hfront Filler.nil (.blanks Blanks.nil)⟩

end Toml

/-! ## Configurations -/

theorem exists_writesRule (rule : Rule) : ∃ written, WritesRule rule written := by
  obtain ⟨written, hwritten⟩ := exists_writesArray fun text _ =>
    exists_writesString text
  exact ⟨written, .array hwritten⟩

namespace Config

theorem exists_writesSetting (hroot : config.root = Path.ofString text) (key : ConfigKey) :
    ∃ written, WritesSetting config key written := by
  cases key with
  | root =>
    obtain ⟨written, hwritten⟩ := exists_writesString text
    exact ⟨written, .root hroot hwritten⟩
  | extensions =>
    obtain ⟨written, hwritten⟩ := exists_writesArray fun text _ => exists_writesString text
    exact ⟨written, .extensions hwritten⟩
  | rules =>
    obtain ⟨written, hwritten⟩ := exists_writesArray fun rule _ => exists_writesRule rule
    exact ⟨written, .rules hwritten⟩

theorem exists_writesPiece (hroot : config.root = Path.ofString text) (key : ConfigKey) :
    ∃ written, WritesPiece config (.setting key) written := by
  obtain ⟨written, hwritten⟩ := exists_writesSetting hroot key
  exact ⟨_, .setting (.mk key.writesKey Blanks.nil Blanks.nil hwritten)⟩

/-- A configuration whose root is text can be written with any of its keys. -/
theorem exists_writes (hroot : config.root = Path.ofString text) (hnodup : keys.Nodup) :
    ∃ document, Writes config keys document := by
  have hpieces : ∀ piece ∈ Piece.settings keys, ∃ written, WritesPiece config piece written := by
    intro piece hpiece
    obtain ⟨key, -, rfl⟩ := List.mem_map.mp hpiece
    exact exists_writesPiece hroot key
  obtain ⟨written, hwritten⟩ := exists_writesDocument hpieces
  exact ⟨_, .mk (.settings hnodup) hwritten .plain⟩

end Config

end Emend
