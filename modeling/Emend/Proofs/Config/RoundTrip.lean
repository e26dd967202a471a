import Emend.Proofs.Config.Stray
import Emend.Proofs.Config.Writing

/-!
# Configurations go round

What is written of a configuration, in any of the ways that documents allow, reads back
as it was, and a key too many makes the document unreadable.
-/

namespace Emend.Config

open Toml

/-- A configuration whose root is text can be written with any of its keys, and every such
document reads back as the configuration at these keys and as what is built in elsewhere.
No document with another key is read. -/
theorem ofText_roundTrip {config : Config} {root : String} (hvalid : config.validate = .ok ())
    (hroot : config.root = Path.ofString root) (path : Path) :
    (∀ keys : List ConfigKey, keys.Nodup → ∃ text, Writes config keys text) ∧
    (∀ keys text, Writes config keys text → ofText path text = .ok (config.onlyAt keys)) ∧
    ∀ cs text, Strays config cs → Marked cs text →
      ofText path text = .error (.configUnparsable path) :=
  ⟨fun _ hnodup => exists_writes hroot hnodup,
    fun _ _ hwrites => ofText_of_writes hvalid hwrites path,
    fun _ _ hstrays hmarked => ofText_of_strays hstrays hmarked path⟩

def sample : Config := ⟨Path.ofString "a", ["hx"], [⟨"\"", "\n"⟩]⟩

/-- The line of the root of the sample. -/
theorem writesLines_sample :
    WritesLines (WritesPiece sample) (Piece.settings [.root]) "root=\"a\"\n".toList := by
  have hkey : WritesKey "root" "root".toList := .of_all (by decide) (by decide)
  have htext : IsText 'a' := by
    unfold IsText
    decide
  have hinner : WritesText "a".toList ['a'] :=
    .cons (.plain htext (by decide) (by decide)) .nil
  have hstring : WritesString "a" "\"a\"".toList := .mk hinner
  have hpiece : WritesPiece sample (.setting .root) "root=\"a\"".toList :=
    .setting (.mk hkey Blanks.nil Blanks.nil (.root rfl hstring))
  exact .cons Filler.nil hpiece (.blanks Blanks.nil) .lineFeed .nil

/-- The sample with its root and its rules. -/
theorem writes_sample :
    Writes sample [.root, .rules] "root=\"a\"\nrules=[[\"\\\"\",\"\\n\"]]" := by
  have hkey : WritesKey "rules" "rules".toList := .of_all (by decide) (by decide)
  have hescape {c letter : Char} (hletter : (c, letter) ∈ letterEscapes) :
      WritesText [c] ['\\', letter] := .cons (.letter hletter) .nil
  have hinner : WritesText "\"".toList ['\\', '"'] :=
    hescape (show ('"', '"') ∈ letterEscapes by decide)
  have hinner' : WritesText "\n".toList ['\\', 'n'] :=
    hescape (show ('\n', 'n') ∈ letterEscapes by decide)
  have hmark : WritesString "\"" "\"\\\"\"".toList := .mk hinner
  have hlineFeed : WritesString "\n" "\"\\n\"".toList := .mk hinner'
  have hrule : WritesRule ⟨"\"", "\n"⟩ "[\"\\\"\",\"\\n\"]".toList :=
    .array (.mk (.last (.cons Filler.nil hmark Filler.nil .nil) Filler.nil hlineFeed Filler.nil))
  have hrules : WritesArray WritesRule sample.rules "[[\"\\\"\",\"\\n\"]]".toList :=
    .mk (.last .nil Filler.nil hrule Filler.nil)
  have hpiece : WritesPiece sample (.setting .rules) "rules=[[\"\\\"\",\"\\n\"]]".toList :=
    .setting (.mk hkey Blanks.nil Blanks.nil (.rules hrules))
  have hdocument : WritesDocument (WritesPiece sample) (Piece.settings [.root, .rules])
      "root=\"a\"\nrules=[[\"\\\"\",\"\\n\"]]".toList :=
    .last writesLines_sample Filler.nil hpiece (.blanks Blanks.nil)
  exact .mk (.settings (by decide)) hdocument .plain

theorem ofText_roundTrip_sample :
    sample.validate = .ok () ∧ sample.root = Path.ofString "a" ∧
      ofText [] "root=\"a\"\nrules=[[\"\\\"\",\"\\n\"]]" =
        .ok ⟨Path.ofString "a", ["hx"], [⟨"\"", "\n"⟩]⟩ ∧
      ofText [] "root=\"a\"\nRoot=\"a\"" = .error (.configUnparsable []) := by
  have hvalid : sample.validate = .ok () := rfl
  have hroot : sample.root = Path.ofString "a" := rfl
  obtain ⟨-, hreads, hrefuses⟩ := ofText_roundTrip hvalid hroot []
  have hstrays : Strays sample "root=\"a\"\nRoot=\"a\"".toList := by
    have hkey : WritesKey "Root" "Root".toList := .of_all (by decide) (by decide)
    exact .setting writesLines_sample Filler.nil (.mk hkey Blanks.nil (.inl rfl) _) (by decide)
  exact ⟨hvalid, hroot, hreads _ _ writes_sample, hrefuses _ _ hstrays .plain⟩

end Emend.Config
