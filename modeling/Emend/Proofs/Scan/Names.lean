import Emend.Proofs.Config.Faults
import Emend.Proofs.Path.Descent
import Emend.Proofs.Text.Faults
import Emend.Proofs.Text.LowerCase
import Emend.Scan

/-!
# Names that a scan wants

Names and extensions are compared in lower case, each taken by itself.  For plain
extensions this comes to a test of the last bytes of a name.  Any other extension is met
in its own spelling too, except where a sigma ends a word in the name and not in the
extension.
-/

namespace Emend.Scanner

open Emend.Path (slash dot)
open Emend.LowerCase (Folds ofChars meetsCased opensFinal)

variable {root path : Path} {extensions : List String} {config : Config} {e stem : String}
  {name front spelled : Bytes} {letters chars : List Char}

/-- A path is wanted if the small form of its last name ends in that of an extension. -/
theorem wants_iff (hname : path.fileName? = some name) :
    (ofExtensions root extensions).wants path = true ↔
      ∃ e ∈ extensions, '.' :: ofChars (bareExtension e) <:+ ofChars (Path.display name).toList := by
  simp only [wants, hname, ofExtensions, List.any_map, List.any_eq_true, Function.comp_apply,
    List.isSuffixOf_iff_suffix]

theorem mem_of_mem_bareExtension {c : Char} (hc : c ∈ bareExtension e) : c ∈ e.toList :=
  (List.dropWhile_suffix _).subset hc

theorem display_ofString (text : String) : Path.display (Path.ofString text) = text := by
  rw [Path.display, Path.ofString, Utf8.encode, Utf8.lossy, Utf8.pieces_encode]
  simp [Function.comp_def]

/-! ## Plain extensions -/

/-- Bytes that spell some letters, each in capital or small form, where the Kelvin sign
counts as a k. -/
def Spells (letters : List Char) (bytes : Bytes) : Prop :=
  ∃ chars, List.Forall₂ Folds chars (letters.map Char.toLower) ∧
    bytes = chars.flatMap String.utf8EncodeChar

theorem display_of_dot (front : Bytes) (chars : List Char) :
    ∃ start, (Path.display (front ++ dot :: chars.flatMap String.utf8EncodeChar)).toList =
      start ++ '.' :: chars := by
  have hdot : dot < 0x80 := by decide
  have htext : dot :: chars.flatMap String.utf8EncodeChar =
      Path.ofString (String.ofList ('.' :: chars)) := by
    rw [Path.ofString, Utf8.encode, String.toList_ofList]
    rfl
  obtain ⟨start, hstart⟩ := Utf8.lossy_append hdot front (chars.flatMap String.utf8EncodeChar)
  refine ⟨start, ?_⟩
  rw [Path.display, hstart, htext, ← Path.display, display_ofString, String.toList_ofList]

/-- A dot and the letters behind it end the small form of every name that ends in them. -/
theorem suffix_of_spells (hascii : ∀ c ∈ letters, c.toNat < 0x80) (hspells : Spells letters spelled) :
    '.' :: ofChars letters <:+ ofChars (Path.display (front ++ dot :: spelled)).toList := by
  obtain ⟨chars, hfolds, rfl⟩ := hspells
  obtain ⟨start, hstart⟩ := display_of_dot front chars
  have hdot : Folds '.' '.' := .inl ⟨by decide, rfl⟩
  obtain ⟨image, himage⟩ := LowerCase.imageAfter_append [] start ('.' :: chars)
  rw [LowerCase.ofChars_ascii hascii, hstart, ofChars, himage,
    LowerCase.imageAfter_of_folds (.cons hdot hfolds)]
  exact List.suffix_append _ _

/-- Characters that are shown at the end of a name stand there if none of them is the
replacement character. -/
theorem exists_start_of_display {shown : List Char}
    (hshown : (Path.display name).toList = shown ++ chars)
    (hchars : ∀ c ∈ chars, c ≠ Utf8.replacement) :
    ∃ start, name = start ++ chars.flatMap String.utf8EncodeChar := by
  rw [Path.display, Utf8.lossy, String.toList_ofList, List.map_eq_append_iff] at hshown
  obtain ⟨first, second, hpieces, -, hsecond⟩ := hshown
  have hplain : second = chars.map .char := by
    rw [← hsecond, List.map_map]
    refine (List.map_id' second).symm.trans (List.map_congr_left fun piece hpiece => ?_)
    have hchar := hchars _ (hsecond ▸ List.mem_map_of_mem hpiece)
    cases piece with
    | char c => rfl
    | invalid length => exact absurd rfl hchar
    | incomplete => exact absurd rfl hchar
  rw [hplain] at hpieces
  exact Utf8.exists_start_of_pieces hpieces

/-- A name whose small form ends in a dot and plain letters ends so itself. -/
theorem exists_spells (hascii : ∀ c ∈ letters, c.toNat < 0x80)
    (hsuffix : '.' :: ofChars letters <:+ ofChars (Path.display name).toList) :
    ∃ front spelled, name = front ++ dot :: spelled ∧ Spells letters spelled := by
  rw [LowerCase.ofChars_ascii hascii] at hsuffix
  have hplain : ∀ t ∈ '.' :: letters.map Char.toLower, t.toNat < 0x80 := by
    simp only [List.forall_mem_cons, List.forall_mem_map]
    exact ⟨by decide, fun c hc => LowerCase.toLower_ascii (hascii c hc)⟩
  obtain ⟨shown, own, hshown, hown⟩ := (LowerCase.images_ofChars _).exists_folds hplain hsuffix
  have hkept : ∀ c ∈ own, c ≠ Utf8.replacement :=
    ((List.forall₂_and_left own _).mp
      (hown.imp fun _ _ hfolds => ⟨hfolds.ne_replacement, hfolds⟩)).1
  obtain ⟨front, rfl⟩ := exists_start_of_display hshown hkept
  cases hown with
  | @cons first _ chars _ hfirst hchars =>
    refine ⟨front, chars.flatMap String.utf8EncodeChar, ?_, chars, hchars, rfl⟩
    rw [hfirst.eq_dot]
    rfl

/-- With plain extensions, whether a path is wanted shows in the last bytes of its last name. -/
theorem wants_iff_spelled (hascii : ∀ e ∈ extensions, ∀ c ∈ e.toList, c.toNat < 0x80)
    (hname : path.fileName? = some name) :
    (ofExtensions root extensions).wants path = true ↔
      ∃ e ∈ extensions, ∃ front spelled,
        name = front ++ dot :: spelled ∧ Spells (bareExtension e) spelled := by
  rw [wants_iff hname]
  have hbare {e} (he : e ∈ extensions) : ∀ c ∈ bareExtension e, c.toNat < 0x80 :=
    fun c hc => hascii e he c (mem_of_mem_bareExtension hc)
  constructor
  · rintro ⟨e, he, hsuffix⟩
    exact ⟨e, he, exists_spells (hbare he) hsuffix⟩
  · rintro ⟨e, he, front, spelled, rfl, hspells⟩
    exact ⟨e, he, suffix_of_spells (hbare he) hspells⟩

/-- Bytes that are no text, a dot, a small m and the Kelvin sign. -/
def kelvinName : Name := [0xFF, 0x2E, 0x6D, 0xE2, 0x84, 0xAA]

theorem wants_iff_spelled_kelvin :
    (∀ e ∈ [".MK"], ∀ c ∈ e.toList, c.toNat < 0x80) ∧
      Path.fileName? (Path.join (Path.ofString "İ") kelvinName) = some kelvinName ∧
      (ofExtensions [] [".MK"]).wants (Path.join (Path.ofString "İ") kelvinName) = true := by
  have hall : ".MK".toList.all (fun c => decide (c.toNat < 0x80)) = true := by decide +kernel
  have hascii : ∀ e ∈ [".MK"], ∀ c ∈ e.toList, c.toNat < 0x80 := by
    intro e he c hc
    rw [List.mem_singleton.mp he] at hc
    exact of_decide_eq_true (List.all_eq_true.mp hall c hc)
  have hname : Path.fileName? (Path.join (Path.ofString "İ") kelvinName) = some kelvinName :=
    Path.fileName?_join _ (by decide)
  have hspells : Spells (bareExtension ".MK") [0x6D, 0xE2, 0x84, 0xAA] := by
    refine ⟨['m', '\u212A'], ?_, by decide⟩
    exact .cons (.inl ⟨by decide, by decide⟩) (.cons (.inr ⟨rfl, by decide⟩) .nil)
  exact ⟨hascii, hname,
    (wants_iff_spelled hascii hname).mpr ⟨".MK", by simp, [0xFF], _, rfl, hspells⟩⟩

/-! ## Extensions in their own spelling -/

def spelledName (stem extension : String) : Name :=
  Path.ofString (stem ++ "." ++ String.ofList (bareExtension extension))

/-- A sigma that is no final one in an extension by itself is final in the name: a letter
stands before the dot, and none behind the sigma. -/
def TurnsFinal (stem extension : String) : Prop :=
  meetsCased stem.toList.reverse = true ∧ opensFinal (bareExtension extension) = true

theorem spelledName_eq (stem e : String) :
    spelledName stem e = Path.ofString (String.ofList (stem.toList ++ '.' :: bareExtension e)) := by
  rw [spelledName]
  congr 1
  apply String.toList_injective
  simp

/-- A plain byte of a text is a character of it. -/
theorem mem_of_mem_ofString {text : String} {letter : UInt8} (hletter : letter < 0x80)
    (hmem : letter ∈ Path.ofString text) : Char.ofNat letter.toNat ∈ text.toList := by
  obtain ⟨before, after, hbytes⟩ := List.append_of_mem hmem
  obtain ⟨front, hfront⟩ := Utf8.pieces_append hletter before after
  have hpieces : text.toList.map Utf8.Piece.char =
      front ++ .char (Char.ofNat letter.toNat) :: Utf8.pieces after := by
    rw [← Utf8.pieces_encode, ← Utf8.encode, ← Path.ofString, hbytes, hfront,
      Utf8.pieces_one hletter]
  have hchar : Utf8.Piece.char (Char.ofNat letter.toNat) ∈ text.toList.map Utf8.Piece.char := by
    rw [hpieces]
    simp
  simpa using hchar

theorem bareExtension_ne_dot (e : String) : bareExtension e ≠ ['.'] := by
  intro hdot
  have hfirst := List.head?_dropWhile_not (fun c : Char => decide (c = '.')) e.toList
  rw [← bareExtension, hdot] at hfirst
  simp at hfirst

/-- The name of a file with an extension can stand in a path. -/
theorem spelledName_proper (hbare : bareExtension e ≠ []) (hslash : '/' ∉ e.toList)
    (hstem : '/' ∉ stem.toList) : (spelledName stem e).Proper := by
  have hpos : 0 < (bareExtension e).length := List.length_pos_of_ne_nil hbare
  have hshort (short : String) (hsame : spelledName stem e = Path.ofString short) :
      stem.toList ++ '.' :: bareExtension e = short.toList := by
    rw [spelledName_eq] at hsame
    rw [← Utf8.encode_injective hsame, String.toList_ofList]
  refine ⟨fun hnil => ?_, fun hmem => ?_, fun hdot => ?_, fun hdots => ?_⟩
  · have hlength := congrArg List.length (hshort "" hnil)
    simp at hlength
  · rw [spelledName_eq] at hmem
    have hchar := mem_of_mem_ofString (by decide) hmem
    rw [String.toList_ofList, List.mem_append, List.mem_cons] at hchar
    rcases hchar with hchar | hchar | hchar
    · exact hstem hchar
    · exact absurd hchar (by decide)
    · exact hslash (mem_of_mem_bareExtension hchar)
  · have hlength := congrArg List.length (hshort "." hdot)
    simp at hlength
    omega
  · have hchars := hshort ".." hdots
    have hlength := congrArg List.length hchars
    cases hletters : stem.toList with
    | nil =>
      rw [hletters] at hchars
      exact bareExtension_ne_dot e (List.cons.inj hchars).2
    | cons first rest =>
      rw [hletters] at hlength
      simp at hlength
      omega

/-- With an extension spelled as configured, a file is wanted just when its name in lower case
ends as some extension does. -/
theorem wants_spelledName_iff (root : Path) (extensions : List String) (directory : Path)
    (hbare : bareExtension e ≠ []) (hslash : '/' ∉ e.toList) (hstem : '/' ∉ stem.toList) :
    (ofExtensions root extensions).wants (directory.join (spelledName stem e)) = true ↔
      ∃ other ∈ extensions, '.' :: ofChars (bareExtension other) <:+
        ofChars (stem.toList ++ '.' :: bareExtension e) := by
  rw [wants_iff (Path.fileName?_join directory (spelledName_proper hbare hslash hstem)),
    spelledName_eq, display_ofString, String.toList_ofList]

/-- An accepted extension is met in its own spelling unless a sigma turns final, and then
it is not met by itself. -/
theorem wants_spelledName (hvalid : config.validate = .ok ()) (he : e ∈ config.extensions)
    (hslash : '/' ∉ e.toList) (hstem : '/' ∉ stem.toList) (directory : Path) :
    (¬TurnsFinal stem e →
        (ofConfig config).wants (directory.join (spelledName stem e)) = true) ∧
      (TurnsFinal stem e → (∀ other ∈ config.extensions, bareExtension other = bareExtension e) →
        (ofConfig config).wants (directory.join (spelledName stem e)) = false) := by
  have hbare : bareExtension e ≠ [] :=
    mt bareExtension_eq_nil_iff.mp ((Config.validate_ok_iff.mp hvalid).2.1 e he)
  have hiff := wants_spelledName_iff config.root config.extensions directory hbare hslash hstem
  have hsuffix := LowerCase.suffix_ofChars_iff stem.toList (bareExtension e)
  constructor
  · intro hkeeps
    exact hiff.mpr ⟨e, he, hsuffix.mpr hkeeps⟩
  · intro hturns honly
    rw [← Bool.not_eq_true, ofConfig, hiff]
    rintro ⟨other, hother, hends⟩
    rw [honly other hother] at hends
    exact hsuffix.mp hends hturns

def sigmaConfig : Config := ⟨Path.ofString "s", ["Σ"], []⟩

theorem wants_spelledName_sigma :
    sigmaConfig.validate = .ok () ∧ "Σ" ∈ sigmaConfig.extensions ∧ '/' ∉ "Σ".toList ∧
      ('/' ∉ "1".toList ∧ ¬TurnsFinal "1" "Σ" ∧
        (ofConfig sigmaConfig).wants (Path.join (Path.ofString "s") (spelledName "1" "Σ")) = true) ∧
      ('/' ∉ "x".toList ∧ TurnsFinal "x" "Σ" ∧
        (∀ other ∈ sigmaConfig.extensions, bareExtension other = bareExtension "Σ") ∧
        (ofConfig sigmaConfig).wants (Path.join (Path.ofString "s") (spelledName "x" "Σ")) =
          false) := by
  have hvalid : sigmaConfig.validate = .ok () := by decide +kernel
  have hmem : "Σ" ∈ sigmaConfig.extensions := by simp [sigmaConfig]
  have hslash : '/' ∉ "Σ".toList := by decide
  have hone : '/' ∉ "1".toList := by decide
  have hx : '/' ∉ "x".toList := by decide
  have hkeeps : ¬TurnsFinal "1" "Σ" := by
    unfold TurnsFinal
    decide +kernel
  have hturns : TurnsFinal "x" "Σ" := by
    unfold TurnsFinal
    decide +kernel
  have honly : ∀ other ∈ sigmaConfig.extensions, bareExtension other = bareExtension "Σ" := by
    simp [sigmaConfig]
  exact ⟨hvalid, hmem, hslash,
    ⟨hone, hkeeps, (wants_spelledName hvalid hmem hslash hone _).1 hkeeps⟩,
    hx, hturns, honly, (wants_spelledName hvalid hmem hslash hx _).2 hturns honly⟩

/-- Not every accepted extension is met in its own spelling. -/
theorem not_wants_spelledName : ¬∀ (config : Config) (e stem : String), config.validate = .ok () →
    e ∈ config.extensions → '/' ∉ e.toList → '/' ∉ stem.toList →
      (ofConfig config).wants (spelledName stem e) = true := by
  intro hall
  have hsigma := hall sigmaConfig "Σ" "x" (by decide +kernel) (by simp [sigmaConfig]) (by decide)
    (by decide)
  have hunmet : (ofConfig sigmaConfig).wants (spelledName "x" "Σ") = false := by decide +kernel
  rw [hunmet] at hsigma
  cases hsigma

end Emend.Scanner
