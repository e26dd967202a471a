import Emend.Proofs.Text.Decoding

/-!
# Reading back what was encoded

Encoding gives every character its shortest form, so that decoding takes it for one
piece.  Every text is therefore read back from its bytes.
-/

namespace Emend.Utf8

variable {a b c d : UInt8} {rest : Bytes}

/-! ## The bytes of one character -/

/-- A first byte of three leaves to the second one all that is neither too long a form
nor a surrogate. -/
theorem secondRange_three (ha : 0xE0 ≤ a) (ha' : a < 0xF0) :
    secondRange? a =
      some (if a = 0xE0 then 0xA0 else 0x80, if a = 0xED then 0x9F else 0xBF, 3) := by
  unfold secondRange?
  simp only [UInt8.le_iff_toNat_le, UInt8.lt_iff_toNat_lt, ← UInt8.toNat_inj,
    UInt8.reduceToNat] at *
  grind

theorem secondRange_four (ha : 0xF0 ≤ a) (ha' : a ≤ 0xF4) :
    secondRange? a =
      some (if a = 0xF0 then 0x90 else 0x80, if a = 0xF4 then 0x8F else 0xBF, 4) := by
  unfold secondRange?
  simp only [UInt8.le_iff_toNat_le, UInt8.lt_iff_toNat_lt, ← UInt8.toNat_inj,
    UInt8.reduceToNat] at *
  grind

theorem secondRange_two (ha : 0xC2 ≤ a) (ha' : a < 0xE0) :
    secondRange? a = some (0x80, 0xBF, 2) := by
  rw [secondRange?, if_neg (UInt8.not_lt.mpr ha), if_pos ha']

theorem not_ascii (ha : 0xC2 ≤ a) : ¬a < 0x80 :=
  UInt8.not_lt.mpr (UInt8.le_trans (by decide) ha)

theorem isContinuation_of_bounds (hb : 0x80 ≤ b) (hb' : b ≤ 0xBF) :
    ¬(!isContinuation b) = true := by
  simp [isContinuation, hb, hb']

theorem pieces_one (ha : a < 0x80) :
    pieces (a :: rest) = .char (Char.ofNat a.toNat) :: pieces rest := by
  rw [pieces.eq_def]
  exact if_pos ha

theorem pieces_two (ha : 0xC2 ≤ a) (ha' : a < 0xE0) (hb : 0x80 ≤ b) (hb' : b ≤ 0xBF) :
    pieces (a :: b :: rest) = .char (assemble (a &&& 0x1F) [b]) :: pieces rest := by
  have hbounds : ¬(b < 0x80 ∨ 0xBF < b) :=
    not_or.mpr ⟨UInt8.not_lt.mpr hb, UInt8.not_lt.mpr hb'⟩
  rw [pieces.eq_def]
  simp only [if_neg (not_ascii ha), secondRange_two ha ha', if_neg hbounds, if_true]

theorem pieces_three (ha : 0xE0 ≤ a) (ha' : a < 0xF0) (hb : 0x80 ≤ b) (hb' : b ≤ 0xBF)
    (hlong : a = 0xE0 → 0xA0 ≤ b) (hsurrogate : a = 0xED → b ≤ 0x9F)
    (hc : 0x80 ≤ c) (hc' : c ≤ 0xBF) :
    pieces (a :: b :: c :: rest) = .char (assemble (a &&& 0x0F) [b, c]) :: pieces rest := by
  have hbounds : ¬(b < (if a = 0xE0 then 0xA0 else 0x80) ∨
      (if a = 0xED then 0x9F else 0xBF) < b) := by
    rw [not_or, UInt8.not_lt, UInt8.not_lt]
    constructor <;> split_ifs with h
    · exact hlong h
    · exact hb
    · exact hsurrogate h
    · exact hb'
  rw [pieces.eq_def]
  simp only [if_neg (not_ascii (UInt8.le_trans (by decide) ha)), secondRange_three ha ha',
    if_neg hbounds, if_neg (isContinuation_of_bounds hc hc'),
    if_neg (show ¬3 = 2 by decide), if_true]

theorem pieces_four (ha : 0xF0 ≤ a) (ha' : a ≤ 0xF4) (hb : 0x80 ≤ b) (hb' : b ≤ 0xBF)
    (hlong : a = 0xF0 → 0x90 ≤ b) (hlast : a = 0xF4 → b ≤ 0x8F)
    (hc : 0x80 ≤ c) (hc' : c ≤ 0xBF) (hd : 0x80 ≤ d) (hd' : d ≤ 0xBF) :
    pieces (a :: b :: c :: d :: rest) =
      .char (assemble (a &&& 0x07) [b, c, d]) :: pieces rest := by
  have hbounds : ¬(b < (if a = 0xF0 then 0x90 else 0x80) ∨
      (if a = 0xF4 then 0x8F else 0xBF) < b) := by
    rw [not_or, UInt8.not_lt, UInt8.not_lt]
    constructor <;> split_ifs with h
    · exact hlong h
    · exact hb
    · exact hlast h
    · exact hb'
  rw [pieces.eq_def]
  simp only [if_neg (not_ascii (UInt8.le_trans (by decide) ha)), secondRange_four ha ha',
    if_neg hbounds, if_neg (isContinuation_of_bounds hc hc'),
    if_neg (isContinuation_of_bounds hd hd'), if_neg (show ¬4 = 2 by decide),
    if_neg (show ¬4 = 3 by decide)]

theorem char_eq {c : Char} {n : Nat} (heq : n = c.toNat) : Char.ofNat n = c := by
  rw [heq]
  exact Char.ofNat_toNat c

/-- A character is read back from its bytes, whatever follows them. -/
theorem pieces_encodeChar (c : Char) (rest : Bytes) :
    pieces (String.utf8EncodeChar c ++ rest) = .char c :: pieces rest := by
  have hvalid : c.toNat < 0xD800 ∨ 0xDFFF < c.toNat ∧ c.toNat < 0x110000 := c.valid
  have hcode : c.val.toNat = c.toNat := rfl
  simp only [String.utf8EncodeChar, hcode]
  split_ifs with hone htwo hthree
  · rw [List.singleton_append, pieces_one, char_eq]
    · simp; omega
    · simp [UInt8.lt_iff_toNat_lt]; omega
  · rw [List.cons_append, List.singleton_append, pieces_two, assemble_two, char_eq]
    all_goals simp [UInt8.lt_iff_toNat_lt, UInt8.le_iff_toNat_le]; omega
  · simp only [List.cons_append, List.nil_append]
    rw [pieces_three, assemble_three, char_eq]
    all_goals simp [UInt8.lt_iff_toNat_lt, UInt8.le_iff_toNat_le, ← UInt8.toNat_inj]; omega
  · simp only [List.cons_append, List.nil_append]
    rw [pieces_four, assemble_four, char_eq]
    all_goals simp [UInt8.le_iff_toNat_le, ← UInt8.toNat_inj]; omega

/-! ## Texts -/

/-- Encoded characters are decoded one by one. -/
theorem pieces_encode_append (chars : List Char) (rest : Bytes) :
    pieces (chars.flatMap String.utf8EncodeChar ++ rest) = chars.map .char ++ pieces rest := by
  induction chars with
  | nil => rfl
  | cons c chars ih =>
    rw [List.flatMap_cons, List.append_assoc, pieces_encodeChar, ih, List.map_cons,
      List.cons_append]

theorem pieces_encode (chars : List Char) :
    pieces (chars.flatMap String.utf8EncodeChar) = chars.map .char := by
  simpa [pieces] using pieces_encode_append chars []

theorem join_chars (index : Nat) (done chars : List Char) :
    join index done (chars.map .char) = .ok (done.reverse ++ chars) := by
  induction chars generalizing index done with
  | nil => simp [join]
  | cons c chars ih =>
    rw [List.map_cons, join, ih, List.reverse_cons, List.append_assoc, List.singleton_append]

/-- Every text is read back from its bytes. -/
theorem decode_encode (text : String) : decode (encode text) = .ok text := by
  rw [decode, encode, pieces_encode, join_chars, List.reverse_nil, List.nil_append]
  exact congrArg Except.ok String.ofList_toList

/-- A text whose bytes begin those of another text begins that text. -/
theorem toList_prefix_of_encode {part whole : String} (hbytes : encode part <+: encode whole) :
    part.toList <+: whole.toList := by
  obtain ⟨rest, hrest⟩ := hbytes
  have hpieces : part.toList.map Piece.char ++ pieces rest = whole.toList.map .char := by
    rw [← pieces_encode_append, ← pieces_encode]
    exact congrArg pieces hrest
  obtain ⟨first, second, hwhole, hfirst, -⟩ := List.map_eq_append_iff.mp hpieces.symm
  rw [hwhole, (List.map_inj_right fun _ _ => Piece.char.inj).mp hfirst]
  exact List.prefix_append _ _

end Emend.Utf8
