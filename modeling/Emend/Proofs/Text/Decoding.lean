import Mathlib.Data.Nat.Bitwise
import Emend.Text.Utf8

/-!
# Decoding and encoding

A byte string that decodes to a text is the encoding of that text, byte for byte.
Decoding takes every character in its shortest form only, so each piece of the
byte string is what encoding makes of the character read from it.
-/

namespace Emend.Utf8

variable {a b c d : UInt8} {code : Nat}

/-! ## Code points and their bytes -/

theorem toNat_charOfNat (hvalid : code.isValidChar) : (Char.ofNat code).val.toNat = code := by
  rw [Char.ofNat, dif_pos hvalid]
  rfl

theorem byte_eq {n : Nat} (heq : n = a.toNat) : UInt8.ofNat n = a := by
  rw [heq, UInt8.ofNat_toNat]

/-- Masking with ones keeps the last bits. -/
theorem toNat_mask (mask : UInt8) (size bits : Nat) (hsize : size = 2 ^ bits)
    (hmask : mask.toNat = size - 1) : (a &&& mask).toNat = a.toNat % size := by
  rw [UInt8.toNat_and, hmask, hsize, Nat.and_two_pow_sub_one_eq_mod]

theorem toNat_continuation : (a &&& 0x3F).toNat = a.toNat % 64 := toNat_mask 0x3F 64 6 rfl rfl

theorem assemble_two :
    assemble (a &&& 0x1F) [b] = Char.ofNat (a.toNat % 32 * 64 + b.toNat % 64) := by
  simp only [assemble, List.foldl_cons, List.foldl_nil, toNat_continuation]
  rw [toNat_mask 0x1F 32 5 rfl rfl]

theorem assemble_three :
    assemble (a &&& 0x0F) [b, c] =
      Char.ofNat ((a.toNat % 16 * 64 + b.toNat % 64) * 64 + c.toNat % 64) := by
  simp only [assemble, List.foldl_cons, List.foldl_nil, toNat_continuation]
  rw [toNat_mask 0x0F 16 4 rfl rfl]

theorem assemble_four :
    assemble (a &&& 0x07) [b, c, d] =
      Char.ofNat (((a.toNat % 8 * 64 + b.toNat % 64) * 64 + c.toNat % 64) * 64 +
        d.toNat % 64) := by
  simp only [assemble, List.foldl_cons, List.foldl_nil, toNat_continuation]
  rw [toNat_mask 0x07 8 3 rfl rfl]

/-! ## Encoding what was read as one character -/

theorem encodeChar_one (ha : a < 0x80) :
    String.utf8EncodeChar (Char.ofNat a.toNat) = [a] := by
  have hlt : a.toNat < 128 := ha
  have hvalid : a.toNat.isValidChar := .inl (by omega)
  simp only [String.utf8EncodeChar, toNat_charOfNat hvalid]
  rw [if_pos (by omega), byte_eq rfl]

theorem encodeChar_two (ha : 0xC2 ≤ a) (ha' : a < 0xE0) (hb : 0x80 ≤ b) (hb' : b ≤ 0xBF) :
    String.utf8EncodeChar (assemble (a &&& 0x1F) [b]) = [a, b] := by
  have hfirst : 194 ≤ a.toNat ∧ a.toNat < 224 := ⟨ha, ha'⟩
  have hsecond : 128 ≤ b.toNat ∧ b.toNat ≤ 191 := ⟨hb, hb'⟩
  have hvalid : (a.toNat % 32 * 64 + b.toNat % 64).isValidChar := .inl (by omega)
  rw [assemble_two]
  simp only [String.utf8EncodeChar, toNat_charOfNat hvalid]
  rw [if_neg (by omega), if_pos (by omega), byte_eq (a := a) (by omega),
    byte_eq (a := b) (by omega)]

theorem encodeChar_three (ha : 0xE0 ≤ a) (ha' : a < 0xF0) (hb : 0x80 ≤ b) (hb' : b ≤ 0xBF)
    (hlong : a = 0xE0 → 0xA0 ≤ b) (hsurrogate : a = 0xED → b ≤ 0x9F)
    (hc : 0x80 ≤ c) (hc' : c ≤ 0xBF) :
    String.utf8EncodeChar (assemble (a &&& 0x0F) [b, c]) = [a, b, c] := by
  have hfirst : 224 ≤ a.toNat ∧ a.toNat < 240 := ⟨ha, ha'⟩
  have hsecond : 128 ≤ b.toNat ∧ b.toNat ≤ 191 := ⟨hb, hb'⟩
  have hthird : 128 ≤ c.toNat ∧ c.toNat ≤ 191 := ⟨hc, hc'⟩
  have hlong' : a.toNat = 224 → 160 ≤ b.toNat := fun h => hlong (UInt8.toNat_inj.mp h)
  have hsurrogate' : a.toNat = 237 → b.toNat ≤ 159 := fun h => hsurrogate (UInt8.toNat_inj.mp h)
  have hvalid : ((a.toNat % 16 * 64 + b.toNat % 64) * 64 + c.toNat % 64).isValidChar := by
    rw [Nat.isValidChar]
    omega
  rw [assemble_three]
  simp only [String.utf8EncodeChar, toNat_charOfNat hvalid]
  rw [if_neg (by omega), if_neg (by omega), if_pos (by omega), byte_eq (a := a) (by omega),
    byte_eq (a := b) (by omega), byte_eq (a := c) (by omega)]

theorem encodeChar_four (ha : 0xF0 ≤ a) (ha' : a ≤ 0xF4) (hb : 0x80 ≤ b) (hb' : b ≤ 0xBF)
    (hlong : a = 0xF0 → 0x90 ≤ b) (hlast : a = 0xF4 → b ≤ 0x8F)
    (hc : 0x80 ≤ c) (hc' : c ≤ 0xBF) (hd : 0x80 ≤ d) (hd' : d ≤ 0xBF) :
    String.utf8EncodeChar (assemble (a &&& 0x07) [b, c, d]) = [a, b, c, d] := by
  have hfirst : 240 ≤ a.toNat ∧ a.toNat ≤ 244 := ⟨ha, ha'⟩
  have hsecond : 128 ≤ b.toNat ∧ b.toNat ≤ 191 := ⟨hb, hb'⟩
  have hthird : 128 ≤ c.toNat ∧ c.toNat ≤ 191 := ⟨hc, hc'⟩
  have hfourth : 128 ≤ d.toNat ∧ d.toNat ≤ 191 := ⟨hd, hd'⟩
  have hlong' : a.toNat = 240 → 144 ≤ b.toNat := fun h => hlong (UInt8.toNat_inj.mp h)
  have hlast' : a.toNat = 244 → b.toNat ≤ 143 := fun h => hlast (UInt8.toNat_inj.mp h)
  have hvalid : (((a.toNat % 8 * 64 + b.toNat % 64) * 64 + c.toNat % 64) * 64 +
      d.toNat % 64).isValidChar := by
    rw [Nat.isValidChar]
    omega
  rw [assemble_four]
  simp only [String.utf8EncodeChar, toNat_charOfNat hvalid]
  rw [if_neg (by omega), if_neg (by omega), if_neg (by omega), byte_eq (a := a) (by omega),
    byte_eq (a := b) (by omega), byte_eq (a := c) (by omega), byte_eq (a := d) (by omega)]

/-! ## Texts -/

variable {bytes : Bytes} {text : String} {chars : List Char}

/-- What the second byte must lie between, by the first one. -/
theorem secondRange_cases {low high : UInt8} {length : Nat}
    (hrange : secondRange? a = some (low, high, length)) :
    (0xC2 ≤ a ∧ a < 0xE0 ∧ low = 0x80 ∧ high = 0xBF ∧ length = 2) ∨
    (0xE0 ≤ a ∧ a < 0xF0 ∧ 0x80 ≤ low ∧ high ≤ 0xBF ∧ (a = 0xE0 → low = 0xA0) ∧
      (a = 0xED → high = 0x9F) ∧ length = 3) ∨
    (0xF0 ≤ a ∧ a ≤ 0xF4 ∧ 0x80 ≤ low ∧ high ≤ 0xBF ∧ (a = 0xF0 → low = 0x90) ∧
      (a = 0xF4 → high = 0x8F) ∧ length = 4) := by
  unfold secondRange? at hrange
  split_ifs at hrange
  all_goals
    simp only [Option.some.injEq, Prod.mk.injEq] at hrange
    obtain ⟨rfl, rfl, rfl⟩ := hrange
    simp only [UInt8.le_iff_toNat_le, UInt8.lt_iff_toNat_lt, ← UInt8.toNat_inj,
      UInt8.reduceToNat] at *
    grind

theorem isContinuation_bounds (hnext : ¬(!isContinuation b) = true) : 0x80 ≤ b ∧ b ≤ 0xBF := by
  simpa [isContinuation] using hnext

theorem encode_of_pieces (hpieces : pieces bytes = chars.map .char) :
    chars.flatMap String.utf8EncodeChar = bytes := by
  have hhead {piece : Piece} {rest : List Piece} {chars : List Char}
      (hmap : piece :: rest = chars.map .char) :
      ∃ char tail, piece = .char char ∧ rest = tail.map .char ∧ chars = char :: tail := by
    obtain ⟨char, tail, rfl, hchar, htail⟩ := List.map_eq_cons_iff.mp hmap.symm
    exact ⟨char, tail, hchar.symm, htail.symm, rfl⟩
  fun_induction pieces bytes generalizing chars with
  | case1 =>
    have hnil : chars = [] := by simpa using hpieces.symm
    rw [hnil, List.flatMap_nil]
  | case2 a rest hascii ih =>
    obtain ⟨char, tail, hchar, htail, rfl⟩ := hhead hpieces
    cases hchar
    rw [List.flatMap_cons, ih htail, encodeChar_one hascii, List.singleton_append]
  | case6 a hascii low high b rest hbounds hrange ih =>
    obtain ⟨char, tail, hchar, htail, rfl⟩ := hhead hpieces
    cases hchar
    rw [not_or, UInt8.not_lt, UInt8.not_lt] at hbounds
    rcases secondRange_cases hrange with ⟨ha, ha', rfl, rfl, -⟩ | h | h
    · rw [List.flatMap_cons, ih htail, encodeChar_two ha ha' hbounds.1 hbounds.2]
      rfl
    · omega
    · omega
  | case9 a hascii low high b hbounds c rest hc hrange hlength ih =>
    obtain ⟨char, tail, hchar, htail, rfl⟩ := hhead hpieces
    cases hchar
    rw [not_or, UInt8.not_lt, UInt8.not_lt] at hbounds
    obtain ⟨hc, hc'⟩ := isContinuation_bounds hc
    rcases secondRange_cases hrange with h | ⟨ha, ha', hlow, hhigh, hlong, hsurrogate, -⟩ | h
    · omega
    · rw [List.flatMap_cons, ih htail,
        encodeChar_three ha ha' (UInt8.le_trans hlow hbounds.1) (UInt8.le_trans hbounds.2 hhigh)
          (fun h => hlong h ▸ hbounds.1) (fun h => hsurrogate h ▸ hbounds.2) hc hc']
      rfl
    · omega
  | case12 a hascii low high length hrange b hbounds htwo c hc hthree d rest hd ih =>
    obtain ⟨char, tail, hchar, htail, rfl⟩ := hhead hpieces
    cases hchar
    rw [not_or, UInt8.not_lt, UInt8.not_lt] at hbounds
    obtain ⟨hc, hc'⟩ := isContinuation_bounds hc
    obtain ⟨hd, hd'⟩ := isContinuation_bounds hd
    rcases secondRange_cases hrange with h | h | ⟨ha, ha', hlow, hhigh, hlong, hlast, -⟩
    · omega
    · omega
    · rw [List.flatMap_cons, ih htail,
        encodeChar_four ha ha' (UInt8.le_trans hlow hbounds.1) (UInt8.le_trans hbounds.2 hhigh)
          (fun h => hlong h ▸ hbounds.1) (fun h => hlast h ▸ hbounds.2) hc hc' hd hd']
      rfl
  | case3 | case4 | case5 | case7 | case8 | case10 | case11 =>
    obtain ⟨char, tail, hchar, -, -⟩ := hhead hpieces
    cases hchar

/-- Joining pieces succeeds on characters alone and keeps all of them. -/
theorem join_eq_ok {index : Nat} {done : List Char} {ps : List Piece}
    (hjoin : join index done ps = .ok chars) :
    ∃ read, ps = read.map .char ∧ chars = done.reverse ++ read := by
  induction ps generalizing index done with
  | nil =>
    cases hjoin
    exact ⟨[], rfl, by simp⟩
  | cons piece ps ih =>
    cases piece with
    | char c =>
      obtain ⟨read, rfl, rfl⟩ := ih hjoin
      exact ⟨c :: read, rfl, by simp⟩
    | invalid length => cases hjoin
    | incomplete => cases hjoin

/-- Nothing is lost when bytes are decoded. -/
theorem encode_of_decode (hdecode : decode bytes = .ok text) : encode text = bytes := by
  unfold decode at hdecode
  cases hjoin : join 0 [] (pieces bytes) with
  | error fault => simp [hjoin, Except.map] at hdecode
  | ok chars =>
    rw [hjoin] at hdecode
    cases hdecode
    obtain ⟨read, hpieces, rfl⟩ := join_eq_ok hjoin
    rw [encode, String.toList_ofList]
    exact encode_of_pieces hpieces

/-- Different texts have different bytes. -/
theorem encode_injective : Function.Injective encode := by
  intro first second hsame
  have hbytes : first.toList.utf8Encode = second.toList.utf8Encode :=
    congrArg List.toByteArray hsame
  rw [String.utf8Encode_toList, String.utf8Encode_toList] at hbytes
  exact String.toByteArray_inj.mp hbytes

end Emend.Utf8
