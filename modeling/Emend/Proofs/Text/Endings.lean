import Emend.Proofs.Text.Decoding
import Emend.Text.LowerCase

/-!
# The ends of texts

Plain letters at the end of a byte string are read as themselves, whatever stands
before them, and small ones stay as they are in lower case.
-/

namespace Emend

namespace Utf8

variable {tail : Bytes}

/-- A byte that begins no longer sequence follows no first byte either. -/
theorem ascii_not_second {a low high b : UInt8} {length : Nat}
    (hrange : secondRange? a = some (low, high, length)) (hascii : b < 0x80) :
    b < low ∨ high < b := by
  have hlow : 0x80 ≤ low := by
    rcases secondRange_cases hrange with ⟨-, -, rfl, -⟩ | ⟨-, -, hlow, -⟩ | ⟨-, -, hlow, -⟩
    · exact UInt8.le_refl _
    · exact hlow
    · exact hlow
  exact .inl (UInt8.lt_of_lt_of_le hascii hlow)

theorem ascii_not_continuation {b : UInt8} (hascii : b < 0x80) : isContinuation b = false := by
  simp [isContinuation, UInt8.not_le.mpr hascii]

theorem append_of_piece (piece : Piece) {whole rest : Bytes}
    (hpiece : pieces (whole ++ tail) = piece :: pieces (rest ++ tail))
    (hrest : ∃ front, pieces (rest ++ tail) = front ++ pieces tail) :
    ∃ front, pieces (whole ++ tail) = front ++ pieces tail := by
  obtain ⟨front, hfront⟩ := hrest
  exact ⟨piece :: front, by rw [hpiece, hfront, List.cons_append]⟩

/-- What follows a byte string is read as by itself if it begins with a plain letter. -/
theorem pieces_append {letter : UInt8} (hletter : letter < 0x80) (bytes tail : Bytes) :
    ∃ front, pieces (bytes ++ letter :: tail) = front ++ pieces (letter :: tail) := by
  have hnone : ∃ front, pieces ([] ++ letter :: tail) = front ++ pieces (letter :: tail) :=
    ⟨[], rfl⟩
  fun_induction pieces bytes with
  | case1 => exact hnone
  | case2 a rest hascii ih =>
    refine append_of_piece (.char (Char.ofNat a.toNat)) ?_ ih
    rw [List.cons_append, pieces.eq_def]
    simp [hascii]
  | case3 a rest hascii hrange ih =>
    refine append_of_piece (.invalid 1) ?_ ih
    rw [List.cons_append, pieces.eq_def]
    simp [hascii, hrange]
  | case4 a hascii low high length hrange =>
    refine append_of_piece (.invalid 1) ?_ hnone
    rw [List.singleton_append, pieces.eq_def]
    simp [hascii, hrange, ascii_not_second hrange hletter]
  | case5 a hascii low high length hrange b rest hbounds ih =>
    refine append_of_piece (.invalid 1) ?_ ih
    rw [List.cons_append, List.cons_append, pieces.eq_def]
    simp [hascii, hrange, hbounds]
  | case6 a hascii low high b rest hbounds hrange ih =>
    refine append_of_piece (.char (assemble (a &&& 0x1F) [b])) ?_ ih
    rw [List.cons_append, List.cons_append, pieces.eq_def]
    simp [hascii, hrange, hbounds]
  | case7 a hascii low high length hrange b hbounds htwo =>
    refine append_of_piece (.invalid 2) ?_ hnone
    rw [List.cons_append, List.singleton_append, pieces.eq_def]
    simp [hascii, hrange, hbounds, htwo, ascii_not_continuation hletter]
  | case8 a hascii low high length hrange b hbounds htwo c rest hc ih =>
    refine append_of_piece (.invalid 2) ?_ ih
    rw [List.cons_append, List.cons_append, List.cons_append, pieces.eq_def]
    simp only [if_neg hascii, hrange, if_neg hbounds, if_neg htwo, if_pos hc]
  | case9 a hascii low high b hbounds c rest hc hrange htwo ih =>
    refine append_of_piece (.char (assemble (a &&& 0x0F) [b, c])) ?_ ih
    rw [List.cons_append, List.cons_append, List.cons_append, pieces.eq_def]
    simp only [if_neg hascii, hrange, if_neg hbounds, if_neg htwo, if_neg hc, if_true]
  | case10 a hascii low high length hrange b hbounds htwo c hc hthree =>
    refine append_of_piece (.invalid 3) ?_ hnone
    rw [List.cons_append, List.cons_append, List.singleton_append, pieces.eq_def]
    have hstops := ascii_not_continuation hletter
    rw [Bool.not_eq_true, Bool.not_eq_false'] at hc
    simp [hascii, hrange, hbounds, htwo, hthree, hc, hstops]
  | case11 a hascii low high length hrange b hbounds htwo c hc hthree d rest hd ih =>
    refine append_of_piece (.invalid 3) ?_ ih
    rw [List.cons_append, List.cons_append, List.cons_append, List.cons_append, pieces.eq_def]
    simp only [if_neg hascii, hrange, if_neg hbounds, if_neg htwo, if_neg hc, if_neg hthree,
      if_pos hd]
  | case12 a hascii low high length hrange b hbounds htwo c hc hthree d rest hd ih =>
    refine append_of_piece (.char (assemble (a &&& 0x07) [b, c, d])) ?_ ih
    rw [List.cons_append, List.cons_append, List.cons_append, List.cons_append, pieces.eq_def]
    simp only [if_neg hascii, hrange, if_neg hbounds, if_neg htwo, if_neg hc, if_neg hthree,
      if_neg hd]

/-- A tail of plain letters stays at the end of the text. -/
theorem lossy_append {letter : UInt8} (hletter : letter < 0x80) (bytes tail : Bytes) :
    ∃ front, (lossy (bytes ++ letter :: tail)).toList = front ++ (lossy (letter :: tail)).toList := by
  obtain ⟨front, hfront⟩ := pieces_append hletter bytes tail
  simp only [lossy, String.toList_ofList, hfront, List.map_append]
  exact ⟨_, rfl⟩

end Utf8

namespace LowerCase

def IsSmall (c : Char) : Prop := c ≠ 'Σ' ∧ charImage c = [c]

instance : DecidablePred IsSmall := fun _ => inferInstanceAs (Decidable (_ ∧ _))

theorem imageAfter_append (before cs tail : List Char) :
    ∃ front, imageAfter before (cs ++ tail) = front ++ imageAfter (cs.reverse ++ before) tail := by
  induction cs generalizing before with
  | nil => exact ⟨[], rfl⟩
  | cons c cs ih =>
    obtain ⟨front, hfront⟩ := ih (c :: before)
    rw [List.cons_append, imageAfter, hfront, List.reverse_cons, List.append_assoc,
      List.singleton_append]
    exact ⟨_, (List.append_assoc _ _ _).symm⟩

theorem imageAfter_of_small {cs : List Char} (hsmall : ∀ c ∈ cs, IsSmall c)
    (before : List Char) : imageAfter before cs = cs := by
  induction cs generalizing before with
  | nil => rfl
  | cons c cs ih =>
    obtain ⟨hsigma, himage⟩ := hsmall c (by simp)
    rw [imageAfter, if_neg hsigma, himage, ih (fun c hc => hsmall c (by simp [hc])),
      List.singleton_append]

/-- Small characters at the end of a text stay there. -/
theorem ofChars_append {tail : List Char} (hsmall : ∀ c ∈ tail, IsSmall c) (cs : List Char) :
    ∃ front, ofChars (cs ++ tail) = front ++ tail := by
  obtain ⟨front, hfront⟩ := imageAfter_append [] cs tail
  exact ⟨front, by rw [ofChars, hfront, imageAfter_of_small hsmall]⟩

end LowerCase

end Emend
