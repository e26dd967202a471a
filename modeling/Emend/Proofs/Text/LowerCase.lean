import Mathlib.Data.List.Forall2
import Emend.Proofs.Text.Endings

/-!
# Lower case at the end of a text

A character becomes one or more characters, and the last of them is plain only where the
character is a plain letter itself or the Kelvin sign.  So a plain tail of a small form comes
from the tail of the text alone.  What stands before a text matters to its small form in one
place only: a capital sigma that nothing but ignorable characters parts from it.
-/

namespace Emend.LowerCase

open Emend.Unicode

variable {c letter image : Char} {cs rest done out tail before before' images : List Char}

/-! ## One character -/

/-- A character that has one plain letter as its small form. -/
def Folds (c image : Char) : Prop :=
  c.toNat < 0x80 ∧ image = c.toLower ∨ c = '\u212A' ∧ image = 'k'

theorem forall_ascii {P : Char → Prop} (h : ∀ n < 0x80, P (Char.ofNat n))
    (hascii : c.toNat < 0x80) : P c := by
  have hc := h c.toNat hascii
  rwa [Char.ofNat_toNat] at hc

theorem toLower_ascii (hascii : c.toNat < 0x80) : c.toLower.toNat < 0x80 := by
  have hall : ∀ n < 0x80, (Char.ofNat n).toLower.toNat < 0x80 := by
    decide +kernel
  exact forall_ascii (P := fun c => c.toLower.toNat < 0x80) hall hascii

theorem charImage_ascii (hascii : c.toNat < 0x80) : charImage c = [c.toLower] := by
  have hall : ∀ n < 0x80, charImage (Char.ofNat n) = [(Char.ofNat n).toLower] := by
    decide +kernel
  exact forall_ascii (P := fun c => charImage c = [c.toLower]) hall hascii

theorem charImage_kelvin : charImage '\u212A' = ['k'] := by
  decide +kernel

theorem Folds.charImage (hfolds : Folds c image) : charImage c = [image] := by
  rcases hfolds with ⟨hascii, rfl⟩ | ⟨rfl, rfl⟩
  · exact charImage_ascii hascii
  · exact charImage_kelvin

theorem Folds.ne_sigma (hfolds : Folds c image) : c ≠ 'Σ' := by
  rintro rfl
  rcases hfolds with ⟨hascii, -⟩ | ⟨hkelvin, -⟩
  · exact absurd hascii (by decide)
  · exact absurd hkelvin (by decide)

theorem Folds.ne_replacement {c image : Char} (hfolds : Folds c image) : c ≠ Utf8.replacement := by
  rintro rfl
  rcases hfolds with ⟨hascii, -⟩ | ⟨hkelvin, -⟩
  · exact absurd hascii (by decide)
  · exact absurd hkelvin (by decide)

theorem Folds.eq_dot {c : Char} (hfolds : Folds c '.') : c = '.' := by
  have hall : ∀ n < 0x80, '.' = (Char.ofNat n).toLower → Char.ofNat n = '.' := by
    decide +kernel
  rcases hfolds with ⟨hascii, hdot⟩ | ⟨-, hdot⟩
  · exact forall_ascii (P := fun c => '.' = c.toLower → c = '.') hall hascii hdot
  · exact absurd hdot (by decide)

/-- A run of the table that leads into the plain letters is that of the plain capitals or of
the Kelvin sign, and the others lead to code points of characters. -/
theorem runs_beyond : ∀ run ∈ lowerCaseRuns, run.last < 0x80 ∨ run = ⟨0x212A, 0x212A, 1, 0x6B⟩ ∨
    0x80 ≤ run.image ∧ (run.image + (run.last - run.first) < 0xD800 ∨
      0xDFFF < run.image ∧ run.image + (run.last - run.first) < 0x110000) := by
  decide +kernel

theorem applyRuns_beyond {code : Nat} (hbeyond : 0x80 ≤ c.toNat) (hkelvin : c ≠ '\u212A')
    (happly : applyRuns? lowerCaseRuns c.toNat = some code) :
    0x80 ≤ code ∧ code.isValidChar := by
  obtain ⟨run, hrun, himage⟩ := List.exists_of_findSome?_eq_some happly
  unfold CaseRun.imageOf? at himage
  split at himage
  · next hinside =>
    cases himage
    obtain ⟨hfirst, hlast, -⟩ := hinside
    rcases runs_beyond run hrun with hplain | rfl | ⟨himage, hvalid⟩
    · omega
    · have hcode : c.toNat = 0x212A := Nat.le_antisymm hlast hfirst
      exact absurd (Char.toNat_inj.mp hcode) hkelvin
    · rw [Nat.isValidChar]
      omega
  · cases himage

/-- Every other character has a small form that ends in none of the plain letters. -/
theorem exists_charImage (hbeyond : 0x80 ≤ c.toNat) (hkelvin : c ≠ '\u212A') :
    ∃ front last, charImage c = front ++ [last] ∧ 0x80 ≤ last.toNat := by
  unfold charImage
  split
  · exact ⟨['i'], '\u0307', rfl, by decide⟩
  · split
    · next code happly =>
      obtain ⟨hcode, hvalid⟩ := applyRuns_beyond hbeyond hkelvin happly
      refine ⟨[], Char.ofNat code, rfl, ?_⟩
      have htoNat : (Char.ofNat code).toNat = code := Utf8.toNat_charOfNat hvalid
      rwa [htoNat]
    · exact ⟨[], c, rfl, hbeyond⟩

/-! ## One character between others -/

/-- What becomes of a character behind some others, of which the nearest stands first, and
before the rest. -/
def imageAt (before : List Char) (c : Char) (rest : List Char) : List Char :=
  if c = 'Σ' then [if meetsCased before && !meetsCased rest then 'ς' else 'σ'] else charImage c

theorem imageAfter_cons :
    imageAfter before (c :: rest) = imageAt before c rest ++ imageAfter (c :: before) rest := rfl

theorem imageAt_of_ne (hsigma : c ≠ 'Σ') : imageAt before c rest = charImage c := if_neg hsigma

theorem imageAt_cases (before : List Char) (c : Char) (rest : List Char) :
    (∃ image, Folds c image ∧ imageAt before c rest = [image]) ∨
      ∃ front last, imageAt before c rest = front ++ [last] ∧ 0x80 ≤ last.toNat := by
  by_cases hsigma : c = 'Σ'
  · subst hsigma
    refine .inr ⟨[], _, if_pos rfl, ?_⟩
    split <;> decide
  · rw [imageAt_of_ne hsigma]
    by_cases hascii : c.toNat < 0x80
    · exact .inl ⟨_, .inl ⟨hascii, rfl⟩, charImage_ascii hascii⟩
    · by_cases hkelvin : c = '\u212A'
      · exact .inl ⟨_, .inr ⟨hkelvin, rfl⟩, by rw [hkelvin, charImage_kelvin]⟩
      · exact .inr (exists_charImage (Nat.not_lt.mp hascii) hkelvin)

theorem length_imageAt : (imageAt before c rest).length = (imageAt before' c rest).length := by
  unfold imageAt
  split <;> rfl

/-! ## Plain tails -/

inductive Images : List Char → List Char → Prop
  | nil : Images [] []
  | concat {done out : List Char} (h : Images done out) (before : List Char) (c : Char)
      (rest : List Char) :
    Images (done ++ [c]) (out ++ imageAt before c rest)

theorem Images.append (h : Images done out) (before cs : List Char) :
    Images (done ++ cs) (out ++ imageAfter before cs) := by
  induction cs generalizing done out before with
  | nil => simpa [imageAfter] using h
  | cons c rest ih =>
    have hmore := ih (h.concat before c rest) (c :: before)
    rwa [List.append_assoc, List.append_assoc, ← imageAfter_cons] at hmore

theorem images_ofChars (cs : List Char) : Images cs (ofChars cs) := Images.nil.append [] cs

/-- A plain tail of what has become of a text comes from the tail of the text. -/
theorem Images.exists_folds (h : Images cs out) (hascii : ∀ t ∈ tail, t.toNat < 0x80)
    (htail : tail <:+ out) : ∃ front own, cs = front ++ own ∧ List.Forall₂ Folds own tail := by
  induction h generalizing tail with
  | nil =>
    rw [List.suffix_nil.mp htail]
    exact ⟨[], [], rfl, .nil⟩
  | @concat done out h before c rest ih =>
    rcases List.eq_nil_or_concat tail with rfl | ⟨first, t, rfl⟩
    · exact ⟨done ++ [c], [], by simp, .nil⟩
    · rw [List.concat_eq_append] at hascii htail ⊢
      rcases imageAt_cases before c rest with ⟨image, hfolds, himage⟩ | ⟨front, last, himage, hlast⟩
      · rw [himage, List.suffix_concat_iff] at htail
        simp only [List.append_eq_nil_iff, List.cons_ne_self, and_false, false_or] at htail
        obtain ⟨other, hsame, hfirst⟩ := htail
        obtain ⟨rfl, ht⟩ := List.append_inj' hsame rfl
        cases ht
        obtain ⟨front, own, rfl, hown⟩ := ih (fun t ht => hascii t (by simp [ht])) hfirst
        refine ⟨front, own ++ [c], by simp, ?_⟩
        exact List.rel_append hown (.cons hfolds .nil)
      · obtain ⟨more, hmore⟩ := htail
        rw [himage, ← List.append_assoc, ← List.append_assoc] at hmore
        obtain ⟨-, ht⟩ := List.append_inj' hmore rfl
        cases ht
        exact absurd (hascii t (by simp)) (Nat.not_lt.mpr hlast)

/-- Characters that fold are lower-cased one by one. -/
theorem imageAfter_of_folds (h : List.Forall₂ Folds cs images) (before : List Char) :
    imageAfter before cs = images := by
  induction h generalizing before with
  | nil => rfl
  | cons hfolds hmore ih =>
    rw [imageAfter_cons, imageAt_of_ne hfolds.ne_sigma, hfolds.charImage, ih,
      List.singleton_append]

/-- Plain text is lower-cased letter by letter. -/
theorem ofChars_ascii (hascii : ∀ c ∈ cs, c.toNat < 0x80) : ofChars cs = cs.map Char.toLower := by
  apply imageAfter_of_folds
  rw [List.forall₂_map_right_iff, List.forall₂_same]
  exact fun c hc => .inl ⟨hascii c hc, rfl⟩

/-! ## What stands before -/

/-- The first character that is not ignorable is a capital sigma, and no letter follows it:
it is final if a letter stands before. -/
def opensFinal (cs : List Char) : Bool :=
  match cs.dropWhile caseIgnorable.contains with
  | 'Σ' :: rest => !meetsCased rest
  | _ => false

theorem sigma_not_ignorable : caseIgnorable.contains 'Σ' = false := by
  decide +kernel

theorem dot_ignorable : caseIgnorable.contains '.' = true := by
  decide +kernel

theorem meetsCased_cons : meetsCased (c :: cs) =
    if caseIgnorable.contains c then meetsCased cs else casedLetter.contains c := by
  unfold meetsCased
  by_cases hignorable : caseIgnorable.contains c = true
  · rw [List.dropWhile_cons, if_pos hignorable, if_pos hignorable]
  · rw [List.dropWhile_cons, if_neg hignorable, if_neg hignorable]

theorem opensFinal_ignorable (hignorable : caseIgnorable.contains c = true) :
    opensFinal (c :: cs) = opensFinal cs := by
  rw [opensFinal, List.dropWhile_cons, if_pos hignorable]
  rfl

theorem opensFinal_cons (hcounts : caseIgnorable.contains c = false) :
    opensFinal (c :: cs) = true ↔ c = 'Σ' ∧ meetsCased cs = false := by
  rw [opensFinal, List.dropWhile_cons, hcounts, if_neg (by decide)]
  split
  · next hsame =>
    cases hsame
    simp
  · next hnot =>
    refine iff_of_false (by decide) ?_
    rintro ⟨rfl, -⟩
    exact hnot cs rfl

/-- Only whether a letter comes last counts of what stands before. -/
theorem imageAfter_congr (hsame : meetsCased before = meetsCased before') (cs : List Char) :
    imageAfter before cs = imageAfter before' cs := by
  induction cs generalizing before before' with
  | nil => rfl
  | cons c rest ih =>
    have himage : imageAt before c rest = imageAt before' c rest := by
      rw [imageAt, imageAt, hsame]
    have hnext : meetsCased (c :: before) = meetsCased (c :: before') := by
      rw [meetsCased_cons, meetsCased_cons, hsame]
    rw [imageAfter_cons, imageAfter_cons, himage, ih hnext]

theorem length_imageAfter (before before' cs : List Char) :
    (imageAfter before cs).length = (imageAfter before' cs).length := by
  induction cs generalizing before before' with
  | nil => rfl
  | cons c rest ih =>
    rw [imageAfter_cons, imageAfter_cons, List.length_append, List.length_append,
      length_imageAt, ih (c :: before) (c :: before')]

theorem imageAt_eq_iff (hbefore : meetsCased before = true) (hbefore' : meetsCased before' = false) :
    imageAt before c rest = imageAt before' c rest ↔ ¬(c = 'Σ' ∧ meetsCased rest = false) := by
  unfold imageAt
  by_cases hsigma : c = 'Σ'
  · rw [if_pos hsigma, if_pos hsigma, hbefore, hbefore']
    cases meetsCased rest <;> simp [hsigma]
  · simp [hsigma]

/-- A letter before changes a small form exactly if it makes a sigma final. -/
theorem imageAfter_eq_iff (hbefore : meetsCased before = true)
    (hbefore' : meetsCased before' = false) :
    imageAfter before cs = imageAfter before' cs ↔ opensFinal cs = false := by
  induction cs generalizing before before' with
  | nil => exact iff_of_true rfl rfl
  | cons c rest ih =>
    rw [imageAfter_cons, imageAfter_cons]
    by_cases hignorable : caseIgnorable.contains c = true
    · -- An ignorable character is no sigma and hides nothing of what stands before.
      have hsigma : c ≠ 'Σ' := by
        rintro rfl
        rw [sigma_not_ignorable] at hignorable
        cases hignorable
      rw [imageAt_of_ne hsigma, imageAt_of_ne hsigma, List.append_cancel_left_eq,
        opensFinal_ignorable hignorable]
      apply ih
      · rw [meetsCased_cons, if_pos hignorable, hbefore]
      · rw [meetsCased_cons, if_pos hignorable, hbefore']
    · -- Any other character is all that the characters behind it see.
      rw [Bool.not_eq_true] at hignorable
      have hnext : meetsCased (c :: before) = meetsCased (c :: before') := by
        rw [meetsCased_cons, meetsCased_cons, hignorable]
        rfl
      rw [imageAfter_congr hnext, List.append_cancel_right_eq, imageAt_eq_iff hbefore hbefore',
        ← opensFinal_cons hignorable, Bool.not_eq_true]

/-- A text with a dot before it keeps its small form at the end of a longer text, except for
a sigma that becomes final there. -/
theorem suffix_ofChars_iff (stem cs : List Char) :
    '.' :: ofChars cs <:+ ofChars (stem ++ '.' :: cs) ↔
      ¬(meetsCased stem.reverse = true ∧ opensFinal cs = true) := by
  obtain ⟨front, hfront⟩ := imageAfter_append [] stem ('.' :: cs)
  have hdot : charImage '.' = ['.'] := charImage_ascii (by decide)
  have hwhole : ofChars (stem ++ '.' :: cs) =
      front ++ '.' :: imageAfter ('.' :: stem.reverse) cs := by
    rw [ofChars, hfront, List.append_nil, imageAfter_cons, imageAt_of_ne (by decide), hdot,
      List.singleton_append]
  have hsuffix : '.' :: ofChars cs <:+ ofChars (stem ++ '.' :: cs) ↔
      imageAfter ('.' :: stem.reverse) cs = imageAfter [] cs := by
    rw [hwhole]
    constructor
    · rintro ⟨other, hother⟩
      have hlength := length_imageAfter ('.' :: stem.reverse) [] cs
      exact (List.cons.inj (List.append_inj' hother (by simp [ofChars, hlength])).2).2.symm
    · intro hsame
      rw [hsame]
      exact List.suffix_append _ _
  have hbefore : meetsCased ('.' :: stem.reverse) = meetsCased stem.reverse := by
    rw [meetsCased_cons, if_pos dot_ignorable]
  rw [hsuffix]
  cases hstem : meetsCased stem.reverse with
  | false =>
    refine iff_of_true (imageAfter_congr ?_ cs) (by simp)
    rw [hbefore, hstem]
    rfl
  | true =>
    rw [imageAfter_eq_iff (hbefore.trans hstem) rfl]
    simp

end Emend.LowerCase
