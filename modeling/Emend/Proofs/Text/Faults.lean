import Mathlib.Order.Bounds.Basic
import Emend.Proofs.Text.Encoding

/-!
# Where a byte string stops being text

A byte string begins with a character, or it ends inside one, or its first bytes begin no
character whatever follows them.  Decoding passes over characters up to the first place of
another kind.  What it reports there can be said without the decoder: how much of the byte
string is text, whether more bytes could save it, and how far the bytes at that place agree
with some character.
-/

namespace Emend.Utf8

variable {a b c d low high : UInt8} {bytes rest part : Bytes} {length n : Nat} {text : String}
  {fault : Fault}

def Starts (part : Bytes) : Prop := ∃ c, part <+: String.utf8EncodeChar c

def Completable (bytes : Bytes) : Prop := ∃ more text, bytes ++ more = encode text

def textLengths (bytes : Bytes) : Set Nat :=
  {n | ∃ text, encode text <+: bytes ∧ (encode text).length = n}

/-- The lengths of the parts at the front that a character may begin with.  One byte counts
in any case. -/
def partLengths (bytes : Bytes) : Set Nat :=
  {n | ∃ part, part <+: bytes ∧ part.length = n ∧ (n = 1 ∨ Starts part)}

/-- What is wrong with a byte string that is no text. -/
inductive FaultOf (bytes : Bytes) : Fault → Prop
  | incomplete {index : Nat} (hindex : IsGreatest (textLengths bytes) index)
      (hmore : Completable bytes) :
    FaultOf bytes ⟨index, none⟩
  | invalid {index n : Nat} (hindex : IsGreatest (textLengths bytes) index)
      (hmore : ¬Completable bytes) (hpart : IsGreatest (partLengths (bytes.drop index)) n)
      (hbounds : 1 ≤ n ∧ n ≤ 3) :
    FaultOf bytes ⟨index, some n⟩

/-! ## What stands in front -/

theorem secondRange_bounds (hrange : secondRange? a = some (low, high, length)) :
    low ≤ high ∧ 2 ≤ length ∧ length ≤ 4 := by
  unfold secondRange? at hrange
  split_ifs at hrange
  all_goals
    simp only [Option.some.injEq, Prod.mk.injEq] at hrange
    obtain ⟨rfl, rfl, rfl⟩ := hrange
    decide

/-- Bytes that have been accepted so far go on to a character. -/
theorem exists_completion (hrange : secondRange? a = some (low, high, length))
    (hb : low ≤ b ∧ b ≤ high) (hc : 0x80 ≤ c ∧ c ≤ 0xBF) (hd : 0x80 ≤ d ∧ d ≤ 0xBF) :
    ∃ char, String.utf8EncodeChar char = [a, b, c, d].take length := by
  rcases secondRange_cases hrange with ⟨ha, ha', rfl, rfl, rfl⟩ |
    ⟨ha, ha', hlow, hhigh, hlong, hsurrogate, rfl⟩ | ⟨ha, ha', hlow, hhigh, hlong, hlast, rfl⟩
  · exact ⟨_, encodeChar_two ha ha' hb.1 hb.2⟩
  · exact ⟨_, encodeChar_three ha ha' (UInt8.le_trans hlow hb.1) (UInt8.le_trans hb.2 hhigh)
      (fun h => hlong h ▸ hb.1) (fun h => hsurrogate h ▸ hb.2) hc.1 hc.2⟩
  · exact ⟨_, encodeChar_four ha ha' (UInt8.le_trans hlow hb.1) (UInt8.le_trans hb.2 hhigh)
      (fun h => hlong h ▸ hb.1) (fun h => hlast h ▸ hb.2) hc.1 hc.2 hd.1 hd.2⟩

theorem starts_of_range (hrange : secondRange? a = some (low, high, length))
    (hb : low ≤ b ∧ b ≤ high) (hc : 0x80 ≤ c ∧ c ≤ 0xBF) (hn : n ≤ length) :
    Starts ([a, b, c, 0x80].take n) := by
  obtain ⟨char, hchar⟩ := exists_completion hrange hb hc ⟨UInt8.le_refl _, by decide⟩
  exact ⟨char, hchar ▸ List.take_prefix_take_left hn⟩

/-- The first bytes, with the byte behind them if there is one, begin no character. -/
structure RuledOut (bytes : Bytes) (n : Nat) : Prop where
  bounds : 1 ≤ n ∧ n ≤ 3
  le_length : n ≤ bytes.length
  starts : n = 1 ∨ Starts (bytes.take n)
  pieces_take (more : Bytes) : pieces (bytes.take (n + 1) ++ more) =
    .invalid n :: pieces ((bytes.take (n + 1) ++ more).drop n)

theorem second_bounds (hbounds : ¬(b < low ∨ high < b)) : low ≤ b ∧ b ≤ high := by
  rwa [not_or, UInt8.not_lt, UInt8.not_lt] at hbounds

/-- The three kinds of byte strings that are not empty. -/
theorem front_cases (hne : bytes ≠ []) :
    (∃ char rest, bytes = String.utf8EncodeChar char ++ rest) ∨
      (pieces bytes = [.incomplete] ∧ Starts bytes) ∨ ∃ n, RuledOut bytes n := by
  have hzero : (0x80 : UInt8) ≤ 0x80 ∧ (0x80 : UInt8) ≤ 0xBF := by decide
  fun_cases pieces bytes with
  | case1 => exact absurd rfl hne
  | case2 a rest hascii =>
    exact .inl ⟨Char.ofNat a.toNat, rest, by rw [encodeChar_one hascii]; rfl⟩
  | case3 a rest hascii hrange =>
    refine .inr (.inr ⟨1, by decide, by simp, .inl rfl, fun more => ?_⟩)
    rw [List.take_succ_cons, List.cons_append, pieces.eq_def]
    simp [hascii, hrange]
  | case4 a hascii low high length hrange =>
    obtain ⟨hlow, hlength, -⟩ := secondRange_bounds hrange
    have hstarts := starts_of_range (n := 1) hrange ⟨UInt8.le_refl _, hlow⟩ hzero (by omega)
    exact .inr (.inl ⟨rfl, hstarts⟩)
  | case5 a hascii low high length hrange b rest hbounds =>
    refine .inr (.inr ⟨1, by decide, by simp, .inl rfl, fun more => ?_⟩)
    rw [List.take_succ_cons, List.take_succ_cons, List.take_zero, List.cons_append,
      List.cons_append, pieces.eq_def]
    simp [hascii, hrange, hbounds]
  | case6 a hascii low high b rest hbounds hrange =>
    obtain ⟨char, hchar⟩ := exists_completion hrange (second_bounds hbounds) hzero hzero
    exact .inl ⟨char, rest, by rw [hchar]; rfl⟩
  | case7 a hascii low high length hrange b hbounds htwo =>
    have hstarts :=
      starts_of_range hrange (second_bounds hbounds) hzero (secondRange_bounds hrange).2.1
    exact .inr (.inl ⟨rfl, hstarts⟩)
  | case8 a hascii low high length hrange b hbounds htwo c rest hc =>
    refine .inr (.inr ⟨2, by decide, by simp, .inr ?_, fun more => ?_⟩)
    · exact starts_of_range hrange (second_bounds hbounds) hzero (secondRange_bounds hrange).2.1
    · simp only [List.take_succ_cons, List.take_zero, List.cons_append, List.nil_append]
      rw [pieces.eq_def]
      simp only [if_neg hascii, hrange, if_neg hbounds, if_neg htwo, if_pos hc]
      rfl
  | case9 a hascii low high b hbounds c rest hc hrange htwo =>
    obtain ⟨char, hchar⟩ :=
      exists_completion hrange (second_bounds hbounds) (isContinuation_bounds hc) hzero
    exact .inl ⟨char, rest, by rw [hchar]; rfl⟩
  | case10 a hascii low high length hrange b hbounds htwo c hc hthree =>
    have hlength := secondRange_bounds hrange
    have hstarts := starts_of_range (n := 3) hrange (second_bounds hbounds)
      (isContinuation_bounds hc) (by omega)
    exact .inr (.inl ⟨rfl, hstarts⟩)
  | case11 a hascii low high length hrange b hbounds htwo c hc hthree d rest hd =>
    refine .inr (.inr ⟨3, by decide, by simp, .inr ?_, fun more => ?_⟩)
    · have hlength := secondRange_bounds hrange
      have hthree : 3 ≤ length := by omega
      exact starts_of_range hrange (second_bounds hbounds) (isContinuation_bounds hc) hthree
    · simp only [List.take_succ_cons, List.take_zero, List.cons_append, List.nil_append]
      rw [pieces.eq_def]
      simp only [if_neg hascii, hrange, if_neg hbounds, if_neg htwo, if_neg hc, if_neg hthree,
        if_pos hd]
      rfl
  | case12 a hascii low high length hrange b hbounds htwo c hc hthree d rest hd =>
    have hfour : length = 4 := by
      have hlength := secondRange_bounds hrange
      omega
    subst hfour
    obtain ⟨char, hchar⟩ := exists_completion hrange (second_bounds hbounds)
      (isContinuation_bounds hc) (isContinuation_bounds hd)
    exact .inl ⟨char, rest, by rw [hchar]; rfl⟩

namespace RuledOut

variable (hruled : RuledOut bytes n)

include hruled

theorem pieces_append (more : Bytes) :
    pieces (bytes ++ more) = .invalid n :: pieces ((bytes ++ more).drop n) := by
  have htake := hruled.pieces_take (bytes.drop (n + 1) ++ more)
  rwa [← List.append_assoc, List.take_append_drop] at htake

/-- No character stands in front, whatever follows. -/
theorem ne_char (more : Bytes) (char : Char) (tail : Bytes) :
    bytes ++ more ≠ String.utf8EncodeChar char ++ tail := by
  intro heq
  have hpieces := hruled.pieces_append more
  rw [heq, pieces_encodeChar] at hpieces
  cases (List.cons.inj hpieces).1

theorem not_starts_longer : ¬Starts (bytes.take (n + 1)) := by
  rintro ⟨char, more, hmore⟩
  have hpieces := hruled.pieces_take more
  rw [hmore, ← List.append_nil (String.utf8EncodeChar char), pieces_encodeChar] at hpieces
  cases (List.cons.inj hpieces).1

/-- The part that is ruled out is the longest that a character may begin with. -/
theorem isGreatest : IsGreatest (partLengths bytes) n := by
  constructor
  · exact ⟨bytes.take n, List.take_prefix _ _, List.length_take_of_le hruled.le_length,
      hruled.starts⟩
  · rintro m ⟨part, hpart, rfl, hone | ⟨char, hchar⟩⟩
    · exact hone ▸ hruled.bounds.1
    · by_contra hlong
      have hpart' : bytes.take (n + 1) <+: part := by
        apply List.prefix_of_prefix_length_le (List.take_prefix _ _) hpart
        rw [List.length_take]
        omega
      exact hruled.not_starts_longer ⟨char, hpart'.trans hchar⟩

end RuledOut

/-- Characters that are read at the end of a byte string stand there. -/
theorem exists_start_of_pieces {front : List Piece} {chars : List Char}
    (hpieces : pieces bytes = front ++ chars.map .char) :
    ∃ start, bytes = start ++ chars.flatMap String.utf8EncodeChar := by
  induction front generalizing bytes with
  | nil => exact ⟨[], (encode_of_pieces hpieces).symm⟩
  | cons piece front ih =>
    have hne : bytes ≠ [] := by
      rintro rfl
      cases hpieces
    rcases front_cases hne with ⟨char, rest, rfl⟩ | ⟨hlast, -⟩ | ⟨n, hruled⟩
    · rw [pieces_encodeChar] at hpieces
      obtain ⟨start, rfl⟩ := ih (List.cons.inj hpieces).2
      exact ⟨_, (List.append_assoc _ _ _).symm⟩
    · rw [hlast] at hpieces
      have hnone := (List.append_eq_nil_iff.mp (List.cons.inj hpieces).2.symm).2
      rw [List.map_eq_nil_iff.mp hnone]
      exact ⟨bytes, by simp⟩
    · have happend := hruled.pieces_append []
      rw [List.append_nil, hpieces] at happend
      obtain ⟨start, hstart⟩ := ih (List.cons.inj happend).2.symm
      refine ⟨bytes.take n ++ start, ?_⟩
      rw [List.append_assoc, ← hstart, List.take_append_drop]

/-! ## Where the characters end -/

theorem encode_append (first second : List Char) :
    encode (String.ofList (first ++ second)) =
      encode (String.ofList first) ++ second.flatMap String.utf8EncodeChar := by
  simp only [encode, String.toList_ofList, List.flatMap_append]

/-- A text that goes on behind a text goes on with characters. -/
theorem exists_chars_of_encode {whole : String} (hwhole : encode text ++ rest = encode whole) :
    ∃ chars : List Char, rest = chars.flatMap String.utf8EncodeChar := by
  obtain ⟨chars, hchars⟩ := toList_prefix_of_encode ⟨rest, hwhole⟩
  refine ⟨chars, ?_⟩
  rw [encode, encode, ← hchars, List.flatMap_append] at hwhole
  exact List.append_cancel_left hwhole

/-- Bytes at which the characters end, with the length that is reported of them. -/
inductive Stops (rest : Bytes) : Option Nat → Prop
  | incomplete (hpieces : pieces rest = [.incomplete]) (hstarts : Starts rest) :
    Stops rest none
  | invalid {n : Nat} (hruled : RuledOut rest n) : Stops rest (some n)

theorem exists_stop (bytes : Bytes) :
    (∃ text, bytes = encode text) ∨
      ∃ text rest length, bytes = encode text ++ rest ∧ Stops rest length := by
  -- Every turn takes a character off the front, so the induction is on the length.
  induction hlength : bytes.length using Nat.strong_induction_on generalizing bytes with
  | _ size ih =>
    by_cases hne : bytes = []
    · exact .inl ⟨"", by rw [hne]; rfl⟩
    rcases front_cases hne with ⟨char, rest, rfl⟩ | ⟨hpieces, hstarts⟩ | ⟨n, hruled⟩
    · have hshorter : rest.length < size := by
        have hpos := Char.utf8Size_pos char
        rw [← hlength, List.length_append, String.length_utf8EncodeChar]
        omega
      have hcons (text : String) :
          String.utf8EncodeChar char ++ encode text = encode (String.ofList (char :: text.toList)) := by
        simp [encode]
      rcases ih _ hshorter rest rfl with ⟨text, rfl⟩ | ⟨text, last, length, rfl, hstops⟩
      · exact .inl ⟨_, hcons text⟩
      · exact .inr ⟨_, last, length, by rw [← List.append_assoc, hcons], hstops⟩
    · exact .inr ⟨"", bytes, none, rfl, .incomplete hpieces hstarts⟩
    · exact .inr ⟨"", bytes, some n, rfl, .invalid hruled⟩

theorem join_append (index : Nat) (done chars : List Char) (ps : List Piece) :
    join index done (chars.map .char ++ ps) =
      join (index + (chars.flatMap String.utf8EncodeChar).length) (chars.reverse ++ done) ps := by
  induction chars generalizing index done with
  | nil => rfl
  | cons c chars ih =>
    rw [List.map_cons, List.cons_append, join, ih, List.flatMap_cons, List.length_append,
      String.length_utf8EncodeChar, List.reverse_cons, List.append_assoc, List.singleton_append,
      Nat.add_assoc]

namespace Stops

variable {length : Option Nat} (hstops : Stops rest length)

include hstops

theorem ne_char (char : Char) (tail : Bytes) : rest ≠ String.utf8EncodeChar char ++ tail := by
  cases hstops with
  | incomplete hpieces hstarts =>
    intro heq
    rw [heq, pieces_encodeChar] at hpieces
    cases (List.cons.inj hpieces).1
  | invalid hruled => simpa using hruled.ne_char [] char tail

theorem decode_eq (text : String) :
    decode (encode text ++ rest) = .error ⟨(encode text).length, length⟩ := by
  rw [decode, encode, pieces_encode_append, join_append, Nat.zero_add]
  cases hstops with
  | incomplete hpieces hstarts =>
    rw [hpieces]
    rfl
  | invalid hruled =>
    have hpieces := hruled.pieces_append []
    rw [List.append_nil] at hpieces
    rw [hpieces]
    rfl

/-- The characters before a stop are all that the byte string has of text. -/
theorem isGreatest (text : String) :
    IsGreatest (textLengths (encode text ++ rest)) (encode text).length := by
  refine ⟨⟨text, List.prefix_append _ _, rfl⟩, ?_⟩
  rintro n ⟨whole, hwhole, rfl⟩
  by_contra hlong
  obtain ⟨middle, hmiddle⟩ :=
    List.prefix_of_prefix_length_le (List.prefix_append _ rest) hwhole (by omega)
  obtain ⟨last, hlast⟩ := hwhole
  rw [← hmiddle, List.append_assoc] at hlast
  obtain ⟨chars, rfl⟩ := exists_chars_of_encode hmiddle
  cases chars with
  | nil =>
    rw [List.flatMap_nil, List.append_nil] at hmiddle
    exact hlong (by rw [hmiddle])
  | cons c chars =>
    rw [List.flatMap_cons, List.append_assoc] at hlast
    exact hstops.ne_char c _ (List.append_cancel_left hlast).symm

theorem completable_iff (text : String) :
    Completable (encode text ++ rest) ↔ length = none := by
  cases hstops with
  | incomplete hpieces hstarts =>
    obtain ⟨char, more, hmore⟩ := hstarts
    refine iff_of_true ⟨more, String.ofList (text.toList ++ [char]), ?_⟩ rfl
    rw [encode_append, String.ofList_toList, List.append_assoc, hmore]
    simp
  | @invalid n hruled =>
    refine iff_of_false ?_ (by simp)
    rintro ⟨more, whole, hwhole⟩
    rw [List.append_assoc] at hwhole
    obtain ⟨chars, hchars⟩ := exists_chars_of_encode hwhole
    cases chars with
    | nil =>
      have hlength := congrArg List.length hchars
      have hpos := hruled.bounds.1
      have hle := hruled.le_length
      simp at hlength
      simp [hlength.1] at hle
      omega
    | cons c chars => exact hruled.ne_char more c _ hchars

theorem faultOf (text : String) :
    FaultOf (encode text ++ rest) ⟨(encode text).length, length⟩ := by
  have hindex := hstops.isGreatest text
  have hmore := hstops.completable_iff text
  cases hstops with
  | incomplete hpieces hstarts => exact .incomplete hindex (hmore.mpr rfl)
  | invalid hruled =>
    refine .invalid hindex (fun h => by simpa using hmore.mp h) ?_ hruled.bounds
    rw [List.drop_left]
    exact hruled.isGreatest

end Stops

/-! ## Decoding -/

theorem FaultOf.unique {other : Fault} (h : FaultOf bytes fault) (h' : FaultOf bytes other) :
    fault = other := by
  cases h with
  | incomplete hindex hmore =>
    cases h' with
    | incomplete hindex' hmore' => rw [hindex.unique hindex']
    | invalid hindex' hmore' => exact absurd hmore hmore'
  | invalid hindex hmore hpart =>
    cases h' with
    | incomplete hindex' hmore' => exact absurd hmore' hmore
    | invalid hindex' hmore' hpart' =>
      obtain rfl := hindex.unique hindex'
      rw [hpart.unique hpart']

/-- Decoding fails on the byte strings that are no text, with what is wrong with them. -/
theorem decode_eq_error_iff :
    decode bytes = .error fault ↔ (¬∃ text, bytes = encode text) ∧ FaultOf bytes fault := by
  rcases exists_stop bytes with ⟨text, rfl⟩ | ⟨text, rest, length, rfl, hstops⟩
  · rw [decode_encode]
    exact iff_of_false (by simp) fun h => h.1 ⟨text, rfl⟩
  · have hdecode := hstops.decode_eq text
    have hfault := hstops.faultOf text
    rw [hdecode, Except.error.injEq]
    constructor
    · rintro rfl
      refine ⟨?_, hfault⟩
      rintro ⟨whole, hwhole⟩
      rw [hwhole, decode_encode] at hdecode
      cases hdecode
    · exact fun h => hfault.unique h.2

end Emend.Utf8
