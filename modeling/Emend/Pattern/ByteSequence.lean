import Emend.CharSet

/-!
# Byte sequences

An automaton reads bytes, so a set of characters is cut into sequences of byte runs:
each sequence holds the characters of one encoded length whose bytes lie in its runs,
position by position.  The sequences of a set come in increasing order and do not
overlap.
-/

namespace Emend.Pattern

/-- The values that one byte of an encoded character can have. -/
structure ByteRun where
  first : Nat
  last : Nat
  deriving DecidableEq

abbrev ByteSequence := List ByteRun

namespace ByteSequence

/-- The bytes that encode a code point. -/
def bytesOf (code : Nat) : List Nat :=
  if code ≤ 0x7F then [code]
  else if code ≤ 0x7FF then [0xC0 + code / 64, 0x80 + code % 64]
  else if code ≤ 0xFFFF then [0xE0 + code / 4096, 0x80 + code / 64 % 64, 0x80 + code % 64]
  else [0xF0 + code / 262144, 0x80 + code / 4096 % 64, 0x80 + code / 64 % 64, 0x80 + code % 64]

/-- The sequence between two code points with the same encoded length. -/
def between (low high : Nat) : ByteSequence :=
  (bytesOf low).zipWith ByteRun.mk (bytesOf high)

/-- The last code point of the first part, if a run must be split before its code
points differ in one byte run at every position. -/
def splitPoint? (low high : Nat) : Option Nat :=
  let byLength := [0x7F, 0x7FF, 0xFFFF].find? fun most => low ≤ most && most < high
  let byBlock (block : Nat) : Option Nat :=
    if low / block = high / block then none
    else if low % block ≠ 0 then some (low / block * block + (block - 1))
    else if high % block ≠ block - 1 then some (high / block * block - 1)
    else none
  if byLength.isSome then byLength
  else if high ≤ 0x7F then none
  else byBlock 64 <|> byBlock 4096 <|> byBlock 262144

/-- The sequences that encode a run of code points, in increasing order.  A run is
split a few times at most, once for each length and twice for each block size. -/
def ofRun : Nat → Nat → Nat → List ByteSequence
  | 0, low, high => [between low high]
  | n + 1, low, high =>
    match splitPoint? low high with
    | some last => ofRun n low last ++ ofRun n (last + 1) high
    | none => [between low high]

/-- The sequences that encode the characters of a set. -/
def ofSet (s : CharSet) : List ByteSequence :=
  (s ∩ CharSet.all).runs.flatMap fun run => ofRun 16 run.first run.last

/-- What can follow each first byte run, with equal first runs in a row taken
together. -/
def byFirst (sequences : List ByteSequence) : List (ByteRun × List ByteSequence) :=
  (sequences.splitBy fun a b => a.head? == b.head?).filterMap fun group =>
    match group with
    | (run :: _) :: _ => some (run, group.map (·.drop 1))
    | _ => none

end ByteSequence

end Emend.Pattern
