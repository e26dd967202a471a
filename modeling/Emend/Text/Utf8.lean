/-!
# UTF-8

A byte string is cut into pieces: characters in their shortest form, maximal
parts that begin a character and are not continued, and a last part that the end
cuts off.  Decoding accepts characters alone and reports the first other piece;
the lossy reading puts the replacement character in the place of each.
-/

namespace Emend

abbrev Bytes := List UInt8

namespace Utf8

/-- The piece at the head of a byte string. -/
inductive Piece where
  | char (c : Char)
  | invalid (length : Nat)
  | incomplete
  deriving DecidableEq

/-- The least and greatest byte that may follow a first byte, and the number of
bytes in the sequence that it begins. -/
def secondRange? (first : UInt8) : Option (UInt8 × UInt8 × Nat) :=
  if first < 0xC2 then none
  else if first < 0xE0 then some (0x80, 0xBF, 2)
  else if first = 0xE0 then some (0xA0, 0xBF, 3)
  else if first = 0xED then some (0x80, 0x9F, 3)
  else if first < 0xF0 then some (0x80, 0xBF, 3)
  else if first = 0xF0 then some (0x90, 0xBF, 4)
  else if first < 0xF4 then some (0x80, 0xBF, 4)
  else if first = 0xF4 then some (0x80, 0x8F, 4)
  else none

def isContinuation (b : UInt8) : Bool := 0x80 ≤ b ∧ b ≤ 0xBF

/-- The character whose first byte keeps the given bits and whose other bytes
add six bits each. -/
def assemble (bits : UInt8) (others : Bytes) : Char :=
  Char.ofNat (others.foldl (fun code b => code * 64 + (b &&& 0x3F).toNat) bits.toNat)

def pieces : Bytes → List Piece
  | [] => []
  | a :: rest =>
    if a < 0x80 then .char (Char.ofNat a.toNat) :: pieces rest
    else
      match secondRange? a with
      | none => .invalid 1 :: pieces rest
      | some (low, high, length) =>
        match rest with
        | [] => [.incomplete]
        | b :: rest₂ =>
          if b < low ∨ high < b then .invalid 1 :: pieces (b :: rest₂)
          else if length = 2 then .char (assemble (a &&& 0x1F) [b]) :: pieces rest₂
          else
            match rest₂ with
            | [] => [.incomplete]
            | c :: rest₃ =>
              if !isContinuation c then .invalid 2 :: pieces (c :: rest₃)
              else if length = 3 then .char (assemble (a &&& 0x0F) [b, c]) :: pieces rest₃
              else
                match rest₃ with
                | [] => [.incomplete]
                | d :: rest₄ =>
                  if !isContinuation d then .invalid 3 :: pieces (d :: rest₄)
                  else .char (assemble (a &&& 0x07) [b, c, d]) :: pieces rest₄

/-- Where a byte string stops being text.  The length is missing when the bytes
end inside a character. -/
structure Fault where
  index : Nat
  length : Option Nat
  deriving DecidableEq

/-- Joins characters, and stops at the first other piece with the number of bytes
before it. -/
def join (index : Nat) (done : List Char) : List Piece → Except Fault (List Char)
  | [] => .ok done.reverse
  | .char c :: rest => join (index + c.utf8Size) (c :: done) rest
  | .invalid length :: _ => .error ⟨index, some length⟩
  | .incomplete :: _ => .error ⟨index, none⟩

def decode (bytes : Bytes) : Except Fault String :=
  (join 0 [] (pieces bytes)).map String.ofList

def replacement : Char := '\uFFFD'

/-- Every piece that is no character is read as the replacement character. -/
def lossy (bytes : Bytes) : String :=
  String.ofList <| (pieces bytes).map fun
    | .char c => c
    | _ => replacement

def encode (text : String) : Bytes := text.toList.flatMap String.utf8EncodeChar

end Utf8

end Emend
