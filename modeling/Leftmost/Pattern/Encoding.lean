import Leftmost.RangeSet

/-!
# Leftmost.Pattern.Encoding

Sets of characters byte by byte: the encodings of the members of a set, as sequences of ranges of
bytes. A sequence stands for all texts that take one byte of each of its ranges in turn. Sequences are
in order, and no encoding is in two of them.
-/

namespace Leftmost

/-- A range of bytes, both ends included. -/
abbrev ByteRange := UInt8 × UInt8

namespace RangeSet

/-- Where a range of code points has to be split for its parts to be ranges byte by byte: the end of
the first part. -/
def splitPoint? (first last : Nat) : Option Nat :=
  match [0x7f, 0x7ff, 0xffff].find? fun m => first ≤ m && m < last with
  | some m => some m
  | none =>
    if last ≤ 0x7f then none
    else
      [0x40, 0x1000, 0x40000].findSome? fun n =>
        if first / n = last / n then none
        else if first % n ≠ 0 then some (first - first % n + (n - 1))
        else if last % n ≠ n - 1 then some (last - last % n - 1)
        else none

def encoding (n : Nat) : List UInt8 := String.utf8EncodeChar (Char.ofNat n)

/-- The encodings of a range of code points, none of them a surrogate. -/
def encodingsBetween : Nat → Nat → Nat → List (List ByteRange)
  | 0, _, _ => []
  | fuel + 1, first, last =>
    match splitPoint? first last with
    | some m => encodingsBetween fuel first m ++ encodingsBetween fuel (m + 1) last
    | none => [(encoding first).zip (encoding last)]

/-- The encodings of a set. -/
def encodings (s : RangeSet) : List (List ByteRange) :=
  (s.inter scalars).toList.flatMap fun (first, last) => encodingsBetween 64 first last

end RangeSet

end Leftmost
