/-!
# Leftmost.Handle

Tokens for compiled patterns. A token names a slot and the slot's generation, so that one whose
pattern was given up never stands for a later pattern in the same slot.

Packed, a token is one 64-bit word: the slot plus one in the low half, the generation in the high
half. A word whose low half is zero is no token, so no token is the word zero.
-/

namespace Leftmost

/-- A token for a compiled pattern. -/
structure Handle where
  slot : Nat
  generation : Nat
deriving DecidableEq, Repr

namespace Handle

/-- Number of bits of a slot, and of a generation. -/
def halfBits : Nat := 32

/-- One more than the greatest value of a half. -/
def halfSize : Nat := 1 <<< halfBits

theorem halfSize_eq : halfSize = 4294967296 := rfl

theorem halfSize_pos : 0 < halfSize := by decide

theorem halfSize_sub_one_add_one : halfSize - 1 + 1 = halfSize := rfl

/-- The packed form. -/
def toRaw (h : Handle) : UInt64 :=
  (h.slot + 1).toUInt64 ||| (h.generation.toUInt64 <<< halfBits.toUInt64)

/-- The token of a packed form. -/
def ofRaw? (raw : UInt64) : Option Handle :=
  let low := raw &&& (halfSize - 1).toUInt64
  if low = 0 then none
  else some { slot := low.toNat - 1, generation := (raw >>> halfBits.toUInt64).toNat }

/-- How a token is shown. -/
def render (h : Handle) : String := s!"#{h.slot}@{h.generation}"

end Handle

end Leftmost
