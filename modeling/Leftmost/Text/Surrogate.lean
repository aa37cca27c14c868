/-!
# Leftmost.Text.Surrogate

Text as 16-bit code units. A character beyond U+FFFF takes two units, a high surrogate and a low
one; every other character takes one. A surrogate that stands without its partner is no character:
decoding puts U+FFFD in its place, so that every sequence of units has a reading and each decoded
character knows how many units it came from.
-/

namespace Leftmost

/-- One 16-bit code unit. -/
abbrev Unit16 := UInt16

namespace Unit16

/-- The first unit of a pair. -/
def isHigh (u : Unit16) : Bool := 0xd800 ≤ u && u < 0xdc00

/-- The second unit of a pair. -/
def isLow (u : Unit16) : Bool := 0xdc00 ≤ u && u < 0xe000

/-- The character of a pair. -/
def pair (high low : Unit16) : Char :=
  Char.ofNat (0x10000 + (high.toNat - 0xd800) * 0x400 + (low.toNat - 0xdc00))

/-- What stands for a surrogate without a partner. -/
def replacement : Char := '\ufffd'

/-- The character of a unit that belongs to no pair. -/
def single (u : Unit16) : Char :=
  if u.isHigh || u.isLow then replacement else Char.ofNat u.toNat

/-- Decodes from left to right onto `done`; each character comes with its number of units. -/
def decodeOnto (done : Array (Char × Nat)) : List Unit16 → Array (Char × Nat)
  | [] => done
  | [u] => done.push (single u, 1)
  | u :: v :: rest =>
    if u.isHigh && v.isLow then decodeOnto (done.push (pair u v, 2)) rest
    else decodeOnto (done.push (single u, 1)) (v :: rest)

/-- The characters of a sequence of units, each with the number of units it came from. -/
def decode (units : List Unit16) : List (Char × Nat) := (decodeOnto #[] units).toList

/-- What was decoded before stays in front and decides nothing. -/
theorem decodeOnto_append (before done : Array (Char × Nat)) (units : List Unit16) :
    decodeOnto (before ++ done) units = before ++ decodeOnto done units := by
  fun_induction decodeOnto done units with
  | case1 done => simp [decodeOnto]
  | case2 done u => simp [decodeOnto]
  | case3 done u v rest h ih => rw [decodeOnto, if_pos h, ← ih, Array.push_append]
  | case4 done u v rest h ih => rw [decodeOnto, if_neg h, ← ih, Array.push_append]

theorem toList_decodeOnto (done : Array (Char × Nat)) (units : List Unit16) :
    (decodeOnto done units).toList = done.toList ++ decode units := by
  simpa [decode] using congrArg Array.toList (decodeOnto_append done #[] units)

@[simp]
theorem decode_nil : decode [] = [] := by simp [decode, decodeOnto]

@[simp]
theorem decode_single (u : Unit16) : decode [u] = [(single u, 1)] := by simp [decode, decodeOnto]

/-- A pair is one character. -/
theorem decode_pair {u v : Unit16} (h : (u.isHigh && v.isLow) = true) (rest : List Unit16) :
    decode (u :: v :: rest) = (pair u v, 2) :: decode rest := by
  rw [decode, decodeOnto, if_pos h, toList_decodeOnto]
  simp

/-- A unit that begins no pair is a character of its own. -/
theorem decode_alone {u v : Unit16} (h : ¬(u.isHigh && v.isLow) = true) (rest : List Unit16) :
    decode (u :: v :: rest) = (single u, 1) :: decode (v :: rest) := by
  rw [decode, decodeOnto, if_neg h, toList_decodeOnto]
  simp

/-- The units of a character. -/
def ofChar (c : Char) : List Unit16 :=
  if c.toNat < 0x10000 then [c.toNat.toUInt16]
  else
    [(0xd800 + (c.toNat - 0x10000) / 0x400).toUInt16, (0xdc00 + (c.toNat - 0x10000) % 0x400).toUInt16]

/-- The units of a text. -/
def ofString (s : String) : Array Unit16 := s.foldl (fun out c => out ++ ofChar c) #[]

/-- The text of a sequence of units. -/
def toText (units : List Unit16) : String :=
  (decode units).foldl (fun out (c, _) => out.push c) ""

end Unit16

end Leftmost
