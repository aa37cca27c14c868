import Leftmost.Text.Surrogate

/-!
# Leftmost.Text.Indexed

Text held in both forms: the 16-bit units that editors count positions in and the UTF-8 bytes that
searches run on, with an offset map in each direction.

The two offsets coincide up to the first character that is not ASCII. From there on a table gives
the byte offset of each unit, relative to the table's own start; its entries are 32 bits wide.
Going back is a binary search in that table.
-/

namespace Leftmost

/-- A text with its two forms and the table that relates their offsets. -/
structure IndexedText where
  units : Array Unit16
  bytes : ByteArray
  /-- The unit where the table starts. -/
  tableStart : Nat
  /-- For each unit from `tableStart` on, its byte offset less `tableStart`. -/
  table : Option (Array UInt32)

namespace IndexedText

/-! ## Building -/

/-- The text read so far. -/
structure Building where
  bytes : ByteArray := .empty
  position : Nat := 0
  tableStart : Nat := 0
  table : Option (Array UInt32) := none

/-- Adds a character that came from `width` units. -/
def Building.add (b : Building) (c : Char) (width : Nat) : Building :=
  let (start, table) :=
    match b.table with
    | some table => (b.tableStart, some table)
    | none => if c.utf8Size > 1 ∨ width > 1 then (b.position, some #[]) else (b.tableStart, none)
  { bytes := b.bytes ++ (String.utf8EncodeChar c).toByteArray
    position := b.position + width
    tableStart := start
    table := table.map fun t => t ++ Array.replicate width (b.bytes.size - start).toUInt32 }

/-- The text of a sequence of units. -/
def ofUnits (units : Array Unit16) : IndexedText :=
  let built : Building :=
    (Unit16.decode units.toList).foldl (fun b (c, width) => b.add c width) {}
  { units, bytes := built.bytes, tableStart := built.tableStart, table := built.table }

def ofString (s : String) : IndexedText := ofUnits (Unit16.ofString s)

@[simp]
theorem units_ofUnits (units : Array Unit16) : (ofUnits units).units = units := rfl

/-! ## Reading -/

/-- Length in units. -/
def size (t : IndexedText) : Nat := t.units.size

def isEmpty (t : IndexedText) : Bool := t.units.isEmpty

def hasMultiByte (t : IndexedText) : Bool := t.table.isSome

def toText (t : IndexedText) : String := Unit16.toText t.units.toList

/-- The text between two unit offsets, taken in either order and cut to the text's length. -/
def substring (t : IndexedText) (i j : Nat) : String :=
  let i := min i t.size
  let j := min j t.size
  Unit16.toText (t.units.extract (min i j) (max i j)).toList

/-! ## Offsets -/

/-- An entry of a table; the entries past its end count as 0. -/
def entry (table : Array UInt32) (i : Nat) : Nat := (table.getD i 0).toNat

/-- The byte offset of a unit; from the end on, the length in bytes. -/
def byteOffset (t : IndexedText) (unit : Nat) : Nat :=
  if t.units.size ≤ unit then t.bytes.size
  else
    match t.table with
    | some table =>
      if t.tableStart ≤ unit then entry table (unit - t.tableStart) + t.tableStart else unit
    | none => unit

/-- The number of entries below `offset` at the front of an ascending table, found by halving the
span from `lo` to `hi`. -/
def countBelow (table : Array UInt32) (offset : Nat) (lo hi : Nat) : Nat :=
  if lo < hi then
    let mid := (lo + hi) / 2
    if entry table mid < offset then countBelow table offset (mid + 1) hi
    else countBelow table offset lo mid
  else lo
termination_by hi - lo
decreasing_by all_goals omega

/-- Steps back to an entry that is not above `offset`. -/
def stepBack (table : Array UInt32) (offset : Nat) : Nat → Nat
  | 0 => 0
  | low + 1 =>
    if table.size ≤ low + 1 ∨ offset < entry table (low + 1) then stepBack table offset low
    else low + 1

/-- The first entry that holds the greatest value not above `offset`. -/
def firstEntryAt (table : Array UInt32) (offset : Nat) : Nat :=
  let low := stepBack table offset (countBelow table offset 0 table.size)
  if 0 < low ∧ entry table low = entry table (low - 1) then low - 1 else low

/-- The unit where the character holding a byte begins; from the end on, the length in units. -/
def unitOffset (t : IndexedText) (byte : Nat) : Nat :=
  if t.bytes.size ≤ byte then t.units.size
  else
    match t.table with
    | some table =>
      if t.tableStart ≤ byte then firstEntryAt table (byte - t.tableStart) + t.tableStart else byte
    | none => byte

end IndexedText

end Leftmost
