import Leftmost.Checked

/-!
# Leftmost.Region

What a successful search reports: for each group where it begins and where it ends, in bytes. A
group that took no part has the greatest offset for both.

For callers a region is flattened: one row of offsets, begin then end for each group, with the
position of the pattern it belongs to. No match is the position 0 with no offsets.
-/

namespace Leftmost

/-- A byte offset. -/
abbrev Offset := UInt64

/-- The offset of a group that took no part. -/
def unsetOffset : Offset := UInt64.ofNat (UInt64.size - 1)

/-- The bounds of the groups of a match, group 0 first. -/
structure Region where
  bounds : Array (Offset × Offset)
deriving DecidableEq, Repr

namespace Region

/-- The bounds of a group, or of one that took no part. -/
def boundsOf (group : Option (Offset × Offset)) : Offset × Offset :=
  group.getD (unsetOffset, unsetOffset)

def ofGroups (groups : List (Option (Offset × Offset))) : Region :=
  ⟨(groups.map boundsOf).toArray⟩

def groupCount (r : Region) : Nat := r.bounds.size

@[simp]
theorem groupCount_ofGroups (groups : List (Option (Offset × Offset))) :
    (ofGroups groups).groupCount = groups.length := by
  simp [ofGroups, groupCount]

/-- The bounds of a group that exists; those of one that took no part otherwise. -/
def bound (r : Region) (group : Nat) : Offset × Offset := r.bounds.getD group (boundsOf none)

/-- Where a group begins. -/
def first (r : Region) (group : Nat) : Offset := (r.bound group).1

/-- Where a group ends. -/
def last (r : Region) (group : Nat) : Offset := (r.bound group).2

/-- Whether a group took part. -/
def isSet (r : Region) (group : Nat) : Bool := r.first group != unsetOffset

end Region

/-- A region in one row, with the position of its pattern. -/
structure FlatMatch where
  index : Nat
  offsets : Array Offset
deriving DecidableEq, Repr

namespace FlatMatch

def noMatch : FlatMatch := ⟨0, #[]⟩

def isMatch (m : FlatMatch) : Bool := !m.offsets.isEmpty

/-- Flattens a region. -/
def ofRegion (r : Region) (index : Nat) : FlatMatch :=
  ⟨index, (r.bounds.toList.flatMap fun (first, last) => [first, last]).toArray⟩

def size (m : FlatMatch) : Nat := m.offsets.size

def groupCount (m : FlatMatch) : Nat := m.offsets.size / 2

/-- The bounds of a group. The places of its offsets are words, so that the place of a group with a
great number cannot be computed. -/
def group? (m : FlatMatch) (group : UInt64) : Except Overflow (Option (Offset × Offset)) := do
  let place ← Checked.mul group 2
  match m.offsets[place.toNat]? with
  | none => return none
  | some first =>
    let next ← Checked.add place 1
    return m.offsets[next.toNat]?.map fun last => (first, last)

/-- A row of offsets two by two; an odd one at the end is dropped. -/
def pairs : List Offset → List (Offset × Offset)
  | first :: last :: rest => (first, last) :: pairs rest
  | _ => []

/-- The bounds of all groups. -/
def groups (m : FlatMatch) : List (Offset × Offset) := pairs m.offsets.toList

/-- A row made of pairs falls apart into those pairs. -/
theorem pairs_flatMap (bounds : List (Offset × Offset)) :
    pairs (bounds.flatMap fun (first, last) => [first, last]) = bounds := by
  induction bounds with
  | nil => rfl
  | cons b rest ih => simp [pairs, ih]

/-- Flattening keeps the bounds of every group. -/
theorem groups_ofRegion (r : Region) (index : Nat) :
    (ofRegion r index).groups = r.bounds.toList := by
  simp only [groups, ofRegion]
  exact pairs_flatMap r.bounds.toList

/-- What is handed to a caller that takes the offsets over: the position, the offsets and their
number. No match hands over nothing. -/
def handOver (m : FlatMatch) : Nat × Option (Array Offset) × Nat :=
  if m.offsets.isEmpty then (0, none, 0) else (m.index, some m.offsets, m.offsets.size)

end FlatMatch

end Leftmost
