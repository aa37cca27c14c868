/-!
# Leftmost.RangeSet

Sets of code points or of bytes, kept as ascending ranges with both ends included. Patterns name
large sets (a script, every letter, all but one character), so a set is never listed member by
member: membership is a binary search and the set operations walk the ranges.

Every operation takes normal sets (ascending, disjoint, not adjacent) to normal sets;
`ofList` makes any list of ranges normal.
-/

namespace Leftmost

/-- A set of numbers as ascending, disjoint ranges `(first, last)`, both ends included. -/
structure RangeSet where
  ranges : Array (Nat × Nat)
deriving DecidableEq, Inhabited

namespace RangeSet

/-! ## Normal form -/

/-- Joins each range with its successors while they overlap or touch it. -/
def join : Nat × Nat → List (Nat × Nat) → List (Nat × Nat)
  | r, [] => [r]
  | r, s :: rest =>
    if s.1 ≤ r.2 + 1 then join (r.1, max r.2 s.2) rest else r :: join s rest

/-- The set of a list of ranges in any order; ranges that run backwards are empty. -/
def ofList (rs : List (Nat × Nat)) : RangeSet :=
  match (rs.filter fun r => r.1 ≤ r.2).mergeSort (fun a b => a.1 ≤ b.1) with
  | [] => ⟨#[]⟩
  | r :: rest => ⟨(join r rest).toArray⟩

def empty : RangeSet := ⟨#[]⟩

def singleton (n : Nat) : RangeSet := ⟨#[(n, n)]⟩

def range (first last : Nat) : RangeSet := ofList [(first, last)]

def toList (s : RangeSet) : List (Nat × Nat) := s.ranges.toList

/-! ## Membership -/

/-- Looks for `n` among the ranges from `lo` up to but not including `hi`. -/
def search (rs : Array (Nat × Nat)) (n : Nat) (lo hi : Nat) : Bool :=
  if lo < hi then
    let mid := (lo + hi) / 2
    match rs[mid]? with
    | none => false
    | some (first, last) =>
      if n < first then search rs n lo mid
      else if last < n then search rs n (mid + 1) hi
      else true
  else false
termination_by hi - lo
decreasing_by all_goals omega

def contains (s : RangeSet) (n : Nat) : Bool := search s.ranges n 0 s.ranges.size

/-! ## Set operations -/

def union (a b : RangeSet) : RangeSet := ofList (a.toList ++ b.toList)

/-- The ranges between those of a set, from `next` to `top`. -/
def gaps (top : Nat) : Nat → List (Nat × Nat) → List (Nat × Nat)
  | next, [] => if next ≤ top then [(next, top)] else []
  | next, (first, last) :: rest =>
    if next < first then (next, min (first - 1) top) :: gaps top (last + 1) rest
    else gaps top (last + 1) rest

/-- The common part of two ascending lists of ranges. -/
def meet : List (Nat × Nat) → List (Nat × Nat) → List (Nat × Nat)
  | [], _ => []
  | _, [] => []
  | (a, b) :: xs, (c, d) :: ys =>
    let common := if max a c ≤ min b d then [(max a c, min b d)] else []
    if b ≤ d then common ++ meet xs ((c, d) :: ys) else common ++ meet ((a, b) :: xs) ys
termination_by xs ys => xs.length + ys.length

def inter (a b : RangeSet) : RangeSet := ofList (meet a.toList b.toList)

/-- What `a` holds and `b` does not. -/
def diff (a b : RangeSet) : RangeSet :=
  let top := a.toList.foldl (fun t r => max t r.2) 0
  ofList (meet a.toList (gaps top 0 b.toList))

def symmDiff (a b : RangeSet) : RangeSet := (a.diff b).union (b.diff a)

/-- How many numbers a set holds. -/
def size (s : RangeSet) : Nat := s.ranges.foldl (fun n r => n + (r.2 - r.1 + 1)) 0

/-! ## The two universes -/

/-- Every character: all code points but the surrogates. -/
def scalars : RangeSet := ⟨#[(0, 0xd7ff), (0xe000, 0x10ffff)]⟩

/-- Every byte. -/
def allBytes : RangeSet := ⟨#[(0, 0xff)]⟩

end RangeSet

end Leftmost
