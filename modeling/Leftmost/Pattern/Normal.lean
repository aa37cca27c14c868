import Leftmost.Pattern.Tree

/-!
# Leftmost.Pattern.Normal

The normal form of plain trees, which automata are built from. Its constructors are only applied
through functions that simplify as they go: texts that stand side by side are one text, sequences and
choices hold no others of their kind, a choice between single characters is a set, what all
alternatives begin with stands before the choice, and nothing is repeated that matches nothing.

A repetition that is dropped takes its groups along.
-/

namespace Leftmost

/-- A plain pattern in normal form. -/
inductive Normal where
  /-- These bytes; none of them is the empty pattern. -/
  | text (bytes : List UInt8)
  /-- One character of a set. -/
  | set (s : RangeSet)
  /-- One byte of a set. -/
  | byte (s : RangeSet)
  | look (l : Look)
  | group (index : Nat) (body : Normal)
  | seq (items : List Normal)
  | choice (items : List Normal)
  /-- From `lo` to `hi` times, as often as possible if `greedy` and as rarely if not. -/
  | loop (lo : Nat) (hi : Option Nat) (greedy : Bool) (body : Normal)
deriving Inhabited

namespace Normal

/-- What matches nothing, always. -/
def empty : Normal := text []

/-- What never matches. -/
def fail : Normal := byte .empty

/-! ## Lengths -/

mutual

/-- The least number of characters or bytes, for what can match. -/
def minLength : Normal → Option Nat
  | text bytes => some bytes.length
  | set s | byte s => if s.size = 0 then none else some 1
  | look _ => some 0
  | group _ t => t.minLength
  | seq ts => sumOfMins ts
  | choice ts => leastOfMins ts
  | loop lo _ _ t => t.minLength.map (lo * ·)

def sumOfMins : List Normal → Option Nat
  | [] => some 0
  | t :: ts => do return (← t.minLength) + (← sumOfMins ts)

def leastOfMins : List Normal → Option Nat
  | [] => none
  | [t] => t.minLength
  | t :: ts => do return min (← t.minLength) (← leastOfMins ts)

end

mutual

/-- Whether nothing but the empty text can match. -/
def isNothing : Normal → Bool
  | text bytes => bytes.isEmpty
  | look _ => true
  | set _ | byte _ => false
  | group _ t | loop _ _ _ t => t.isNothing
  | seq ts | choice ts => allNothing ts

def allNothing : List Normal → Bool
  | [] => true
  | t :: ts => t.isNothing && allNothing ts

end

/-! ## Equality -/

mutual

/-- Whether two patterns are written alike. -/
def same : Normal → Normal → Bool
  | text a, text b => a == b
  | set a, set b | byte a, byte b => a == b
  | look a, look b => a == b
  | group i a, group j b => i == j && same a b
  | seq as, seq bs | choice as, choice bs => allSame as bs
  | loop lo hi greedy a, loop lo' hi' greedy' b =>
    lo == lo' && hi == hi' && greedy == greedy' && same a b
  | _, _ => false

def allSame : List Normal → List Normal → Bool
  | [], [] => true
  | a :: as, b :: bs => same a b && allSame as bs
  | _, _ => false

end

/-- How many items two lists have in common at their front. -/
def commonItems : List Normal → List Normal → Nat
  | a :: as, b :: bs => if same a b then commonItems as bs + 1 else 0
  | _, _ => 0

/-! ## Simplifying -/

/-- One character of a set. A set of one member is a text. -/
def ofSet (s : RangeSet) : Normal :=
  match s.toList with
  | [] => fail
  | [(a, b)] => if a = b then text (String.utf8EncodeChar (Char.ofNat a)) else set s
  | _ => set s

/-- One byte of a set. -/
def ofByteSet (s : RangeSet) : Normal :=
  match s.toList with
  | [(a, b)] => if a = b then text [a.toUInt8] else byte s
  | _ => byte s

/-- The items of a sequence. -/
def items : Normal → List Normal
  | seq ts => ts
  | text [] => []
  | t => [t]

/-- Joins texts that stand side by side. -/
def joinTexts : List Normal → List Normal
  | [] => []
  | t :: ts =>
    match t, joinTexts ts with
    | text a, text b :: ts => text (a ++ b) :: ts
    | t, ts => t :: ts

/-- A sequence. -/
def ofSeq (ts : List Normal) : Normal :=
  match joinTexts (ts.flatMap items) with
  | [] => empty
  | [t] => t
  | ts => seq ts

/-- The alternatives of a choice. -/
def alternatives : Normal → List Normal
  | choice ts => ts
  | t => [t]

/-- The character that a pattern is. -/
def char? : Normal → Option Char
  | text bytes =>
    match (String.fromUTF8? ⟨bytes.toArray⟩).map String.toList with
    | some [c] => some c
    | _ => none
  | _ => none

/-- The byte that a pattern is. -/
def byte? : Normal → Option UInt8
  | text [b] => some b
  | _ => none

def isAscii (s : RangeSet) : Bool := s.toList.all fun r => r.2 < 0x80

/-- The characters that a set holds, if it is one of characters. -/
def chars? : Normal → Option RangeSet
  | set s => some s
  | byte s => if isAscii s then some s else none
  | _ => none

/-- The bytes that a set holds, if it is one of bytes. -/
def bytes? : Normal → Option RangeSet
  | byte s => some s
  | set s => if isAscii s then some s else none
  | _ => none

/-- The union of all sets in a list. -/
def unionOf (sets : List RangeSet) : RangeSet := .ofList (sets.flatMap RangeSet.toList)

/-- Alternatives as one set, if all of them are single characters or all of them are sets. -/
def mergedSet? (ts : List Normal) : Option Normal :=
  ((ts.mapM char?).map fun cs => ofSet (.ofList (cs.map fun c => (c.toNat, c.toNat)))).or <|
  ((ts.mapM byte?).map fun bs => ofByteSet (.ofList (bs.map fun b => (b.toNat, b.toNat)))).or <|
  ((ts.mapM chars?).map fun ss => ofSet (unionOf ss)).or <|
  (ts.mapM bytes?).map fun ss => ofByteSet (unionOf ss)

/-- How many items at their front all of some sequences have in common; none if one of them is no
sequence. -/
def commonFront : List Normal → Nat
  | seq first :: rest =>
    rest.foldl (fun n t => match t with
      | seq ts => min n (commonItems first ts)
      | _ => 0) first.length
  | _ => 0

/-- Alternatives, with those that are choices already resolved. -/
def ofAlternatives : Nat → List Normal → Normal
  | _, [] => fail
  | _, [t] => t
  | 0, ts => choice ts
  | fuel + 1, ts =>
    match mergedSet? ts with
    | some t => t
    | none =>
      match ts, commonFront ts with
      | seq first :: _, n + 1 =>
        let tails := ts.map fun t => ofSeq (t.items.drop (n + 1))
        ofSeq (first.take (n + 1) ++ [ofAlternatives fuel (tails.flatMap alternatives)])
      | ts, _ => choice ts

mutual

/-- The number of nodes. -/
def size : Normal → Nat
  | group _ t | loop _ _ _ t => t.size + 1
  | seq ts | choice ts => sizeOfAll ts + 1
  | _ => 1

def sizeOfAll : List Normal → Nat
  | [] => 0
  | t :: ts => t.size + sizeOfAll ts

end

/-- A choice. -/
def ofChoice (ts : List Normal) : Normal := ofAlternatives (sizeOfAll ts) (ts.flatMap alternatives)

/-- A repetition. What only matches nothing matches it as well the first time as any other. -/
def ofLoop (lo : Nat) (hi : Option Nat) (greedy : Bool) (t : Normal) : Normal :=
  let (lo, hi) := if t.isNothing then (min lo 1, some (min (hi.getD 1) 1)) else (lo, hi)
  if lo = 0 ∧ hi = some 0 then empty
  else if lo = 1 ∧ hi = some 1 then t
  else loop lo hi greedy t

/-! ## Groups -/

mutual

/-- The number of groups a matcher of the pattern reports: one more than the highest number of a
group. -/
def groupCount : Normal → Nat
  | group i t => max (i + 1) t.groupCount
  | seq ts | choice ts => mostGroups ts
  | loop _ _ _ t => t.groupCount
  | _ => 0

def mostGroups : List Normal → Nat
  | [] => 0
  | t :: ts => max t.groupCount (mostGroups ts)

end

/-! ## Backwards -/

mutual

/-- What the pattern matches, read from its end to its start. Conditions hold at a position, whatever
the direction. -/
def reverse : Normal → Normal
  | text bytes => text bytes.reverse
  | group i t => group i t.reverse
  | seq ts => seq (reverseAll ts).reverse
  | choice ts => choice (reverseAll ts)
  | loop lo hi greedy t => loop lo hi greedy t.reverse
  | t => t

def reverseAll : List Normal → List Normal
  | [] => []
  | t :: ts => t.reverse :: reverseAll ts

end

end Normal

/-! ## The normal form of a tree -/

namespace Tree

mutual

/-- The normal form of a plain tree. What is not plain never matches. -/
def normal : Tree → Normal
  | empty => .empty
  | char c => .text (String.utf8EncodeChar c)
  | set s _ => .ofSet s
  | byte s => .ofByteSet s
  | look l => .look l
  | group i t => .group i t.normal
  | seq ts => .ofSeq (normals ts)
  | choice ts => .ofChoice (normals ts)
  | loop lo hi greedy t => .ofLoop lo hi greedy t.normal
  | around .. | atomic _ | backref .. | isSet _ | branch .. | keepOut | searchStart => .fail

def normals : List Tree → List Normal
  | [] => []
  | t :: ts => t.normal :: normals ts

end

end Tree

end Leftmost
