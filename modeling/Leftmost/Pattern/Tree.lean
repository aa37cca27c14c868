import Leftmost.RangeSet

/-!
# Leftmost.Pattern.Tree

What a pattern says, once its text has been read: both dialects produce the same trees. The plain
constructs can be matched by moving through the text once; the others need backtracking: look-around,
back-references, atomic groups, conditions, the start of the search and the start of the report.

Capture groups carry their number. Group 0, the whole match, is a node like the others. Groups that
only group leave no node behind.
-/

namespace Leftmost

/-- A place between two characters with respect to words. -/
inductive WordEdge where
  /-- A word begins or ends here. -/
  | edge
  /-- Neither. -/
  | inside
  | start
  | stop
  /-- No word character before. -/
  | startHalf
  /-- No word character after. -/
  | stopHalf
deriving DecidableEq, Repr

/-- A condition on a position that consumes nothing. -/
inductive Look where
  | textStart
  | textEnd
  /-- Line ends are line feeds; with `crlf` they are carriage return, line feed or both. -/
  | lineStart (crlf : Bool)
  | lineEnd (crlf : Bool)
  | word (place : WordEdge) (ascii : Bool)
deriving DecidableEq, Repr

/-- A pattern. -/
inductive Tree where
  | empty
  /-- One given character. -/
  | char (c : Char)
  /-- One character of a set; what spells the set is nested `depth` deep. -/
  | set (s : RangeSet) (depth : Nat := 0)
  /-- One byte of a set. -/
  | byte (s : RangeSet)
  | look (l : Look)
  | group (index : Nat) (body : Tree)
  | seq (items : List Tree)
  | choice (items : List Tree)
  /-- From `lo` to `hi` times, as often as possible if `greedy` and as rarely if not. -/
  | loop (lo : Nat) (hi : Option Nat) (greedy : Bool) (body : Tree)
  | around (ahead positive : Bool) (body : Tree)
  /-- Once matched, not matched again another way. -/
  | atomic (body : Tree)
  | backref (group : Nat) (caseless : Bool)
  /-- Holds if a group took part. -/
  | isSet (group : Nat)
  | branch (condition yes no : Tree)
  /-- The reported match begins here. -/
  | keepOut
  | searchStart
deriving Inhabited

namespace Tree

/-- A sequence, flat where that loses nothing. -/
def ofSeq : List Tree → Tree
  | [] => empty
  | [t] => t
  | ts => seq ts

mutual

/-- Whether the numbers of repetitions are in order and have 32 bits. -/
def countsValid : Tree → Bool
  | loop lo hi _ t =>
    hi.all (fun n => lo ≤ n && n < UInt32.size) && lo < UInt32.size && t.countsValid
  | group _ t | around _ _ t | atomic t => t.countsValid
  | seq ts | choice ts => allCountsValid ts
  | branch c y n => c.countsValid && y.countsValid && n.countsValid
  | _ => true

def allCountsValid : List Tree → Bool
  | [] => true
  | t :: ts => t.countsValid && allCountsValid ts

end

/-! ## Nesting -/

/-- How deeply the spelling of a pattern may be nested. -/
def maxNesting : Nat := 250

/-- Where a part of a pattern stands; the more tightly it is bound there, the more kinds of parts have
to be put in parentheses. -/
inductive Place where
  /-- Alone between two parentheses, or as the whole pattern. -/
  | alone
  /-- One of several alternatives. -/
  | alternative
  /-- One of several items in a row. -/
  | item
  /-- What an operator repeats. -/
  | operand
deriving DecidableEq, Repr

/-- The level that parentheses add. -/
def Place.parentheses (needed : Bool) : Nat := if needed then 1 else 0

open Place in
mutual

/-- How many levels deep the spelling of a plain tree is nested: a sequence, a choice, a repetition, a
pair of parentheses and what spells a set each add to it. -/
def nesting : Place → Tree → Nat
  | _, set _ depth => depth
  | _, look (.lineStart _) | _, look (.lineEnd _) => 1
  | _, group _ t => nesting alone t + 1
  | place, seq ts => mostNested item ts + 1 + parentheses (place = item ∨ place = operand)
  | place, choice ts => mostNested alternative ts + 1 + parentheses (place ≠ alone)
  | place, loop _ _ _ t => nesting operand t + 1 + parentheses (place = operand)
  | _, _ => 0

def mostNested : Place → List Tree → Nat
  | _, [] => 0
  | place, t :: ts => max (nesting place t) (mostNested place ts)

end

/-- The nesting of a part that is spelt by writing items one behind the other; items that are
sequences themselves run into one with the others. -/
def nestingOfRow : List Tree → Nat
  | [t] => nesting .alternative t
  | ts => mostIn ts + 1
where
  mostIn : List Tree → Nat
    | [] => 0
    | seq us :: ts => max (mostNested .item us) (mostIn ts)
    | t :: ts => max (nesting .alternative t) (mostIn ts)

end Tree

end Leftmost
