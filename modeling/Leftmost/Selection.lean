import Leftmost.Log
import Leftmost.Region

/-!
# Leftmost.Selection

Which of several patterns matches first. Each pattern in turn searches the same range of the same
text; the match that begins earliest wins, and of matches that begin together the one whose pattern
comes first in the list. A search that fails ends the pass, whatever was found before.

A searcher may do something besides searching, so a pass runs in any monad; what it does in which
order is part of its meaning.
-/

namespace Leftmost

/-- A text and the place to start from, which is not beyond its end. -/
structure Window where
  haystack : ByteArray
  start : Nat
  start_le : start ≤ haystack.size

namespace Window

/-- A start beyond the end is moved to the end. -/
def ofStart (haystack : ByteArray) (start : Nat) : Window :=
  ⟨haystack, min start haystack.size, Nat.min_le_right ..⟩

/-- The end of the range to search. -/
def stop (w : Window) : Nat := w.haystack.size

end Window

/-- What can look for a match in a range of a text. -/
abbrev Searcher (m : Type → Type) :=
  ByteArray → Nat → Nat → m (Except SearchFailure (Option Region))

namespace Selection

/-- The best match so far: the position of its pattern, and its region. -/
abbrev Best := Option (Nat × Region)

/-- Whether a region goes before the best so far. -/
def isBetter (best : Best) (r : Region) : Bool :=
  match best with
  | none => true
  | some (_, current) => r.first 0 < current.first 0

/-- Goes on with the searchers from a position in the list on. -/
def selectFrom {m : Type → Type} [Monad m] (w : Window) (best : Best) (index : Nat) :
    List (Searcher m) → m (Logged (Except ScanError Best))
  | [] => return { value := .ok best, events := [.selectionTimed] }
  | search :: rest => do
    match ← search w.haystack w.start w.stop with
    | .error failure =>
      return {
        value := .error (.ofFailure index failure)
        events := [.searchFailed index w.start failure, .selectionTimed] }
    | .ok none => selectFrom w best (index + 1) rest
    | .ok (some r) =>
      if 0 < r.groupCount && isBetter best r then
        let later ← selectFrom w (some (index, r)) (index + 1) rest
        return { later with events := .bestSoFar index (r.first 0) :: later.events }
      else selectFrom w best (index + 1) rest

/-- The winner among searchers, if one of them finds a match: its position and its region. A region
without groups does not count. -/
def select {m : Type → Type} [Monad m] (searchers : List (Searcher m)) (w : Window) :
    m (Logged (Except ScanError Best)) :=
  selectFrom w none 0 searchers

end Selection

end Leftmost
