import Leftmost.Match.Machine
import Leftmost.Pattern.Extended

/-!
# Leftmost.Match.Matcher

From the text of a pattern to something that searches. A plain pattern becomes an automaton. An
extended one becomes an automaton too where that is possible, and else a plan to be carried out by
the machine; the plan then begins by trying every position in turn, unless the pattern can only
match at the start of the text.

A look-ahead at the very end of an extended pattern is not looked at but matched: what it covers is
left out of the match by ending group 0 before it. A limit on room binds only patterns that become an
automaton as a whole.
-/

namespace Leftmost

/-- A pattern ready to search. -/
inductive Matcher where
  | automaton (a : Automaton) (starts : Automaton.Starts) (groups : Nat)
  | plan (p : Plan) (slots groups : Nat)

/-- Where a group begins and ends, or `none` if it took no part. -/
abbrev Span := Option (Nat × Nat)

namespace Matcher

/-! ## Preparing -/

/-- The matcher of a plain tree that marks group 0 itself. -/
def ofMarked (starts : Automaton.Starts) (t : Tree) : Matcher :=
  let normal := t.normal
  automaton (.ofNormal normal) starts normal.groupCount

/-- The matcher of a plain pattern whose automaton fits into so many bytes. -/
def ofPlain (roomLimit : Nat) (text : String) : Except Fault Matcher :=
  match Plain.read text with
  | .error why => .error (.malformed why)
  | .ok t =>
    if t.normal.fits roomLimit then .ok (ofMarked .bytes (.group 0 t)) else .error .oversized

/-- A tree that marks group 0 itself, and whether it is `t` with a look-ahead at its end taken in. -/
def takeInLookAhead (t : Tree) : Tree × Bool :=
  match t with
  | .seq ts =>
    match ts.getLast? with
    | some (.around true true body) => (.seq [.group 0 (.ofSeq ts.dropLast), body], true)
    | _ => (t, false)
  | .around true true body => (.seq [.group 0 .empty, body], true)
  | t => (t, false)

/-- Whether a pattern can only match at the start of the text. -/
def beginsAtStart : Tree → Bool
  | .seq (.look .textStart :: _) | .look .textStart => true
  | _ => false

/-- Tries every position in turn, the first preferred. -/
def unanchored (p : Plan) : Plan := .andThen (.zeroOrMore false (.set .scalars)) p

/-- The matcher of an extended pattern. -/
def ofExtended (roomLimit : Nat) (text : String) : Except Fault Matcher := do
  let parsed ← Extended.read text
  let (t, marked) := takeInLookAhead parsed.tree
  if !(t.traits parsed.referenced []).1.hard then
    match t.objection? roomLimit (t.nesting .alone) with
    | some why => throw (.unsupported why)
    | none => return ofMarked .characters (if marked then t else .group 0 t)
  let groups := parsed.groups + 1
  let planning := (Plan.ofTree false 0 t).run parsed.referenced
  match planning.run { nextSlot := 2 * groups, lengths := [] } with
  | .error why => throw (.unsupported why)
  | .ok (p, progress) =>
    let p := if marked then p else .group 0 p
    return plan (if beginsAtStart t then p else unanchored p) progress.nextSlot groups

/-- Number of groups every match reports, group 0 included. -/
def groupCount : Matcher → Nat
  | automaton _ _ n | plan _ _ n => n

/-! ## Searching -/

/-- The spans of the first groups, read off slots. -/
def spans (slots : Automaton.Slots) (groups : Nat) : List Span :=
  (List.range groups).map (Plan.groupSpan? slots)

/-- The groups of the leftmost match in `h` from `start` on. A backtracking search goes back at most
`limit` times. -/
def search (m : Matcher) (limit : Nat) (h : ByteArray) (start : Nat) :
    Except Plan.Overrun (Option (List Span)) :=
  match m with
  | automaton a starts groups =>
    .ok ((a.search h start (2 * groups) starts).map fun (_, slots) => spans slots groups)
  | plan p slotCount groups =>
    (p.search h start slotCount limit).map fun found => found.map fun slots => spans slots groups

end Matcher

end Leftmost
