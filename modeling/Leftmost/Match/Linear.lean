import Leftmost.Match.Automaton

/-!
# Leftmost.Match.Linear

Running an automaton in one pass over the text. All ways to match advance together, byte by byte,
in order of preference; of two ways that reach the same node at the same position the less preferred
one is dropped, so the work per byte is bounded by the number of nodes. The first way in order that
reaches the end of the automaton is the match, and only those before it go on.

A character of several bytes is consumed at once: the way then waits until the pass has come to the
position behind it.

A pass can also go backwards, from the end of a match to its start; the automaton is then that of the
reversed pattern.
-/

namespace Leftmost.Automaton

/-- Where groups begin and end, by slot: twice the group's number, plus one for its end. -/
abbrev Slots := Array (Option Nat)

/-- Which way a pass goes over the text. -/
inductive Direction where
  | forward
  | backward
deriving DecidableEq, Repr

namespace Direction

/-- The byte that comes next at `p`. -/
def byte? (d : Direction) (h : ByteArray) (p : Nat) : Option UInt8 :=
  match d with
  | forward => if p < h.size then some (Utf8.byteAt h p) else none
  | backward => if 0 < p then some (Utf8.byteAt h (p - 1)) else none

/-- The character that comes next at `p`. -/
def char? (d : Direction) (h : ByteArray) (p : Nat) : Option Char :=
  match d with
  | forward => Utf8.charAt h p
  | backward => Utf8.charBefore h p

/-- The position one byte on. -/
def step (d : Direction) (p : Nat) : Nat :=
  match d with
  | forward => p + 1
  | backward => p - 1

end Direction

/-- One way to match: the node it has reached, or reaches once the pass has moved on by `wait`
bytes. -/
structure Way where
  node : Nat
  wait : Nat
  slots : Slots

/-- What a pass carries from one position to the next. -/
structure Pass where
  /-- For each node, one more than the last position at which it was reached. -/
  seen : Array Nat
  /-- The ways at the next position, in order of preference. -/
  coming : Array Way
  /-- The best match so far: where it ends, and its slots. -/
  found : Option (Nat × Slots)

/-- What a pass runs on: an automaton, the text, the direction, and the position, if any, behind which
a match must not end. -/
structure Course where
  automaton : Automaton
  text : ByteArray
  direction : Direction := .forward
  bound : Option Nat := none

/-- Whether a match may end at `p`. -/
def Course.mayEnd (c : Course) (p : Nat) : Bool := c.bound.all (p ≤ ·)

/-- Follows the nodes of a stack at position `p`, most preferred first, until each way consumes
something, ends or is dropped. Tells whether one of them matched. -/
def follow (c : Course) (p : Nat) : Nat → List (Nat × Slots) → Pass → Bool × Pass
  | 0, _, pass => (false, pass)
  | _, [], pass => (false, pass)
  | fuel + 1, (n, slots) :: stack, pass =>
    if pass.seen.getD n 0 = p + 1 then follow c p fuel stack pass
    else
      let pass := { pass with seen := pass.seen.setIfInBounds n (p + 1) }
      let advance (next width : Nat) :=
        follow c p fuel stack { pass with coming := pass.coming.push ⟨next, width - 1, slots⟩ }
      match c.automaton.nodes.getD n .fail with
      | .unit b next =>
        if c.direction.byte? c.text p = some b then advance next 1 else follow c p fuel stack pass
      | .set s next =>
        match c.direction.byte? c.text p with
        | none => follow c p fuel stack pass
        | some b =>
          if b < 0x80 then
            if s.contains b.toNat then advance next 1 else follow c p fuel stack pass
          else
            match c.direction.char? c.text p with
            | some x =>
              if s.contains x.toNat then advance next x.utf8Size else follow c p fuel stack pass
            | none => follow c p fuel stack pass
      | .byte s next =>
        match c.direction.byte? c.text p with
        | some b => if s.contains b.toNat then advance next 1 else follow c p fuel stack pass
        | none => follow c p fuel stack pass
      | .look l next =>
        if l.holds c.text p then follow c p fuel ((next, slots) :: stack) pass
        else follow c p fuel stack pass
      | .mark slot next =>
        follow c p fuel ((next, slots.setIfInBounds slot (some p)) :: stack) pass
      | .fork first second =>
        follow c p fuel ((first, slots) :: (second, slots) :: stack) pass
      | .fail => follow c p fuel stack pass
      | .accept =>
        if c.mayEnd p then (true, { pass with found := some (p, slots) })
        else follow c p fuel stack pass

/-- More steps than following a stack of one way takes. -/
def Course.fuel (c : Course) : Nat := 2 * c.automaton.nodes.size + 2

/-- Takes the ways that have come to position `p`, in order; those still waiting go on waiting.
After a match the rest is dropped. -/
def arrive (c : Course) (p : Nat) : List Way → Pass → Bool × Pass
  | [], pass => (false, pass)
  | way :: ways, pass =>
    match way.wait with
    | wait + 1 =>
      arrive c p ways
        { pass with coming := pass.coming.push ⟨way.node, wait, way.slots⟩ }
    | 0 =>
      match follow c p c.fuel [(way.node, way.slots)] pass with
      | (true, pass) => (true, pass)
      | (false, pass) => arrive c p ways pass

/-- Which positions a match may begin at. -/
inductive Starts where
  /-- Only the first. -/
  | anchored
  /-- Any byte. -/
  | bytes
  /-- Any position between characters. -/
  | characters
deriving DecidableEq

/-- Whether a match may begin at `p`, given that the pass began at `first`. -/
def Starts.allows (s : Starts) (h : ByteArray) (first p : Nat) : Bool :=
  match s with
  | anchored => p == first
  | bytes => true
  | characters => Utf8.isBoundary h p

/-- Goes on from position `p` while there are bytes left and something can still match. -/
def passFrom (c : Course) (starts : Starts) (blank : Slots) (first : Nat) :
    Nat → Nat → Array Way → Pass → Pass
  | 0, _, _, pass => pass
  | fuel + 1, p, ways, pass =>
    let (matched, pass) := arrive c p ways.toList pass
    let pass :=
      if !matched && pass.found.isNone && starts.allows c.text first p then
        (follow c p c.fuel [(c.automaton.entry, blank)] pass).2
      else pass
    if pass.coming.isEmpty && (pass.found.isSome || starts == .anchored) then pass
    else
      passFrom c starts blank first fuel (c.direction.step p) pass.coming { pass with coming := #[] }

/-- How many positions there are from `first` on. -/
def Course.length (c : Course) (first : Nat) : Nat :=
  match c.direction with
  | .forward => c.text.size + 1 - first
  | .backward => first + 1

/-- The pass from `first` on: where the match ends, and its slots. -/
def Course.run (c : Course) (first slotCount : Nat) (starts : Starts) : Option (Nat × Slots) :=
  (passFrom c starts (Array.replicate slotCount none) first (c.length first) first #[]
    { seen := Array.replicate c.automaton.nodes.size 0, coming := #[], found := none }).found

/-- The match of an automaton in `h` at or after `first`: where it ends, and its slots. -/
def search (a : Automaton) (h : ByteArray) (first slotCount : Nat) (starts : Starts) :
    Option (Nat × Slots) :=
  { automaton := a, text := h : Course }.run first slotCount starts

/-- Where the match begins that ends at `last`: the preferred way backwards, by the automaton of the
reversed pattern. -/
def startBefore (a : Automaton) (h : ByteArray) (last : Nat) : Option Nat :=
  ({ automaton := a, text := h, direction := .backward : Course }.run last 0 .anchored).map (·.1)

/-- The slots of the preferred way that leads from `first` to `last` or to some place before it. -/
def groupsBetween (a : Automaton) (h : ByteArray) (first last slotCount : Nat) : Option Slots :=
  ({ automaton := a, text := h, bound := some last : Course }.run first slotCount .anchored).map (·.2)

end Leftmost.Automaton
