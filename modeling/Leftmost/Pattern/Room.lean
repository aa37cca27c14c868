import Std.Data.HashMap
import Leftmost.Pattern.Encoding
import Leftmost.Pattern.Texts
import Leftmost.Pattern.Refusal

/-!
# Leftmost.Pattern.Room

How much room the automaton of a pattern takes, in bytes, when it is laid out byte by byte.
Repetitions are written out, so the room of a pattern is in no relation to the length of its text.

Each pattern is laid out twice: once to be matched forwards, with marks for its groups, and once to be
matched backwards. Both layouts have to fit. A set of characters is laid out as a tree of ranges of
bytes. Forwards, parts of the tree that are alike are there once. Backwards the tree begins at its
leaves; states that go on alike are shared as long as they are remembered.

A pattern that only stands for a few fixed texts takes no automaton and so no room.
-/

namespace Leftmost

/-! ## Layouts -/

/-- What is laid out. -/
structure Layout where
  /-- States that consume a byte, look at the position, fork, mark or end. -/
  states : Nat := 0
  /-- States where ways only meet. -/
  joins : Nat := 0
  /-- Bytes of the lists that states hold. -/
  lists : Nat := 0
deriving DecidableEq, Repr

namespace Layout

instance : Add Layout where
  add a b := ⟨a.states + b.states, a.joins + b.joins, a.lists + b.lists⟩

/-- The number of the next state. -/
def next (l : Layout) : Nat := l.states + l.joins

/-- The room that is taken. -/
def room (l : Layout) : Nat := 32 * (l.states + l.joins) + l.lists

/-- A state with a list of ranges of bytes. -/
def ranges (n : Nat) : Layout := { states := 1, lists := 8 * n }

/-- A state with a list of ways on; with one way on, it is no more than a join. -/
def fork (n : Nat) : Layout :=
  if n ≤ 1 then { joins := 1, lists := 4 * n } else { states := 1, lists := 4 * n }

def join : Layout := { joins := 1 }

end Layout

/-- How a part is laid out behind what is there already. Gives up when there is too much. -/
structure Laying where
  behind : Layout → Option Layout

namespace Laying

/-- Nothing. -/
def nothing : Laying := ⟨some⟩

/-- A part whose layout is the same everywhere. -/
def fixed (allowed : Layout → Bool) (part : Layout) : Laying :=
  ⟨fun l => if allowed (l + part) then some (l + part) else none⟩

/-- A part that depends on the number of its first state. -/
def placed (allowed : Layout → Bool) (part : Nat → Layout) : Laying :=
  ⟨fun l => let l := l + part l.next; if allowed l then some l else none⟩

def andThen (a b : Laying) : Laying := ⟨fun l => (a.behind l).bind b.behind⟩

def inTurn (parts : List Laying) : Laying := parts.foldr andThen nothing

/-- The same part `n` times. -/
def times (part : Laying) (n : Nat) : Laying := ⟨go n⟩
where
  go : Nat → Layout → Option Layout
    | 0, l => some l
    | n + 1, l => (part.behind l).bind (go n)

end Laying

/-! ## Sets of characters forwards -/

/-- The states of a tree by what they hold: ranges of bytes, each with the state behind. -/
abbrev Shared := Std.HashMap (List (ByteRange × Nat)) Nat

/-- Sequences that begin alike, as what they begin with and the rest of each. -/
def byFirst : List (List ByteRange) → List (ByteRange × List (List ByteRange))
  | [] => []
  | [] :: rest => byFirst rest
  | (r :: tail) :: rest =>
    match byFirst rest with
    | (s, tails) :: more => if r = s then (r, tail :: tails) :: more else (r, [tail]) :: (s, tails) :: more
    | [] => [(r, [tail])]

/-- Adds the states of sequences to those that are there; gives the first of them. The state behind all
sequences has number 0. -/
def share : Nat → List (List ByteRange) → Shared → Nat × Shared
  | 0, _, known => (0, known)
  | fuel + 1, sequences, known =>
    if sequences.all (·.isEmpty) then (0, known)
    else
      let (held, known) := (byFirst sequences).foldl (fun (held, known) (r, tails) =>
        let (n, known) := share fuel tails known
        ((r, n) :: held, known)) ([], known)
      match known.get? held with
      | some n => (n, known)
      | none => (known.size + 1, known.insert held (known.size + 1))

/-- The layout of sequences forwards. -/
def layoutForward (sequences : List (List ByteRange)) : Layout :=
  let known := (share 5 sequences {}).2
  known.fold (fun l held _ => l + .ranges held.length) .join

/-! ## Sets of characters backwards -/

/-- A state that consumes a byte, by what it does: the byte's range, and the state to go on with. -/
structure Link where
  next : Nat
  range : ByteRange
deriving DecidableEq

/-- How many links are remembered at most. -/
def memorySize : Nat := 1000

/-- The place where a link is remembered. It is the only one, so a link may be forgotten for another
one. -/
def Link.place (k : Link) : Nat :=
  let mix (h n : UInt64) : UInt64 := (h ^^^ n) * 1099511628211
  let h := mix 14695981039346656037 k.next.toUInt64
  (mix (mix h k.range.1.toUInt64) k.range.2.toUInt64).toNat % memorySize

/-- Links that are remembered with the numbers of their states, and the number of the next state. -/
structure Links where
  known : Array (Option (Link × Nat))
  free : Nat

/-- Adds a link unless it is remembered; gives its state. -/
def Links.add (ls : Links) (k : Link) : Nat × Links :=
  match (ls.known[k.place]?).join.filter (·.1 = k) with
  | some (_, n) => (n, ls)
  | none => (ls.free, ⟨ls.known.setIfInBounds k.place (some (k, ls.free)), ls.free + 1⟩)

/-- The layout of sequences backwards, where `first` is the number of their first state. -/
def layoutBackward (sequences : List (List ByteRange)) (first : Nat) : Layout :=
  let start : Links := ⟨Array.replicate memorySize none, first + 2⟩
  let links := sequences.foldl (fun ls sequence =>
    (sequence.foldl (fun (n, ls) range => Links.add ls ⟨n, range⟩) (first + 1, ls)).2) start
  .fork sequences.length + .join + { states := links.free - start.free }

/-! ## Fixed texts side by side -/

/-- Splits texts where one of them ends: what stands before the first such place, between them and
behind the last. -/
def betweenEnds : List (List UInt8) → List (List (List UInt8))
  | [] => [[]]
  | [] :: rest => [] :: betweenEnds rest
  | text :: rest =>
    match betweenEnds rest with
    | part :: parts => (text :: part) :: parts
    | [] => [[text]]

/-- The layout of texts as a tree. Texts that begin alike are one until they differ; a text that ends
where others go on cuts them into those before and those behind it in order of preference. -/
def layoutOfTexts : Nat → List (List UInt8) → Layout
  | 0, _ => {}
  | fuel + 1, texts =>
    let texts := match texts with
      | [] :: rest => [] :: rest.dropWhile (·.isEmpty)
      | _ => texts
    let parts := betweenEnds texts
    let layouts := parts.filterMap fun part =>
      let bytes := (part.filterMap List.head?).eraseDups
      if bytes.isEmpty then none
      else
        let below := bytes.map fun b =>
          let tails := (part.filter (·.head? == some b)).map List.tail
          if tails.all (·.isEmpty) then {} else layoutOfTexts fuel tails
        some (.ranges (if bytes.length = 1 then 0 else bytes.length) + below.foldl (· + ·) {})
    layouts.foldl (· + ·) (.fork (layouts.length + (parts.length - 1)))

/-! ## Patterns -/

namespace Normal

mutual

/-- Whether every match begins with a condition on its position. -/
def opensWith (l : Look) : Normal → Bool
  | look m => l == m
  | group _ t => t.opensWith l
  | loop lo _ _ t => 0 < lo && t.opensWith l
  | seq ts => someOpensWith l ts
  | choice ts => allOpenWith l ts
  | _ => false

def someOpensWith (l : Look) : List Normal → Bool
  | [] => false
  | t :: ts => t.opensWith l || (t.isNothing && someOpensWith l ts)

def allOpenWith (l : Look) : List Normal → Bool
  | [] => true
  | t :: ts => t.opensWith l && allOpenWith l ts

end

/-- The texts that alternatives are, if all of them are texts. -/
def texts? (ts : List Normal) : Option (List (List UInt8)) :=
  ts.mapM fun t => match t with
    | text (b :: bs) => some (b :: bs)
    | _ => none

/-- How the two directions differ. -/
structure Manner where
  /-- What a group takes besides its body. -/
  mark : Layout
  /-- A set of characters. -/
  set : List (List ByteRange) → Laying
  /-- A text as it is read. -/
  text : List UInt8 → List UInt8
  /-- Items of a sequence as they are read. -/
  items : List Laying → List Laying

variable (allowed : Layout → Bool) (manner : Manner)

/-- A set of bytes. -/
def layBytes (s : RangeSet) : Laying := .fixed allowed (.join + .ranges s.ranges.size)

mutual

/-- How a pattern is laid out. -/
def lay : Normal → Laying
  | text [] => .fixed allowed .join
  | text bytes => .fixed allowed { states := bytes.length }
  | set s => if isAscii s then layBytes allowed s else manner.set s.encodings
  | byte s => layBytes allowed s
  | look _ => .fixed allowed { states := 1 }
  | group _ t => (Laying.fixed allowed manner.mark).andThen (lay t)
  | seq ts => .inTurn (manner.items (layEach ts))
  | choice ts =>
    match texts? ts with
    | some texts =>
      let texts := texts.map manner.text
      .fixed allowed (.join + layoutOfTexts ((texts.map List.length).foldl max 0 + 1) texts)
    | none =>
      let parts := layEach ts
      (Laying.inTurn (parts.take 2)).andThen
        ((Laying.fixed allowed (.fork ts.length + .join)).andThen (.inTurn (parts.drop 2)))
  | loop lo hi _ t =>
    let body := lay t
    let fork := Laying.fixed allowed (.fork 2)
    let join := Laying.fixed allowed .join
    match hi with
    | none =>
      if lo = 0 then
        if t.minLength.all (· = 0) then
          body.andThen (.fixed allowed (.fork 2 + .fork 2 + .join))
        else fork.andThen body
      else (body.times lo).andThen fork
    | some hi =>
      if hi = lo then body.times lo
      else if lo = 0 ∧ hi = 1 then (fork.andThen body).andThen join
      else
        (if lo = 0 then join else body.times lo).andThen
          (join.andThen ((fork.andThen body).times (hi - lo)))

def layEach : List Normal → List Laying
  | [] => []
  | t :: ts => lay t :: layEach ts

end

/-- What stands before the pattern: the way to a later start, unless the pattern cannot begin there. -/
def opening (fixedStart : Bool) : Layout :=
  if fixedStart then .join else .fork 2 + .join + .ranges 1

/-- The layout to be matched forwards, with marks for the whole match and an end. -/
def layForward (t : Normal) : Option Layout :=
  let manner : Manner :=
    ⟨{ states := 2 }, fun sequences => .fixed allowed (layoutForward sequences), id, id⟩
  let before := opening (t.opensWith .textStart) + { states := 2 }
  ((lay allowed manner t).andThen (.fixed allowed { states := 1 })).behind before

/-- The layout to be matched backwards, with an end. -/
def layBackward (t : Normal) : Option Layout :=
  let manner : Manner :=
    ⟨{}, fun sequences => .placed allowed (layoutBackward sequences), List.reverse, List.reverse⟩
  let before := opening (t.reverse.opensWith .textEnd)
  ((lay allowed manner t).andThen (.fixed allowed { states := 1 })).behind before

/-- Whether the automata of a pattern fit into so many bytes each. -/
def fits (limit : Nat) (t : Normal) : Bool :=
  let allowed (l : Layout) : Bool := l.room ≤ limit
  t.isTexts || ((layForward allowed t).isSome && (layBackward allowed t).isSome)

/-! ## Searching backwards only -/

/-- The ranges of bytes that a look at the position tells apart. -/
def rangesOfLook : Look → List ByteRange
  | .textStart | .textEnd => []
  | .lineStart crlf | .lineEnd crlf => if crlf then [(0x0d, 0x0d), (0x0a, 0x0a)] else [(0x0a, 0x0a)]
  | .word .. => [(0x30, 0x39), (0x41, 0x5a), (0x5f, 0x5f), (0x61, 0x7a)]

mutual

/-- The ranges of bytes in a pattern. -/
def byteRanges : Normal → List ByteRange
  | text bytes => bytes.map fun b => (b, b)
  | set s => s.encodings.flatten
  | byte s => s.toList.map fun (a, b) => (a.toUInt8, b.toUInt8)
  | look l => rangesOfLook l
  | group _ t | loop _ _ _ t => t.byteRanges
  | seq ts | choice ts => byteRangesOfAll ts

def byteRangesOfAll : List Normal → List ByteRange
  | [] => []
  | t :: ts => t.byteRanges ++ byteRangesOfAll ts

end

/-- How many kinds of bytes a pattern tells apart, the end of the text included. -/
def byteKinds (t : Normal) : Nat :=
  let ends := t.byteRanges.flatMap fun (a, b) =>
    if a = 0 then [b.toNat] else [a.toNat - 1, b.toNat]
  ((List.range 255).filter ends.contains).length + 2

/-- The room that the search backwards through a pattern may take. -/
def backwardLimit : Nat := 2 * 1024 * 1024

/-- The room that it takes: for each state, for the transitions of a few states at a time, and some
more. -/
def backwardRoom (states kinds : Nat) : Nat := 27 * states + 20 * kinds.nextPowerOfTwo + 270

/-- Whether a search backwards through a pattern has the room it takes. -/
def fitsBackward (t : Normal) : Bool :=
  let kinds := t.byteKinds
  (t.layBackward fun l => backwardRoom l.states kinds ≤ backwardLimit).isSome

end Normal

namespace Tree

/-! ## Objections -/

/-- What there is to object to a pattern that is spelt with so many levels. -/
def misspelling? (nesting : Nat) (t : Tree) : Option Refusal :=
  if maxNesting < nesting then some .nestedTooDeep
  else if !t.countsValid then some .badCount
  else none

/-- What there is to object to an automaton for a pattern within so many bytes. -/
def objection? (limit nesting : Nat) (t : Tree) : Option Refusal :=
  (t.misspelling? nesting).or (if t.normal.fits limit then none else some .tooBig)

end Tree

end Leftmost
