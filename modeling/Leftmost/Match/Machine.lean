import Leftmost.Match.Plan
import Leftmost.Unicode.Fold

/-!
# Leftmost.Match.Machine

Carrying out a plan. A state of the machine is a position, the slots and a list of what is left to
do. Where there are two ways to go on, the machine takes the first and puts the state of the second
on a stack; where a way fails it goes back to the last state put there. A state is kept whole, so
going back undoes everything that happened since.

Two things bound the work: the stack holds at most `maxBranches` states, and the machine may go back
no more often than its limit says. A run that breaks either bound fails, which is something else
than finding no match.
-/

namespace Leftmost.Plan

open Automaton (Slots)

/-- Something left to do. -/
inductive Task where
  | follow (p : Plan)
  /-- Comes back to the head of a loop. -/
  | again (p : Plan)
  | endGroup (index : Nat)
  /-- Takes up an earlier position. -/
  | goTo (p : Nat)
  /-- What must not match has matched: gives up all branches above a height, and fails. -/
  | refuse (height : Nat)
  /-- Gives up the branches made since the innermost mark. -/
  | leaveAtomic

/-- A state of the machine. -/
structure Config where
  pos : Nat
  slots : Slots
  /-- The heights of the stack at which atomic parts were entered. -/
  marks : List Nat
  todo : List Task
  /-- The slots of the groups in the latest part that has decided its groups. Going back does not
  restore them, and a part that decides none takes over what is left here. -/
  decided : Slots := #[]

/-! ## The stack -/

/-- The states to go back to, the latest first. -/
structure Stack where
  branches : List Config
  height : Nat
  height_eq : height = branches.length

namespace Stack

def empty : Stack := ⟨[], 0, rfl⟩

def push (s : Stack) (c : Config) : Stack :=
  ⟨c :: s.branches, s.height + 1, by simp [s.height_eq]⟩

/-- Gives up all branches above a height. -/
def cutTo (s : Stack) (height : Nat) : Stack :=
  ⟨s.branches.drop (s.height - height), s.height - (s.height - height), by
    rw [List.length_drop, ← s.height_eq]⟩

/-- The latest branch, and the stack below it. -/
def pop? (s : Stack) : Option (Config × Stack) :=
  match h : s.branches with
  | [] => none
  | c :: rest => some (c, ⟨rest, s.height - 1, by rw [s.height_eq, h]; rfl⟩)

end Stack

/-! ## One step -/

/-- What a step leads to. -/
inductive Step where
  | next (c : Config)
  /-- Two ways to go on, the preferred one first. -/
  | fork (c later : Config)
  | cut (height : Nat) (c : Config)
  | refuse (height : Nat)
  | fail
  /-- Nothing else can match either. -/
  | giveUp
  | done (slots : Slots)

/-- What a search runs on: the text and the place where the search began. -/
structure Scene where
  text : ByteArray
  origin : Nat

/-- The span of a group that took part. -/
def groupSpan? (slots : Slots) (group : Nat) : Option (Nat × Nat) :=
  match slots.getD (2 * group) none, slots.getD (2 * group + 1) none with
  | some lo, some hi => some (lo, hi)
  | _, _ => none

/-- Whether as many bytes from `p` on repeat those from `lo` to `hi`. -/
def sameBytes (h : ByteArray) (lo hi p : Nat) : Bool :=
  h.extract lo hi == h.extract p (p + (hi - lo))

/-- Whether the text that begins at `p` repeats the text from `lo` to `hi` but for case, and ends by
`stop`. -/
def foldedAt (h : ByteArray) : Nat → Nat → Nat → Nat → Nat → Bool
  | 0, _, _, _, _ => false
  | fuel + 1, lo, hi, p, stop =>
    if lo < hi then
      if p < stop then
        match Utf8.charAt h lo, Utf8.charAt h p with
        | some c, some d =>
          Unicode.fold c.toNat == Unicode.fold d.toNat &&
            foldedAt h fuel (lo + c.utf8Size) hi (p + d.utf8Size) stop
        | _, _ => false
      else false
    else p ≤ stop

/-- Whether all bytes from `lo` up to `hi` are ASCII. -/
def isAsciiSpan (h : ByteArray) (lo hi : Nat) : Bool :=
  (List.range' lo (hi - lo)).all fun p => Utf8.byteAt h p < 0x80

/-- Whether the bytes from `p` on repeat those from `lo` to `hi` but for the case of ASCII letters. -/
def sameAsciiFolded (h : ByteArray) (lo hi p : Nat) : Bool :=
  let lower (p : Nat) : UInt8 :=
    let b := Utf8.byteAt h p
    if 0x41 ≤ b ∧ b ≤ 0x5a then b + 0x20 else b
  (List.range (hi - lo)).all fun i => lower (lo + i) == lower (p + i)

/-- Whether the span from `p` on, as long as that from `lo` to `hi`, repeats it where case means
nothing. Where neither is ASCII alone it is enough that it holds such a repetition: variants of a
character may be of different lengths, so that something is left over. -/
def repeatsFolded (h : ByteArray) (lo hi p : Nat) : Bool :=
  let stop := p + (hi - lo)
  Utf8.isBoundary h p && Utf8.isBoundary h stop &&
    if isAsciiSpan h lo hi || isAsciiSpan h p stop then sameAsciiFolded h lo hi p
    else
      (List.range' p (hi - lo)).any fun q =>
        Utf8.isBoundary h q && foldedAt h (hi - lo + 1) lo hi q stop

/-- Whether the text from `p` on repeats a span. -/
def repeats (h : ByteArray) (caseless : Bool) (lo hi p : Nat) : Bool :=
  p + (hi - lo) ≤ h.size && (sameBytes h lo hi p || (caseless && repeatsFolded h lo hi p))

/-- The slots of `count` groups: those of a list, filled up with groups that took no part. -/
def resized (count : Nat) (groups : Slots) : Slots :=
  groups.extract 0 (2 * count) ++ Array.replicate (2 * count - groups.size) none

/-- Goes back `n` characters, if there are so many. -/
def stepsBack (h : ByteArray) : Nat → Nat → Option Nat
  | 0, p => some p
  | n + 1, p => if p = 0 then none else stepsBack h n (Utf8.previousBoundary h p)

/-- The slot of a match's start. The start may have been moved past the end; then they coincide. -/
def closeMatch (slots : Slots) : Slots :=
  match slots.getD 0 none, slots.getD 1 none with
  | some start, some stop => if stop < start then slots.setIfInBounds 0 (some stop) else slots
  | _, _ => slots

namespace Config

/-- Goes on with other tasks. -/
def continueWith (c : Config) (todo : List Task) : Step := .next { c with todo }

/-- Two lists of tasks to go on with; the first is preferred if `greedy`, else the second. -/
def either (c : Config) (greedy : Bool) (body out : List Task) : Step :=
  let body := { c with todo := body }
  let out := { c with todo := out }
  if greedy then .fork body out else .fork out body

def setSlot (c : Config) (i : Nat) (v : Option Nat) : Config :=
  { c with slots := c.slots.setIfInBounds i v }

/-- The number in a slot; an empty slot counts as 0. -/
def number (c : Config) (i : Nat) : Nat := (c.slots.getD i none).getD 0

/-- Takes over the groups of a part from the slots its automaton has found. -/
def takeGroups (c : Config) (p : Part) (found : Slots) : Config :=
  let count := p.endGroup - p.firstGroup
  if count = 0 then c
  else
    let decided :=
      if p.fixed then resized count c.decided else found.extract (2 * p.firstGroup) (2 * p.endGroup)
    let slots := (List.range (2 * count)).foldl
      (fun slots i => slots.setIfInBounds (2 * p.firstGroup + i) (decided.getD i none)) c.slots
    { c with slots, decided }

/-- Starts to follow a plan; `rest` is what comes after it. -/
def enter (s : Scene) (height : Nat) (c : Config) (p : Plan) (rest : List Task) : Step :=
  match p with
  | .skip => c.continueWith rest
  | .fail => .fail
  | .char x =>
    if Utf8.charAt s.text c.pos = some x then .next { c with pos := c.pos + x.utf8Size, todo := rest }
    else .fail
  | .set x =>
    match Utf8.charAt s.text c.pos with
    | some d =>
      if x.contains d.toNat then .next { c with pos := c.pos + d.utf8Size, todo := rest } else .fail
    | none => .fail
  | .look l => if l.holds s.text c.pos then c.continueWith rest else .fail
  | .part p =>
    match p.automaton.search s.text c.pos (2 * p.endGroup) .anchored with
    | some (stop, found) => .next { c.takeGroups p found with pos := stop, todo := rest }
    | none => .fail
  | .partBefore backward p =>
    match backward.startBefore s.text c.pos with
    | none => .fail
    | some start =>
      if p.firstGroup = p.endGroup then c.continueWith rest
      else
        match p.automaton.groupsBetween s.text start c.pos (2 * p.endGroup) with
        | some found => (c.takeGroups p found).continueWith rest
        | none => .fail
  | .andThen a b => c.continueWith (.follow a :: .follow b :: rest)
  | .orElse a b => c.either true (.follow a :: rest) (.follow b :: rest)
  | .group i body =>
    (c.setSlot (2 * i) (some c.pos)).continueWith (.follow body :: .endGroup i :: rest)
  | .optional greedy body => c.either greedy (.follow body :: rest) rest
  | .zeroOrMore greedy body => c.either greedy (.follow body :: .follow p :: rest) rest
  | .oneOrMore _ body => c.continueWith (.follow body :: .again p :: rest)
  | .counted _ _ _ count _ | .guarded _ _ count _ _ =>
    (c.setSlot count (some 0)).continueWith (.again p :: rest)
  | .ahead body => c.continueWith (.follow body :: .goTo c.pos :: rest)
  | .notAhead body => c.either true (.follow body :: .refuse height :: rest) rest
  | .back n =>
    match stepsBack s.text n c.pos with
    | some p => .next { c with pos := p, todo := rest }
    | none => .fail
  | .atomic body =>
    .next { c with marks := height :: c.marks, todo := .follow body :: .leaveAtomic :: rest }
  | .backref i caseless =>
    match groupSpan? c.slots i with
    | some (lo, hi) =>
      if repeats s.text caseless lo hi c.pos then .next { c with pos := c.pos + (hi - lo), todo := rest }
      else .fail
    | none => .fail
  | .isSet i => if (c.slots.getD (2 * i) none).isSome then c.continueWith rest else .fail
  | .branch condition yes no =>
    { c with marks := height :: c.marks }.either true
      (.follow condition :: .leaveAtomic :: .follow yes :: rest) (.follow no :: rest)
  | .keepOut => (c.setSlot 0 (some c.pos)).continueWith rest
  | .searchStart decisive =>
    if c.pos = s.origin then c.continueWith rest else if decisive then .giveUp else .fail

/-- Comes to the head of a loop whose body may be entered, at least once more if the count is below
`lo`. -/
def round (c : Config) (lo : Nat) (greedy : Bool) (count : Nat) (body p : Plan) (rest : List Task) :
    Step :=
  let n := c.number count
  let c := c.setSlot count (some (n + 1))
  let inside := .follow body :: .again p :: rest
  if lo ≤ n then c.either greedy inside rest else c.continueWith inside

/-- Comes back to the head of a loop. -/
def again (c : Config) (p : Plan) (rest : List Task) : Step :=
  match p with
  | .oneOrMore greedy body => c.either greedy (.follow body :: .again p :: rest) rest
  | .counted lo hi greedy count body =>
    if hi = some (c.number count) then c.continueWith rest else c.round lo greedy count body p rest
  | .guarded lo greedy count check body =>
    if 0 < c.number count ∧ c.slots.getD check none = some c.pos then c.continueWith rest
    else
      let c := if lo ≤ c.number count then c.setSlot check (some c.pos) else c
      c.round lo greedy count body p rest
  | _ => .fail

/-- One step. With nothing left to do, the match is complete. -/
def step (s : Scene) (height : Nat) (c : Config) : Step :=
  match c.todo with
  | [] => .done (closeMatch c.slots)
  | .follow p :: rest => c.enter s height p rest
  | .again p :: rest => c.again p rest
  | .endGroup i :: rest => (c.setSlot (2 * i + 1) (some c.pos)).continueWith rest
  | .goTo p :: rest => .next { c with pos := p, todo := rest }
  | .refuse height :: _ => .refuse height
  | .leaveAtomic :: rest =>
    match c.marks with
    | mark :: marks => .cut mark { c with marks, todo := rest }
    | [] => c.continueWith rest

end Config

/-! ## Running -/

/-- How many branches may be pending at a time. -/
def maxBranches : Nat := 1000000

/-- More steps than any text allows without going back once. -/
def maxSteps : Nat := 1 <<< 62

/-- How a run without going back ends. -/
inductive Advance where
  | matched (slots : Slots)
  /-- The way taken fails; what parts have decided outlasts it. -/
  | failed (stack : Stack) (decided : Slots)
  | givenUp
  | stackFull

/-- Goes on until the pattern has matched or the way taken fails. -/
def advance (s : Scene) : Nat → Config → Stack → Advance
  | 0, _, _ => .stackFull
  | fuel + 1, c, stack =>
    match c.step s stack.height with
    | .next c => advance s fuel c stack
    | .fork c later =>
      if stack.height < maxBranches then advance s fuel c (stack.push later) else .stackFull
    | .cut height c => advance s fuel c (stack.cutTo height)
    | .refuse height => .failed (stack.cutTo height) c.decided
    | .fail => .failed stack c.decided
    | .giveUp => .givenUp
    | .done slots => .matched slots

/-- Why a search is given up. -/
inductive Overrun where
  | limitExceeded
  | stackFull
deriving DecidableEq, Repr

/-- Runs a state to its end, going back at most `left` times. -/
def run (s : Scene) : Nat → Config → Stack → Except Overrun (Option Slots)
  | left, c, stack =>
    match advance s maxSteps c stack with
    | .matched slots => .ok (some slots)
    | .stackFull => .error .stackFull
    | .givenUp => .ok none
    | .failed stack decided =>
      match stack.pop? with
      | none => .ok none
      | some (c, stack) =>
        match left with
        | 0 => .error .limitExceeded
        | left + 1 => run s left { c with decided } stack

/-- The state in which a search begins. -/
def start (p : Plan) (origin slotCount : Nat) : Config :=
  { pos := origin, slots := Array.replicate slotCount none, marks := [], todo := [.follow p] }

/-- The slots of the match that a plan finds in `h` from `origin` on. -/
def search (p : Plan) (h : ByteArray) (origin slotCount limit : Nat) :
    Except Overrun (Option Slots) :=
  run { text := h, origin } limit (start p origin slotCount) .empty

end Leftmost.Plan
