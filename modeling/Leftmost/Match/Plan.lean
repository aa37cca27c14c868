import Leftmost.Match.Linear
import Leftmost.Pattern.Room

/-!
# Leftmost.Match.Plan

How a pattern that needs backtracking is matched: what has to be retried is spelt out step by step,
and what does not is left to automata, which run in linear time and are never entered again.

A part of the pattern can be left to an automaton if it is plain and either has a fixed length or is
the last thing that can still fail, so that no other way through it could matter. A group that a
back-reference names is never left to one, since the reference may need another way through the
group; nor is a word edge.
-/

namespace Leftmost

/-- A part of a pattern that is left to an automaton, with the groups from `firstGroup` up to
`endGroup` in it. If all it stands for is a few `fixed` texts, it decides no groups. -/
structure Part where
  automaton : Automaton
  fixed : Bool
  firstGroup : Nat
  endGroup : Nat
deriving Inhabited

/-- A pattern prepared for backtracking. -/
inductive Plan where
  | skip
  | fail
  | char (c : Char)
  | set (s : RangeSet)
  | look (l : Look)
  /-- A part left to an automaton. -/
  | part (p : Part)
  /-- A part that has to end here; `backward` finds where it begins. -/
  | partBefore (backward : Automaton) (p : Part)
  | andThen (a b : Plan)
  /-- `a`, or else `b`. -/
  | orElse (a b : Plan)
  | group (index : Nat) (body : Plan)
  | optional (greedy : Bool) (body : Plan)
  | zeroOrMore (greedy : Bool) (body : Plan)
  | oneOrMore (greedy : Bool) (body : Plan)
  /-- Counted: the slot `count` holds how often the body was entered. -/
  | counted (lo : Nat) (hi : Option Nat) (greedy : Bool) (count : Nat) (body : Plan)
  /-- Unlimited, for a body that may match nothing: the slot `check` holds where the body was last
  entered, so that an empty round ends the loop. -/
  | guarded (lo : Nat) (greedy : Bool) (count check : Nat) (body : Plan)
  /-- Holds if the body matches here; the position stays. -/
  | ahead (body : Plan)
  /-- Holds if the body does not match here. -/
  | notAhead (body : Plan)
  /-- Goes back a number of characters. -/
  | back (n : Nat)
  | atomic (body : Plan)
  | backref (group : Nat) (caseless : Bool)
  | isSet (group : Nat)
  | branch (condition yes no : Plan)
  | keepOut
  /-- Holds where the search began. If it is `decisive`, nothing else matches where it does not. -/
  | searchStart (decisive : Bool)
deriving Inhabited

/-! ## What is known of a part -/

/-- Facts about a tree that decide how it is matched. -/
structure Traits where
  /-- The least number of characters it matches. -/
  least : Nat
  /-- Whether it always matches that many. -/
  fixed : Bool
  /-- Whether it needs backtracking. -/
  hard : Bool
deriving DecidableEq, Repr

/-- The lengths of the groups met so far, by group number. -/
abbrev GroupLengths := List (Nat × Nat × Bool)

/-- A word edge is matched by backtracking. -/
def Look.isHard : Look → Bool
  | .word .. => true
  | _ => false

mutual

/-- The traits of a tree; `referenced` lists the groups that back-references and conditions name. -/
def Tree.traits (referenced : List Nat) : Tree → GroupLengths → Traits × GroupLengths
  | .empty, g => (⟨0, true, false⟩, g)
  | .look l, g => (⟨0, true, l.isHard⟩, g)
  | .char _, g | .set .., g | .byte _, g => (⟨1, true, false⟩, g)
  | .group i t, g =>
    let (x, g) := t.traits referenced g
    ({ x with hard := x.hard || referenced.contains i }, (i, x.least, x.fixed) :: g)
  | .seq ts, g => Tree.traitsSeq referenced ts g
  | .choice ts, g => Tree.traitsChoice referenced ts g
  | .loop lo hi _ t, g =>
    let (x, g) := t.traits referenced g
    (⟨x.least * lo, x.fixed && hi == some lo, x.hard⟩, g)
  | .around _ _ t, g => (⟨0, true, true⟩, (t.traits referenced g).2)
  | .atomic t, g =>
    let (x, g) := t.traits referenced g
    ({ x with hard := true }, g)
  | .backref i _, g =>
    match g.lookup i with
    | some (least, fixed) => (⟨least, fixed, true⟩, g)
    | none => (⟨0, false, true⟩, g)
  | .isSet _, g | .keepOut, g | .searchStart, g => (⟨0, true, true⟩, g)
  | .branch c y n, g =>
    let (c, g) := c.traits referenced g
    let (y, g) := y.traits referenced g
    let (n, g) := n.traits referenced g
    (⟨c.least + min y.least n.least,
      c.fixed && y.fixed && n.fixed && c.least + y.least == n.least, true⟩, g)

def Tree.traitsSeq (referenced : List Nat) : List Tree → GroupLengths → Traits × GroupLengths
  | [], g => (⟨0, true, false⟩, g)
  | t :: ts, g =>
    let (x, g) := t.traits referenced g
    let (y, g) := Tree.traitsSeq referenced ts g
    (⟨x.least + y.least, x.fixed && y.fixed, x.hard || y.hard⟩, g)

def Tree.traitsChoice (referenced : List Nat) : List Tree → GroupLengths → Traits × GroupLengths
  | [], g => (⟨0, true, false⟩, g)
  | [t], g => t.traits referenced g
  | t :: ts, g =>
    let (x, g) := t.traits referenced g
    let (y, g) := Tree.traitsChoice referenced ts g
    (⟨min x.least y.least, x.fixed && y.fixed && x.least == y.least, x.hard || y.hard⟩, g)

end

/-! ## Planning -/

namespace Plan

/-- The next free slot, and the lengths of the groups passed so far. -/
structure Progress where
  nextSlot : Nat
  lengths : GroupLengths

/-- Planning, given the groups that back-references and conditions name. -/
abbrev Planning := ReaderT (List Nat) (StateT Progress (Except Refusal))

/-- The room that the automaton of a part may take. -/
def partRoom : Nat := 10 * 1024 * 1024

/-- Gives up if there is an objection. -/
def heed (objection : Option Refusal) : Planning Unit :=
  match objection with
  | some why => throw why
  | none => return

def newSlot : Planning Nat :=
  modifyGet fun s => (s.nextSlot, { s with nextSlot := s.nextSlot + 1 })

def traitsOf (t : Tree) : Planning Traits := do
  return (t.traits (← read) (← get).lengths).1

/-- Notes the lengths of the groups in a tree that has been passed. -/
def pass (before : GroupLengths) (t : Tree) : Planning Unit := do
  let referenced ← read
  modify fun s => { s with lengths := (t.traits referenced before).2 }

/-- The traits of several trees in a row. -/
def traitsOfEach (referenced : List Nat) : List Tree → GroupLengths → List Traits
  | [], _ => []
  | t :: ts, g =>
    let (x, g) := t.traits referenced g
    x :: traitsOfEach referenced ts g

mutual

/-- The groups that a tree holds. -/
def groupsIn : Tree → List Nat
  | .group i t => i :: groupsIn t
  | .seq ts | .choice ts => groupsInAll ts
  | .loop _ _ _ t | .around _ _ t | .atomic t => groupsIn t
  | .branch c y n => groupsIn c ++ groupsIn y ++ groupsIn n
  | _ => []

def groupsInAll : List Tree → List Nat
  | [] => []
  | t :: ts => groupsIn t ++ groupsInAll ts

end

/-- The first of a list of groups and the one after the last. -/
def groupSpan : List Nat → Nat × Nat
  | [] => (0, 0)
  | g :: rest => (rest.foldl min g, rest.foldl max g + 1)

mutual

/-- The characters of a tree that is a fixed text. -/
def textOf : Tree → Option (List Char)
  | .char c => some [c]
  | .seq ts => textOfAll ts
  | _ => none

def textOfAll : List Tree → Option (List Char)
  | [] => some []
  | t :: ts => do return (← textOf t) ++ (← textOfAll ts)

end

def ofText (cs : List Char) : Plan := cs.foldr (fun c p => andThen (char c) p) skip

/-- A tree as a part for an automaton. -/
def asPart (t : Tree) : Part :=
  let normal := t.normal
  let (first, stop) := groupSpan (groupsIn t)
  { automaton := .ofNormal normal, fixed := normal.isTexts, firstGroup := first, endGroup := stop }

/-- Items in a row as one part, or directly where that is simpler. -/
def partOf (ts : List Tree) : Planning Plan := do
  match textOfAll ts with
  | some cs => return ofText cs
  | none =>
    let t := Tree.ofSeq ts
    heed (t.objection? partRoom (Tree.nestingOfRow ts))
    match t with
    | .empty => return skip
    | .set s _ => return set s
    | .look l => return look l
    | t => return part (asPart t)

/-- A look-behind over a part of variable length. -/
def partBeforeOf (t : Tree) : Planning Plan := do
  if (← traitsOf t).hard then throw .variableLookBehind
  let normal := t.normal
  heed (t.misspelling? (Tree.nestingOfRow [t]))
  if !normal.fitsBackward then throw .tooBig
  if !(groupsIn t).isEmpty then heed (t.objection? partRoom (Tree.nestingOfRow [t]))
  return partBefore (.ofNormal normal.reverse) (asPart t)

/-- How many items of a sequence are left to one automaton at its front, and at its end. Within
something that is retried, only what has a fixed length can be. -/
def easyEnds (retried : Bool) (xs : List Traits) : Nat × Nat :=
  let fixed (x : Traits) := x.fixed && !x.hard
  let front := (xs.takeWhile fixed).length
  let rest := (xs.drop front).reverse
  (front, (rest.takeWhile fun x => if retried then fixed x else !x.hard).length)

/-- What looks behind for a tree, from the place where it has to end. If its length is fixed, that is
the given plan, from so many characters before. -/
def behind (t : Tree) (plan : Planning Plan) : Planning Plan := do
  let x ← traitsOf t
  if x.fixed then return andThen (back x.least) (← plan) else partBeforeOf t

/-- A look-around with the given body. -/
def lookWith (positive : Bool) (body : Plan) : Plan :=
  if positive then ahead body else notAhead body

mutual

/-- Plans a tree. With `retried`, something that follows may need another way through it; `offset` is
the least number of characters between the start of the innermost group around it and the tree. -/
def ofTree (retried : Bool) (offset : Nat) (t : Tree) : Planning Plan := do
  let x ← traitsOf t
  if !retried && !x.hard then partOf [t]
  else
    match t with
    | .empty => return skip
    | .char c => return char c
    | .look l => return look l
    | .set .. | .byte _ => partOf [t]
    | .group i body => return group i (← ofTree retried 0 body)
    | .seq ts =>
      let (front, rear) := easyEnds retried (traitsOfEach (← read) ts (← get).lengths)
      let count := ts.length
      let first ← partOf (ts.take front)
      let middle ← ofItems (List.replicate front false ++
        List.replicate (count - front - rear) true ++ List.replicate rear false) offset ts
      let last ← partOf (ts.drop (count - rear))
      return andThen first (middle.foldr andThen last)
    | .choice ts => ofChoice retried offset ts
    | .loop lo hi greedy body =>
      if lo = 0 ∧ hi = some 1 then return optional greedy (← ofTree retried offset body)
      else
        let y ← traitsOf body
        let retried := retried || x.hard
        match hi with
        | none =>
          if y.least = 0 then
            let count ← newSlot
            let check ← newSlot
            return guarded lo greedy count check (← ofTree retried offset body)
          else if lo = 0 then return zeroOrMore greedy (← ofTree retried offset body)
          else if lo = 1 then return oneOrMore greedy (← ofTree retried offset body)
          else
            let count ← newSlot
            return counted lo none greedy count (← ofTree retried offset body)
        | some n =>
          let count ← newSlot
          return counted lo (some n) greedy count (← ofTree retried offset body)
    | .around true positive body => return lookWith positive (← ofTree false offset body)
    | .around false positive body =>
      let whole := lookWith positive <$> behind body (ofTree false offset body)
      match body with
      | .choice ts => if (← traitsOf body).fixed then whole else ofBehindEach positive offset ts
      | _ => whole
    | .atomic body => return atomic (← ofTree false offset body)
    | .backref i caseless => return backref i caseless
    | .isSet i => return isSet i
    | .branch c y n =>
      let before := (← get).lengths
      let least := (← traitsOf c).least
      let c' ← ofTree retried offset c
      pass before c
      let before := (← get).lengths
      let y' ← ofTree retried (offset + least) y
      pass before y
      let n' ← ofTree retried offset n
      return branch c' y' n'
    | .keepOut => return keepOut
    | .searchStart => return searchStart (offset = 0)

/-- Plans those items of a sequence that are marked. -/
def ofItems : List Bool → Nat → List Tree → Planning (List Plan)
  | mark :: marks, offset, t :: ts => do
    let before := (← get).lengths
    let least := (← traitsOf t).least
    let p ← if mark then some <$> ofTree true offset t else pure none
    pass before t
    let rest ← ofItems marks (offset + least) ts
    return p.toList ++ rest
  | _, _, _ => return []

def ofChoice (retried : Bool) (offset : Nat) : List Tree → Planning Plan
  | [] => return fail
  | [t] => ofTree retried offset t
  | t :: ts => do
    let before := (← get).lengths
    let p ← ofTree retried offset t
    pass before t
    return orElse p (← ofChoice retried offset ts)

/-- A look-behind with alternatives of different lengths looks behind for each of them. -/
def ofBehindEach (positive : Bool) (offset : Nat) : List Tree → Planning Plan
  | [] => return if positive then fail else skip
  | t :: ts => do
    let before := (← get).lengths
    let p ← lookWith positive <$> behind t (ofTree false offset t)
    pass before t
    match ts with
    | [] => return p
    | ts =>
      let rest ← ofBehindEach positive offset ts
      return if positive then orElse p rest else andThen p rest

end

end Plan

end Leftmost
