import Leftmost.Match.Look
import Leftmost.Pattern.Normal

/-!
# Leftmost.Match.Automaton

Patterns in normal form as automata. A node names the node to go on with; a fork names two, the
preferred one first. Building goes from the end of the pattern to its start, so that the node to go on
with always exists already; only a loop has to reserve its node before its body.

A body that may match nothing is not repeated freely: `x*` becomes "one or more, or nothing", which
keeps the order of preference among the ways to match nothing.
-/

namespace Leftmost

/-- A step of an automaton. -/
inductive Node where
  /-- One given byte. -/
  | unit (b : UInt8) (next : Nat)
  /-- One character of a set. -/
  | set (s : RangeSet) (next : Nat)
  /-- One byte of a set. -/
  | byte (s : RangeSet) (next : Nat)
  | look (l : Look) (next : Nat)
  /-- Notes the position in a slot. -/
  | mark (slot : Nat) (next : Nat)
  | fork (first second : Nat)
  | fail
  | accept
deriving Inhabited

/-- An automaton: its nodes and the one it starts with. -/
structure Automaton where
  nodes : Array Node
  entry : Nat
deriving Inhabited

namespace Automaton

/-- Nodes under construction. A builder takes the node to go on with and gives the entry. -/
abbrev Builder := Nat → Array Node → Nat × Array Node

namespace Builder

def node (n : Nat → Node) : Builder := fun next nodes => (nodes.size, nodes.push (n next))

def skip : Builder := fun next nodes => (next, nodes)

/-- First `a`, then `b`. -/
def andThen (a b : Builder) : Builder := fun next nodes =>
  let (middle, nodes) := b next nodes
  a middle nodes

/-- A fork between two entries, the first preferred unless `greedy` is false. -/
def forkNode (greedy : Bool) (body out : Nat) : Node :=
  if greedy then .fork body out else .fork out body

/-- Either the body or nothing. -/
def optional (greedy : Bool) (body : Builder) (out : Nat) : Builder := fun next nodes =>
  let (entry, nodes) := body next nodes
  (nodes.size, nodes.push (forkNode greedy entry out))

/-- The body once or more. -/
def oneOrMore (greedy : Bool) (body : Builder) : Builder := fun next nodes =>
  let again := nodes.size
  let (entry, nodes) := body again (nodes.push .fail)
  (entry, nodes.setIfInBounds again (forkNode greedy entry next))

/-- The body any number of times, for a body that always consumes something. -/
def zeroOrMore (greedy : Bool) (body : Builder) : Builder := fun next nodes =>
  let again := nodes.size
  let (entry, nodes) := body again (nodes.push .fail)
  (again, nodes.setIfInBounds again (forkNode greedy entry next))

/-- The body `n` times. -/
def times (body : Builder) : Nat → Builder
  | 0 => skip
  | n + 1 => fun next nodes =>
    let (entry, nodes) := body next nodes
    times body n entry nodes

/-- The body up to `n` times, each time after the first only if the one before was taken. -/
def upTo (greedy : Bool) (body : Builder) (out : Nat) : Nat → Builder
  | 0 => skip
  | n + 1 => fun next nodes =>
    let (entry, nodes) := optional greedy body out next nodes
    upTo greedy body out n entry nodes

/-- A loop. -/
def loop (lo : Nat) (hi : Option Nat) (greedy nullable : Bool) (body : Builder) : Builder :=
  match hi with
  | some n => fun next nodes =>
    ((times body lo).andThen (upTo greedy body next (n - lo))) next nodes
  | none =>
    match lo with
    | 0 =>
      if nullable then fun next => optional greedy (oneOrMore greedy body) next next
      else zeroOrMore greedy body
    | n + 1 => (times body n).andThen (oneOrMore greedy body)

/-- Bytes in a row. -/
def text : List UInt8 → Builder
  | [] => skip
  | b :: bs => (node (.unit b)).andThen (text bs)

end Builder

open Builder in
mutual

/-- The part of an automaton for a pattern. -/
def build : Normal → Builder
  | .text bytes => text bytes
  | .set s => node (.set s)
  | .byte s => node (.byte s)
  | .look l => node (.look l)
  | .group i t => ((node (.mark (2 * i))).andThen (build t)).andThen (node (.mark (2 * i + 1)))
  | .seq ts => buildSeq ts
  | .choice ts => buildChoice ts
  | .loop lo hi greedy t => loop lo hi greedy (t.minLength.all (· = 0)) (build t)

def buildSeq : List Normal → Builder
  | [] => skip
  | t :: ts => (build t).andThen (buildSeq ts)

def buildChoice : List Normal → Builder
  | [] => node fun _ => .fail
  | [t] => build t
  | t :: ts => fun next nodes =>
    let (second, nodes) := buildChoice ts next nodes
    let (first, nodes) := build t next nodes
    (nodes.size, nodes.push (.fork first second))

end

/-- The automaton of a pattern. -/
def ofNormal (t : Normal) : Automaton :=
  let (entry, nodes) := build t 0 #[.accept]
  { nodes, entry }

end Automaton

end Leftmost
