import Leftmost.Pattern.Plain.Class
import Leftmost.Unicode.Name

/-!
# Leftmost.Pattern.Plain

The plain dialect: patterns that can be matched in one pass. Groups and their alternatives are kept
on a stack while they are open, so reading is one walk over the text.

Flags hold from where they are set to the end of the group around them, alternatives included. How
deeply a pattern may be nested is limited; a sequence, a choice, a repetition, a group and a class
each add one level.
-/

namespace Leftmost.Plain

/-- A part of a pattern, how deeply it is nested, and whether it can be repeated. -/
structure Item where
  tree : Tree
  depth : Nat := 0
  repeatable : Bool := true

/-- A group that is open: the items before it, the alternatives around it that are finished, the
flags to come back to, and its number if it captures. Items and alternatives are listed backwards. -/
structure OpenGroup where
  before : List Item
  alternatives : List Item
  flags : Flags
  index : Option Nat

/-- What is read so far in the innermost group, and the groups around it. -/
structure Progress where
  items : List Item := []
  alternatives : List Item := []
  groups : List OpenGroup := []
  groupCount : Nat := 0
  names : List (List Char) := []

/-! ## Putting items together -/

def deepest (items : List Item) : Nat := items.foldl (fun d i => max d i.depth) 0

/-- Items, listed backwards, as one. -/
def inSequence : List Item → Item
  | [] => { tree := .empty }
  | [i] => i
  | items => { tree := .ofSeq (items.reverse.filterMap part), depth := deepest items + 1 }
where
  part (i : Item) : Option Tree := if i.repeatable then some i.tree else none

/-- What the innermost group holds. -/
def Progress.body (p : Progress) : Item :=
  let last := inSequence p.items
  if p.alternatives.isEmpty then last
  else
    let all := last :: p.alternatives
    { tree := .choice (all.reverse.map (·.tree)), depth := deepest all + 1 }

def Progress.add (p : Progress) (i : Item) : Progress := { p with items := i :: p.items }

/-! ## Single signs -/

/-- A set of characters or of bytes. -/
def ofSet (f : Flags) (s : RangeSet) : Tree := if f.unicode then .set s else .byte s

/-- A character. -/
def ofChar (f : Flags) (c : Char) (asByte : Bool) : Tree :=
  if !f.unicode && asByte && 0x80 ≤ c.toNat then .byte (.singleton c.toNat)
  else if !f.caseless then .char c
  else if f.unicode ∨ c.toNat < 0x80 then
    let s := f.fold (.singleton c.toNat)
    if s.size = 1 then .char c else ofSet f s
  else .char c

def ofPrimitive (f : Flags) : Primitive → Tree
  | .literal c asByte => ofChar f c asByte
  | .set s => ofSet f s
  | .look l => .look l

/-- What a dot matches: all, or all but what ends a line. -/
def dot (f : Flags) : Tree :=
  let ends : RangeSet :=
    if f.dotAll then .empty
    else if f.crlf then .ofList [(0x0a, 0x0a), (0x0d, 0x0d)]
    else .singleton 0x0a
  ofSet f (f.universe.diff ends)

/-- The condition of `^`. -/
def lineStart (f : Flags) : Look := if f.multiLine then .lineStart f.crlf else .textStart

/-- The condition of `$`. -/
def lineEnd (f : Flags) : Look := if f.multiLine then .lineEnd f.crlf else .textEnd

/-! ## Repetitions -/

/-- The last item, which an operator is to repeat. -/
def operand (p : Progress) : Reading (Item × Progress) :=
  match p.items with
  | i :: items => if i.repeatable then return (i, { p with items }) else throw .nothingToRepeat
  | [] => throw .nothingToRepeat

/-- Repeats the last item; a question mark that comes next makes it lazy. -/
def repeated (p : Progress) (i : Item) (lo : Nat) (hi : Option Nat) : Reading Progress := do
  let lazy ← take "?"
  let greedy := lazy == (← flags).swapGreed
  return p.add { tree := .loop lo hi greedy i.tree, depth := i.depth + 1 }

/-- The numbers between braces. -/
def counts : Reading (Nat × Option Nat) := do
  let required : Option Nat → Reading Nat
    | some n => return n
    | none => throw .badCount
  let lo ← decimal?
  if (← next .badCount) = ',' then
    bumpSpace
    if (← next .badCount) = '}' then return (← required lo, none)
    else
      let lo ← required lo
      return (lo, some (← required (← decimal?)))
  else
    let lo ← required lo
    return (lo, some lo)

/-- Repeats the last item as often as the braces that come next say. -/
def counted (p : Progress) : Reading Progress := do
  let (i, p) ← operand p
  bumpSpace
  let _ ← next .badCount
  let (lo, hi) ← counts
  if (← next .badCount) != '}' then throw .badCount
  bumpSpace
  if hi.any (· < lo) then throw .badCount
  repeated p i lo hi

/-! ## Groups -/

/-- What may be in the name of a group. -/
def inGroupName (first : Bool) (c : Char) : Bool :=
  c == '_' || Unicode.isNameLetter c.toNat ||
    (!first && (c == '.' || c == '[' || c == ']' || Unicode.isNameNumber c.toNat))

/-- The name of a group, up to the bracket that closes it. -/
def groupName (names : List (List Char)) : Reading (List Char) := do
  let cs ← rest
  let name := cs.takeWhile (· != '>')
  let good :=
    match name with
    | c :: cs => inGroupName true c && cs.all (inGroupName false)
    | [] => false
  setRest (cs.drop name.length)
  if !good || names.contains name then throw .badGroupName
  if ← take ">" then return name else throw .badGroupName

/-- Sets one flag. -/
def setFlag (f : Flags) (c : Char) (value : Bool) : Reading Flags :=
  match c with
  | 'i' => return { f with caseless := value }
  | 'm' => return { f with multiLine := value }
  | 's' => return { f with dotAll := value }
  | 'U' => return { f with swapGreed := value }
  | 'u' => return { f with unicode := value }
  | 'R' => return { f with crlf := value }
  | 'x' => return { f with spaced := value }
  | _ => throw .badFlags

/-- The flags up to a colon or a bracket; those behind a hyphen are taken back. None may be named
twice, and a hyphen must not come last. -/
def flagItems : Flags → List Char → List Char → Reading Flags
  | f, named, c :: cs => do
    if c = ':' ∨ c = ')' then
      if named.head? == some '-' then throw .badFlags
      setRest (c :: cs)
      return f
    else if named.contains c then throw .badFlags
    else if c = '-' then flagItems f (c :: named) cs
    else flagItems (← setFlag f c (!named.contains '-')) (c :: named) cs
  | _, _, [] => throw .badFlags

/-- Enters a group. -/
def enter (p : Progress) (index : Option Nat) (before inside : Flags) : Reading Progress := do
  setFlags inside
  return {
    items := [], alternatives := []
    groups := ⟨p.items, p.alternatives, before, index⟩ :: p.groups
    groupCount := p.groupCount + index.toList.length
    names := p.names }

/-- What an opening parenthesis begins: a group, or flags for the rest of the group around. -/
def openGroup (p : Progress) : Reading Progress := do
  bumpSpace
  let f ← flags
  let index := p.groupCount + 1
  for mark in ["?=", "?!", "?<=", "?<!"] do
    if mark.toList.isPrefixOf (← rest) then throw .unknownGroup
  if (← take "?P<") || (← take "?<") then
    let name ← groupName p.names
    enter { p with names := name :: p.names } (some index) f f
  else if ← take "?" then
    let cs ← rest
    let g ← flagItems f [] cs
    if ← take ":" then enter p none f g
    else
      bump
      if cs.head? == some ')' then throw .nothingToRepeat
      setFlags g
      return p.add { tree := .empty, repeatable := false }
  else enter p (some index) f f

/-- Leaves the innermost group. -/
def closeGroup (p : Progress) : Reading Progress := do
  match p.groups with
  | [] => throw .unopenedGroup
  | g :: groups =>
    bump
    setFlags g.flags
    let body := p.body
    let tree := match g.index with
      | some i => .group i body.tree
      | none => body.tree
    return {
      items := { tree, depth := body.depth + 1 } :: g.before
      alternatives := g.alternatives
      groups
      groupCount := p.groupCount
      names := p.names }

/-! ## Patterns -/

/-- Reads what comes next. -/
def part (p : Progress) (c : Char) : Reading Progress := do
  let f ← flags
  let sign (t : Tree) : Reading Progress := do
    bump
    return p.add { tree := t }
  let repeatLast (lo : Nat) (hi : Option Nat) : Reading Progress := do
    let (i, p) ← operand p
    bump
    repeated p i lo hi
  match c with
  | '(' => openGroup p
  | ')' => closeGroup p
  | '|' =>
    bump
    return { p with items := [], alternatives := inSequence p.items :: p.alternatives }
  | '[' =>
    let (s, depth) ← bracketClass
    return p.add { tree := ofSet f s, depth }
  | '?' => repeatLast 0 (some 1)
  | '*' => repeatLast 0 none
  | '+' => repeatLast 1 none
  | '{' => counted p
  | '\\' => return p.add { tree := ofPrimitive f (← escape) }
  | '.' => sign (dot f)
  | '^' => sign (.look (lineStart f))
  | '$' => sign (.look (lineEnd f))
  | c => sign (ofChar f c false)

/-- Reads to the end. -/
def parts : Nat → Progress → Reading Progress
  | 0, p => return p
  | fuel + 1, p => do
    skipSpace
    match ← rest with
    | [] => return p
    | c :: _ => parts fuel (← part p c)

/-- The pattern that a text spells. -/
def read (text : String) : Except Refusal Tree := do
  let (p, _) ← (parts (text.length + 1) {}).run ⟨text.toList, {}⟩
  if !p.groups.isEmpty then throw .unclosedGroup
  let body := p.body
  if Tree.maxNesting < body.depth then throw .nestedTooDeep
  return body.tree

/-- The set of a class that a text spells, under the given flags, and how deeply it is nested. -/
def readClass (f : Flags) (text : List Char) : Except Refusal (RangeSet × Nat) := do
  return (← bracketClass.run ⟨text, f⟩).1

end Leftmost.Plain
