import Leftmost.Pattern.Plain.Escape

/-!
# Leftmost.Pattern.Plain.Class

Character classes in brackets: characters, ranges, escapes and classes by name side by side, other
classes nested in them, and the operators `&&`, `--` and `~~` between such unions, which all bind
alike and to the left.

A `]` that comes first and hyphens that come first stand for themselves, and so does a hyphen before
the closing bracket. Case variants are added before a class is negated.
-/

namespace Leftmost.Plain

/-- The operators between the operands of a class. -/
inductive ClassOp where
  | both
  | without
  | eitherOne

/-- What a class holds so far; `depth` is how deeply its parts are nested. -/
structure Members where
  set : RangeSet := .empty
  count : Nat := 0
  depth : Nat := 0

/-- Adds a member. -/
def Members.add (m : Members) (s : RangeSet) (depth : Nat) : Members :=
  { set := m.set.union s, count := m.count + 1, depth := max m.depth depth }

/-- An operand made of all members. -/
def Members.operand (m : Members) : RangeSet × Nat :=
  (m.set, if m.count ≤ 1 then m.depth else m.depth + 1)

/-- A class whose closing bracket is still to come: the members of the class around it, whether it
is negated, and the operand and operator to the left of its present members. -/
structure OpenClass where
  around : Members
  negated : Bool
  left : Option (RangeSet × Nat × ClassOp) := none

/-- The result of an operator. -/
def ClassOp.apply (f : Flags) (op : ClassOp) (a b : RangeSet) : RangeSet :=
  let a := f.fold a
  let b := f.fold b
  match op with
  | both => a.inter b
  | without => a.diff b
  | eitherOne => a.symmDiff b

/-- Joins the present members to what stands to their left. -/
def OpenClass.close (f : Flags) (c : OpenClass) (m : Members) : RangeSet × Nat :=
  match c.left with
  | none => m.operand
  | some (s, depth, op) => (op.apply f s m.operand.1, max depth m.operand.2 + 1)

/-! ## Members -/

/-- The number of a character in the universe that the flags fix. -/
def member (f : Flags) (c : Char) (asByte : Bool) : Reading Nat :=
  if f.unicode ∨ c.toNat < 0x80 ∨ asByte then return c.toNat else throw .notBytes

/-- One item as it is written. -/
def classItem : Reading Primitive := do
  let c ← next .unclosedClass
  if c = '\\' then escape
  else
    bump
    return .literal c false

/-- The end of a range. -/
def rangeEnd (f : Flags) : Primitive → Reading Nat
  | .literal c asByte => member f c asByte
  | _ => throw .badRange

/-- The set of an item that is no range. -/
def itemSet (f : Flags) : Primitive → Reading RangeSet
  | .literal c asByte => return .singleton (← member f c asByte)
  | .set s => return s
  | .look _ => throw .badClassItem

/-- The first of some characters that is no white space; a `#` among the white space is passed over
once, but not the comment that it begins. Where only white space is left, the very first. -/
def firstBehindSpace (cs : List Char) : Option Char :=
  let drop (cs : List Char) := cs.dropWhile fun c => Unicode.blank.contains c.toNat
  let found := match drop cs with
    | '#' :: cs => drop cs
    | cs => cs
  found.head?.or cs.head?

/-- The second character from here; in spaced mode, looking past white space. -/
def peekSpace : Reading (Option Char) := do
  let cs ← rest
  return if (← flags).spaced then firstBehindSpace cs.tail else cs.tail.head?

/-- One item or a range. -/
def classRange : Reading RangeSet := do
  let f ← flags
  let first ← classItem
  skipSpace
  let c ← next .unclosedClass
  let after ← peekSpace
  if c != '-' || after == some ']' || after == some '-' then itemSet f first
  else
    bumpSpace
    let second ← classItem
    let a ← rangeEnd f first
    let b ← rangeEnd f second
    if a ≤ b then return .ofList [(a, b)] else throw .badRange

/-- A class by name, such as `[:alpha:]`, if one comes next. -/
def namedClass : Reading (Option RangeSet) := do
  let before ← rest
  let f ← flags
  if ← take "[:" then
    let negated ← take "^"
    let cs ← rest
    let name := cs.takeWhile (· != ':')
    setRest (cs.drop name.length)
    match Property.ascii? (String.ofList name) with
    | some s =>
      if ← take ":]" then return some (f.sign negated (f.fold s))
    | none => pure ()
  setRest before
  return none

/-! ## Brackets -/

/-- Hyphens at the front of a class. -/
def leadingHyphens : Nat → Members → Reading Members
  | 0, m => return m
  | fuel + 1, m => do
    if (← next .unclosedClass) = '-' then
      bumpSpace
      leadingHyphens fuel (m.add (.singleton '-'.toNat) 0)
    else return m

/-- The opening of a class, up to its first proper member. -/
def openBracket : Reading (Bool × Members) := do
  bumpSpace
  let negated := (← next .unclosedClass) = '^'
  if negated then bumpSpace
  let m ← leadingHyphens ((← rest).length + 1) {}
  if m.count = 0 ∧ (← next .unclosedClass) = ']' then
    bumpSpace
    let _ ← next .unclosedClass
    return (negated, m.add (.singleton ']'.toNat) 0)
  return (negated, m)

/-- The operator that comes next. -/
def classOp? : Reading (Option ClassOp) := do
  if ← take "&&" then return some .both
  else if ← take "--" then return some .without
  else if ← take "~~" then return some .eitherOne
  else return none

/-- Reads the members of the innermost open class, and those of the classes around it, up to the
bracket that closes the outermost one. Gives the set and the depth of nesting. -/
def members : Nat → List OpenClass → Members → Reading (RangeSet × Nat)
  | 0, _, _ => throw .unclosedClass
  | _, [], m => return m.operand
  | fuel + 1, c :: outer, m => do
    skipSpace
    let f ← flags
    match ← next .unclosedClass with
    | '[' =>
      match ← namedClass with
      | some s => members fuel (c :: outer) (m.add s 0)
      | none =>
        let (negated, inner) ← openBracket
        members fuel ({ around := m, negated } :: c :: outer) inner
    | ']' =>
      bump
      let (s, depth) := c.close f m
      let s := f.sign c.negated (f.fold s)
      if outer.isEmpty then return (s, depth + 1)
      else members fuel outer (c.around.add s (depth + 1))
    | _ =>
      match ← classOp? with
      | some op =>
        let (s, depth) := c.close f m
        members fuel ({ c with left := some (s, depth, op) } :: outer) {}
      | none => members fuel (c :: outer) (m.add (← classRange) 0)

/-- A class in brackets: its set and how deeply it is nested. -/
def bracketClass : Reading (RangeSet × Nat) := do
  let (negated, m) ← openBracket
  members ((← rest).length + 1) [{ around := {}, negated }] m

end Leftmost.Plain
