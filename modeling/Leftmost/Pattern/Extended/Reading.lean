import Leftmost.Pattern.Plain

/-!
# Leftmost.Pattern.Extended.Reading

The text of an extended pattern while it is read. Between its items comments `(?#` … `)` mean
nothing; in spaced mode neither do spaces, tabs, line ends and comments from `#` to the end of a
line. Inside a class every character counts.

What is noticed only when parts of the pattern are prepared for matching is noted as a flaw; it
counts only if the rest of the text can be read.
-/

namespace Leftmost.Extended

/-- The flags in force. -/
structure Flags where
  caseless : Bool := false
  multiLine : Bool := false
  dotAll : Bool := false
  swapGreed : Bool := false
  spaced : Bool := false
deriving DecidableEq, Repr

/-- What is left to read, and what is known so far. -/
structure State where
  rest : List Char
  flags : Flags := {}
  /-- The number of the latest group that captures. -/
  groups : Nat := 0
  names : List (List Char × Nat) := []
  /-- The groups that back-references and conditions name. -/
  referenced : List Nat := []
  /-- Whether one of them is named by its number alone. -/
  numbered : Bool := false
  flaw : Option Refusal := none
  /-- Numbers of groups have to be below this bound. -/
  groupLimit : Nat

/-- Reading a part of a pattern. -/
abbrev Reading := StateT State (Except Fault)

def refuse {α : Type} (why : Refusal) : Reading α := throw (.malformed why)

/-- Notes a flaw, unless there is one already. -/
def noteFlaw (why : Refusal) : Reading Unit := modify fun s => { s with flaw := s.flaw.or (some why) }

def flags : Reading Flags := return (← get).flags

def setFlags (f : Flags) : Reading Unit := modify fun s => { s with flags := f }

def rest : Reading (List Char) := return (← get).rest

def setRest (cs : List Char) : Reading Unit := modify fun s => { s with rest := cs }

/-- Passes over `n` characters. -/
def advance (n : Nat) : Reading Unit := modify fun s => { s with rest := s.rest.drop n }

/-- Whether a text comes next. -/
def isNext (text : String) : Reading Bool := return text.toList.isPrefixOf (← rest)

/-- Passes over a text if it comes next, and tells whether it does. -/
def take (text : String) : Reading Bool := do
  if ← isNext text then
    advance text.length
    return true
  else return false

/-! ## What means nothing -/

/-- Where a walk over ignored text is. -/
inductive Ignoring where
  | between
  /-- In a comment up to the end of the line. -/
  | line
  /-- In a comment up to the closing parenthesis. -/
  | comment
  /-- The same, behind a backslash. -/
  | escaped

def isSpace (c : Char) : Bool := c == ' ' || c == '\r' || c == '\n' || c == '\t'

/-- Drops ignored text from the front; `none` if a comment is not closed. -/
def dropIgnored (spaced : Bool) : Ignoring → List Char → Option (List Char)
  | .between, '(' :: '?' :: '#' :: cs => dropIgnored spaced .comment cs
  | .between, c :: cs =>
    if spaced && isSpace c then dropIgnored spaced .between cs
    else if spaced && c == '#' then dropIgnored spaced .line cs
    else some (c :: cs)
  | .line, c :: cs => dropIgnored spaced (if c = '\n' then .between else .line) cs
  | .comment, c :: cs =>
    dropIgnored spaced (if c = ')' then .between else if c = '\\' then .escaped else .comment) cs
  | .escaped, _ :: cs => dropIgnored spaced .comment cs
  | .between, [] | .line, [] => some []
  | .comment, [] | .escaped, [] => none

/-- Passes over ignored text. -/
def skip : Reading Unit := do
  match dropIgnored (← flags).spaced .between (← rest) with
  | some cs => setRest cs
  | none => refuse .unclosedGroup

/-- Collects characters of a kind, passing over ignored text before each and behind the last. -/
def collect (kind : Char → Bool) : Nat → Reading (List Char)
  | 0 => return []
  | fuel + 1 => do
    skip
    match ← rest with
    | c :: cs =>
      if kind c then
        setRest cs
        return c :: (← collect kind fuel)
      else return []
    | [] => return []

/-- As many of the characters that come next as are of a kind. -/
def takeWhile (kind : Char → Bool) : Reading (List Char) := do
  collect kind ((← rest).length + 1)

/-! ## Numbers and names -/

/-- A decimal number at the front of a text, below 2^64, with the text behind it. -/
def number? (cs : List Char) : Option (Nat × List Char) :=
  let ds := cs.takeWhile Plain.isDecimal
  if ds.isEmpty ∨ UInt64.size ≤ Plain.decimalValue ds then none
  else some (Plain.decimalValue ds, cs.drop ds.length)

/-- What may be in the name of a group. -/
def inName (c : Char) : Bool :=
  c == '_' || Unicode.isNameLetter c.toNat || Unicode.isNameNumber c.toNat

/-- A name, and the signed number that may stand behind it. -/
structure Name where
  id : List Char
  offset : Option Int

/-- The signed number at the front of a text. -/
def offset? : List Char → Option (Int × List Char)
  | '-' :: cs => (number? cs).map fun (n, cs) => (-(n : Int), cs)
  | '+' :: cs => (number? cs).map fun (n, cs) => ((n : Int), cs)
  | _ => none

/-- The text behind the mark that closes a name; where none has to, all of it. -/
def close? (closing : Option Char) (cs : List Char) : Option (List Char) :=
  match closing, cs with
  | none, cs => some cs
  | some mark, c :: cs => if c = mark then some cs else none
  | some _, [] => none

/-- A name up to its closing mark at the front of a text, with the text behind the mark. -/
def name? (closing : Option Char) (withOffset : Bool) (cs : List Char) :
    Option (Name × List Char) :=
  let id := cs.takeWhile inName
  let after := cs.drop id.length
  match if id.isEmpty then none else close? closing after with
  | some after => some (⟨id, none⟩, after)
  | none => do
    if !withOffset then failure
    let (n, after) ← offset? after
    return (⟨id, some n⟩, ← close? closing after)

/-- Passes over the mark that opens a name; gives the one that closes it. -/
def openName : Reading (Option Char) := do
  if ← take "<" then return some '>'
  else if ← take "'" then return some '\''
  else refuse .badGroupName

/-! ## References -/

/-- Notes that a group is named. -/
def refer (group : Nat) : Reading Unit :=
  modify fun s => { s with referenced := group :: s.referenced }

/-- The group that a name stands for. An offset alone counts from the latest group, -1 being that
group; there is no offset 0. -/
def groupOf? (s : State) (n : Name) : Option Nat :=
  match s.names.lookup n.id with
  | some g => some g
  | none =>
    match number? n.id with
    | some (g, []) => some g
    | _ =>
      match n.id, n.offset with
      | [], some k =>
        let g : Int := s.groups + (if k < 0 then k + 1 else k)
        if k ≠ 0 ∧ 0 ≤ g then some g.toNat else none
      | _, _ => none

/-- What stands for a call of a group, which cannot be prepared for matching. -/
def called : Reading Tree := do
  noteFlaw .recursion
  return .set .empty

/-- A reference by name. A name with an offset would count levels of recursion. -/
def namedReference (closing : Option Char) (withOffset : Bool) : Reading Tree := do
  match name? closing withOffset (← rest) with
  | none => refuse .badGroupName
  | some (n, after) =>
    match groupOf? (← get) n with
    | none => refuse .badReference
    | some g =>
      setRest after
      refer g
      if n.offset.isSome ∧ !n.id.isEmpty then called
      else return .backref g (← flags).caseless

/-- The number of a group. -/
def groupNumber : Reading Nat := do
  match number? (← rest) with
  | some (g, after) =>
    if (← get).groupLimit ≤ g then refuse .badReference
    setRest after
    return g
  | none => refuse .badReference

/-- A reference by number. -/
def numberedReference : Reading Tree := do
  let g ← groupNumber
  modify fun s => { s with numbered := true }
  refer g
  return .backref g (← flags).caseless

end Leftmost.Extended
