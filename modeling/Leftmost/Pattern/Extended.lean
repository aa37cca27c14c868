import Leftmost.Pattern.Extended.Escape

/-!
# Leftmost.Pattern.Extended

The extended dialect: what the plain one has but byte matching, and with it look-around,
back-references, atomic groups, possessive repetitions and conditions.

A group that only groups leaves no trace in the tree, so a condition's branches are split at the
choice that stands there, wherever its parentheses are. Flags set inside a capturing group stay in
force behind it; only a group that sets flags itself takes them back.
-/

namespace Leftmost.Extended

/-! ## Repetitions -/

/-- Whether an operator can repeat a tree. -/
def isRepeatable : Tree → Bool
  | .empty | .around .. | .searchStart | .keepOut | .isSet _ => false
  | _ => true

/-- The greatest number of 64 bits, as good as no limit. -/
def unlimited : Nat := UInt64.size - 1

/-- The numbers between braces: `{n}`, `{n,}`, `{n,m}`, `{,m}` or `{,}`. Gives `none`, and reads
nothing, if the braces hold something else. -/
def counts? : Reading (Option (Nat × Option Nat)) := do
  let spaced := (← flags).spaced
  let drop := dropIgnored spaced .between
  let text ← rest
  let found := do
    let cs ← drop text.tail
    let (lo, cs) ← if cs.head? == some ',' then some (0, cs) else number? cs
    match ← drop cs with
    | '}' :: cs => return (lo, some lo, cs)
    | ',' :: cs =>
      let cs ← drop cs
      let (hi, cs) := ((number? cs).map fun (n, cs) => (some n, cs)).getD (none, cs)
      match ← drop cs with
      | '}' :: cs => return (lo, hi, cs)
      | _ => none
    | _ => none
  match found with
  | some (lo, hi, cs) =>
    setRest cs
    return some (lo, if hi = some unlimited then none else hi)
  | none => return none

/-- The repetition that comes next, if one does. -/
def repetition? : Reading (Option (Nat × Option Nat)) := do
  if ← take "?" then return some (0, some 1)
  else if ← take "*" then return some (0, none)
  else if ← take "+" then return some (1, none)
  else if ← isNext "\x7b" then counts?
  else return none

/-- A tree with the repetition that comes next. A question mark behind that makes it lazy, a plus
sign makes it possessive. -/
def repeated (t : Tree) : Reading Tree := do
  skip
  match ← repetition? with
  | none => return t
  | some (lo, hi) =>
    if !isRepeatable t then refuse .nothingToRepeat
    skip
    let lazy ← take "?"
    let loop := .loop lo hi (lazy == (← flags).swapGreed) t
    if ← take "+" then return .atomic loop else return loop

/-! ## Flags -/

/-- Sets one flag. -/
def setFlag (c : Char) (value : Bool) : Reading Unit := do
  let f ← flags
  match c, value with
  | 'i', _ => setFlags { f with caseless := value }
  | 'm', _ => setFlags { f with multiLine := value }
  | 's', _ => setFlags { f with dotAll := value }
  | 'U', _ => setFlags { f with swapGreed := value }
  | 'x', _ => setFlags { f with spaced := value }
  | 'u', true => pure ()
  | _, _ => refuse .badFlags

/-- Reads flags up to a colon or a closing parenthesis; tells which. Those behind a hyphen are taken
back. With `first`, nothing has been read yet. -/
def flagItems : Nat → Bool → Bool → Reading Char
  | 0, _, _ => refuse .badFlags
  | fuel + 1, first, negated => do
    let before := (← rest).length
    skip
    let moved := (← rest).length != before
    match ← rest with
    | [] => refuse .unclosedGroup
    | c :: cs =>
      setRest cs
      match c with
      | '-' =>
        if negated then refuse .badFlags
        let next := cs.head?
        if first && !moved && (next == some ')' || next == some ':') then refuse .badFlags
        flagItems fuel false true
      | ')' => if first && !moved then refuse .badFlags else return c
      | ':' => return c
      | c =>
        setFlag c (!negated)
        flagItems fuel false negated

/-! ## Groups -/

/-- Passes over the parenthesis that closes a group. -/
def closeGroup : Reading Unit := do
  if !(← take ")") then refuse .unclosedGroup

/-- The next number of a group. -/
def newGroup : Reading Nat :=
  modifyGet fun s => (s.groups + 1, { s with groups := s.groups + 1 })

/-- The name of a group, which is bound to its number from here on. -/
def groupName (group : Nat) : Reading Unit := do
  match name? (← openName) false (← rest) with
  | none => refuse .badGroupName
  | some (n, after) =>
    setRest after
    modify fun s => { s with names := (n.id, group) :: s.names }

/-- The tree of a condition: what looks like a reference asks whether the group took part. -/
def conditionOf : Tree → Tree
  | .backref g _ => .isSet g
  | t => t

/-- A condition with its branches: the first alternative if it holds, the others if not. -/
def branchOf (condition body : Tree) : Tree :=
  let (yes, no) : Tree × Tree :=
    match body with
    | .choice (yes :: [no]) => (yes, no)
    | .choice (yes :: no) => (yes, .choice no)
    | t => (t, .empty)
  match yes, no with
  | .empty, .empty => conditionOf condition
  | _, _ => .branch (conditionOf condition) yes no

/-- How deeply groups may be nested. -/
def maxNesting : Nat := 64

/-! ## Patterns -/

mutual

/-- Alternatives, at a depth of groups. Numbers and names of groups must not be mixed where there is
but one. -/
def choice : Nat → Nat → Reading Tree
  | 0, _ => refuse .nestedTooDeep
  | fuel + 1, depth => do
    let first ← items fuel depth []
    match ← alternatives fuel depth with
    | [] =>
      let s ← get
      if s.numbered ∧ !s.names.isEmpty then throw (.unsupported .badReference)
      return first
    | others => return .choice (first :: others)

/-- The alternatives behind the first. -/
def alternatives : Nat → Nat → Reading (List Tree)
  | 0, _ => refuse .nestedTooDeep
  | fuel + 1, depth => do
    if ← take "|" then
      let t ← items fuel depth []
      return t :: (← alternatives fuel depth)
    else return []

/-- The items of a sequence; those read already are listed backwards. -/
def items : Nat → Nat → List Tree → Reading Tree
  | 0, _, _ => refuse .nestedTooDeep
  | fuel + 1, depth, done => do
    skip
    match ← rest with
    | [] | '|' :: _ | ')' :: _ => return .ofSeq done.reverse
    | _ =>
      match ← repeated (← atom fuel depth) with
      | .empty => items fuel depth done
      | t => items fuel depth (t :: done)

/-- One item, without its repetition. It is empty where an operator has nothing to repeat. -/
def atom : Nat → Nat → Reading Tree
  | 0, _ => refuse .nestedTooDeep
  | fuel + 1, depth => do
    let f ← flags
    match ← rest with
    | [] => return .empty
    | c :: cs =>
      match c with
      | '+' | '*' | '?' => return .empty
      | '(' =>
        if maxNesting ≤ depth + 1 then refuse .nestedTooDeep
        setRest cs
        skip
        group fuel (depth + 1)
      | '\\' => (← escape false).tree
      | '[' => bracketClass
      | '.' =>
        setRest cs
        return if f.dotAll then .set .scalars 1 else .set (RangeSet.scalars.diff (.singleton 0x0a))
      | '^' =>
        setRest cs
        return .look (if f.multiLine then .lineStart false else .textStart)
      | '$' =>
        setRest cs
        return .look (if f.multiLine then .lineEnd false else .textEnd)
      | c =>
        setRest cs
        ofChar c

/-- A group, from behind its opening parenthesis on. -/
def group : Nat → Nat → Reading Tree
  | 0, _ => refuse .nestedTooDeep
  | fuel + 1, depth => do
    let body : Reading Tree := do
      let t ← choice fuel depth
      closeGroup
      return t
    let named : Reading Tree := do
      let g ← newGroup
      groupName g
      return .group g (← body)
    if ← take "?=" then return .around true true (← body)
    else if ← take "?!" then return .around true false (← body)
    else if ← take "?<=" then return .around false true (← body)
    else if ← take "?<!" then return .around false false (← body)
    else if (← isNext "?<") || (← isNext "?'") then
      advance 1
      named
    else if ← isNext "?P<" then
      advance 2
      named
    else if ← take "?P=" then namedReference (some ')') false
    else if ← take "?P>" then call (some ')') false
    else if ← take "?>" then return .atomic (← body)
    else if ← take "?(" then conditional fuel depth
    else if ← take "?" then
      let before ← flags
      let stop ← flagItems ((← rest).length + 1) true false
      if stop = ':' then
        let t ← body
        setFlags before
        return t
      else return .empty
    else
      let g ← newGroup
      return .group g (← body)

/-- A condition and its branches, from behind the parenthesis that opens the condition on. Without
branches the condition has to be a reference. -/
def conditional : Nat → Nat → Reading Tree
  | 0, _ => refuse .nestedTooDeep
  | fuel + 1, depth => do
    let condition ←
      match ← rest with
      | [] => refuse .unclosedGroup
      | '\'' :: _ | '<' :: _ => namedReference (← openName) true
      | c :: _ =>
        if Plain.isDecimal c ∨ c = '+' ∨ c = '-' then namedReference none true
        else choice fuel depth
    closeGroup
    let before := (← rest).length
    let body ← choice fuel depth
    let bare := (← rest).length == before
    closeGroup
    match condition, bare with
    | .backref g _, true => return .isSet g
    | _, true => refuse .unknownGroup
    | condition, false => return branchOf condition body

end

/-- A pattern of the extended dialect: its tree, the number of its groups without the whole match,
and the groups that references name. -/
structure Parsed where
  tree : Tree
  groups : Nat
  referenced : List Nat

/-- The pattern that a text spells. -/
def read (text : String) : Except Fault Parsed := do
  let fuel := 8 * (text.length + 2)
  let (tree, s) ← (choice fuel 0).run { rest := text.toList, groupLimit := text.utf8ByteSize / 2 }
  if !s.rest.isEmpty then throw (.malformed .unopenedGroup)
  if let some why := s.flaw then throw (.unsupported why)
  if s.referenced.any fun g => g = 0 ∨ s.groups < g then throw (.unsupported .badReference)
  return { tree, groups := s.groups, referenced := s.referenced }

end Leftmost.Extended
