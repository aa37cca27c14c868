import Leftmost.Pattern.Extended.Reading

/-!
# Leftmost.Pattern.Extended.Escape

What may follow a backslash in an extended pattern. Classes of characters keep their text, which is
that of a class in the plain dialect; whether such a class exists is looked at later.
-/

namespace Leftmost.Extended

/-- What an escape means. -/
inductive Escape where
  /-- A character by itself or by its letter; case always matters. -/
  | sign (c : Char)
  /-- A character by its code point. -/
  | codePoint (c : Char)
  /-- A class of the plain dialect, by its text. -/
  | set (text : List Char) (caseless : Bool)
  /-- Anything else, which cannot be in a class. -/
  | other (t : Tree)

/-- The flags of the plain dialect that a class of characters goes by. -/
def plainFlags (caseless : Bool) : Plain.Flags := { caseless }

/-- The level of nesting that the flag for case adds. -/
def caseLevel (caseless : Bool) : Nat := if caseless then 1 else 0

/-- The tree of a class, `outer` of whose brackets are not spelt; a text that spells none is a
flaw. -/
def ofClass (text : List Char) (caseless : Bool) (outer : Nat) : Reading Tree := do
  match Plain.readClass (plainFlags caseless) text with
  | .ok (s, depth) => return .set s (depth - outer + caseLevel caseless)
  | .error why =>
    noteFlaw why
    return .set .empty

/-- The tree of a character. -/
def ofChar (c : Char) : Reading Tree := do
  let f := plainFlags (← flags).caseless
  return if f.caseless then .set (f.fold (.singleton c.toNat)) (caseLevel true) else .char c

/-- The tree of an escape. -/
def Escape.tree : Escape → Reading Tree
  | sign c => return .char c
  | codePoint c => ofChar c
  | set text caseless => ofClass ('[' :: text ++ [']']) caseless 1
  | other t => return t

/-- A code point of `n` digits, or of one to eight digits between braces. Ignored text may stand
before the digits and, between braces, anywhere. -/
def codePoint (n : Nat) : Reading Escape := do
  skip
  let cs ← rest
  let plain := cs.take n
  let ds ←
    if plain.length = n ∧ plain.all Plain.isHex then
      advance n
      pure plain
    else if ← take "\x7b" then
      let ds ← takeWhile Plain.isHex
      if ds.isEmpty ∨ 8 < ds.length then refuse .badCodePoint
      if ← take "\x7d" then pure ds else refuse .badCodePoint
    else refuse .badCodePoint
  match Plain.charOf? (Plain.hexValue ds) with
  | some c => return .codePoint c
  | none => refuse .badCodePoint

/-- The text of a property behind the letter that begins it. -/
def propertyText : Reading (List Char) := do
  match ← rest with
  | '{' :: cs =>
    let text := cs.takeWhile (· != '}')
    setRest (cs.drop text.length)
    if ← take "\x7d" then return '{' :: text ++ ['}'] else refuse .unknownProperty
  | c :: cs =>
    setRest cs
    return [c]
  | [] => refuse .unknownEscape

/-- The name between the braces that come next, if what they hold begins as a name does; otherwise
they are left alone. -/
def edgeName? : Reading (Option (List Char)) := do
  let drop := dropIgnored (← flags).spaced .between
  let inName (c : Char) : Bool := c.isAlpha || c == '-'
  let named := (drop (← rest)).any fun cs =>
    cs.head? == some '{' && (drop cs.tail).any fun cs => cs.head?.any inName
  if !named then return none
  skip
  advance 1
  let name ← takeWhile inName
  if ← take "\x7d" then return some name else refuse .badWordEdge

/-- The word edge behind `\b`, which braces may name. -/
def wordEdge : Reading WordEdge := do
  match ← edgeName? with
  | none => return .edge
  | some name =>
    match Plain.edgeOfName? (String.ofList name) with
    | some place => return place
    | none => refuse .badWordEdge

/-- What `\B` stands for, which has no names. -/
def insideWord : Reading WordEdge := do
  match ← edgeName? with
  | none => return .inside
  | some _ => refuse .badWordEdge

/-- Looks ahead at nothing but line feeds up to the end of the text. -/
def finalLines : Tree :=
  .around true true (.seq [.loop 0 none true (.char '\n'), .look .textEnd])

/-- The condition of a letter, if it stands for one. -/
def look? : Char → Option Look
  | 'A' => some .textStart
  | 'z' => some .textEnd
  | '<' => some (.word .start false)
  | '>' => some (.word .stop false)
  | _ => none

/-- A call of a group by name, up to the mark that closes the name. -/
def call (closing : Option Char) (withOffset : Bool) : Reading Tree := do
  match name? closing withOffset (← rest) with
  | none => refuse .badGroupName
  | some (n, after) =>
    if n.offset.isSome ∧ (groupOf? (← get) n).isNone then refuse .badReference
    if n.offset.isSome ∧ !n.id.isEmpty then refuse .badReference
    setRest after
    called

/-- A call of a group, by number or by name. -/
def callBehindLetter : Reading Tree := do
  if (← rest).head?.any Plain.isDecimal then
    let _ ← groupNumber
    called
  else call (← openName) true

/-- An escape that only makes sense outside classes, by its letter. -/
def outsideClass? (c : Char) : Option (Reading Tree) :=
  match look? c with
  | some l => some (return .look l)
  | none =>
    match c with
    | 'b' => some do return .look (.word (← wordEdge) false)
    | 'B' => some do return .look (.word (← insideWord) false)
    | 'K' => some (return .keepOut)
    | 'G' => some (return .searchStart)
    | 'O' => some (return .set .scalars 1)
    | 'Z' => some (return finalLines)
    | 'k' => some do namedReference (← openName) true
    | 'g' => some callBehindLetter
    | _ => none

/-- Whether a letter that only makes sense outside classes stands for itself in one. -/
def isPlainInClass (c : Char) : Bool := "kAzBKG".toList.contains c

/-- What a backslash and the text behind it mean. -/
def escape (inClass : Bool) : Reading Escape := do
  advance 1
  match ← rest with
  | [] => refuse .danglingEscape
  | c :: after =>
    if Plain.isDecimal c then
      return .other (← numberedReference)
    setRest after
    match if inClass then none else outsideClass? c with
    | some reading => return .other (← reading)
    | none =>
      let caseless := (← flags).caseless
      match c with
      | 'd' | 's' | 'w' | 'D' | 'S' | 'W' => return .set ['\\', c] caseless
      | 'h' => return .set "[0-9A-Fa-f]".toList false
      | 'H' => return .set "[^0-9A-Fa-f]".toList false
      | 'x' => codePoint 2
      | 'u' => codePoint 4
      | 'U' => codePoint 8
      | 'p' | 'P' => return .set ('\\' :: c :: (← propertyText)) caseless
      | 'e' => return .sign '\x1b'
      | 'b' => return .sign '\x08'
      | _ =>
        match Plain.control? c with
        | some x => return .sign x
        | none =>
          if c.isAlpha && !(inClass && isPlainInClass c) then refuse .unknownEscape
          else return .sign c

/-! ## Classes -/

/-- A character as it stands in a class of the plain dialect. -/
def quoteInClass (c : Char) : List Char :=
  if "\\.+*?()|[]\x7b\x7d^$#&-~".toList.contains c then ['\\', c] else [c]

/-- The text of a class in the plain dialect, from behind its opening bracket on; `nesting` counts
the brackets that are open. -/
def classText : Nat → Nat → Reading (List Char)
  | 0, _ => refuse .unclosedClass
  | fuel + 1, nesting => do
    match ← rest with
    | [] => refuse .unclosedClass
    | '\\' :: _ =>
      let text ←
        match ← escape true with
        | .sign c | .codePoint c => pure (quoteInClass c)
        | .set text _ => pure text
        | .other _ => refuse .badClassItem
      return text ++ (← classText fuel nesting)
    | c :: cs =>
      setRest cs
      match c, nesting with
      | ']', 1 => return [']']
      | ']', n + 1 => return ']' :: (← classText fuel n)
      | '[', n => return '[' :: (← classText fuel (n + 1))
      | c, n => return c :: (← classText fuel n)

/-- A class in brackets. -/
def bracketClass : Reading Tree := do
  advance 1
  let negation := if ← take "^" then ['^'] else []
  let bracket := if ← take "]" then [']'] else []
  let text ← classText ((← rest).length + 1) 1
  ofClass ('[' :: negation ++ bracket ++ text) (← flags).caseless 0

end Leftmost.Extended
