import Leftmost.Pattern.Plain.Reading
import Leftmost.Unicode.Fold

/-!
# Leftmost.Pattern.Plain.Escape

What may follow a backslash: a character by itself, by a letter or by its code point, a class of
characters, or a condition on the position.

Every ASCII character that is no letter or digit can be escaped to mean itself, but `<` and `>`,
which are word edges. Code points have two, four or eight digits in base sixteen by the letter `x`,
`u` or `U`, or any number between braces.
-/

namespace Leftmost.Plain

/-- What an escape or a single character means. -/
inductive Primitive where
  /-- A character. One written as a byte by two digits is that byte where bytes are matched. -/
  | literal (c : Char) (asByte : Bool)
  | set (s : RangeSet)
  | look (l : Look)

/-- Whether a backslash before a character leaves the character. -/
def isEscapable (c : Char) : Bool :=
  c.toNat < 0x80 && !c.isAlphanum && c != '<' && c != '>'

/-- The control characters that have a letter. -/
def control? : Char → Option Char
  | 'a' => some '\x07'
  | 'f' => some '\x0c'
  | 't' => some '\t'
  | 'n' => some '\n'
  | 'r' => some '\r'
  | 'v' => some '\x0b'
  | _ => none

/-- All characters, or all bytes. -/
def Flags.universe (f : Flags) : RangeSet := if f.unicode then .scalars else .allBytes

/-- A set or its complement. -/
def Flags.sign (f : Flags) (negated : Bool) (s : RangeSet) : RangeSet :=
  if negated then f.universe.diff s else s

/-- Adds case variants where case means nothing; among bytes only letters have them. -/
def Flags.fold (f : Flags) (s : RangeSet) : RangeSet :=
  if !f.caseless then s
  else if f.unicode then Unicode.closeUnderFold s
  else
    let shift (old new : Nat) :=
      (s.inter (.range old (old + 25))).toList.map fun (a, b) => (a - old + new, b - old + new)
    .ofList (s.toList ++ shift 0x41 0x61 ++ shift 0x61 0x41)

/-! ## Code points -/

/-- `n` digits in base sixteen. -/
def hexDigits : Nat → Reading (List Char)
  | 0 => return []
  | n + 1 => do
    let c ← next .danglingEscape
    if isHex c then
      bumpSpace
      return c :: (← hexDigits n)
    else throw .badCodePoint

/-- The code point behind `\x`, `\u` or `\U`. -/
def codePoint (letter : Char) : Reading Primitive := do
  bumpSpace
  let c ← next .danglingEscape
  let braces := c = '{'
  let ds ←
    if braces then
      bumpSpace
      let ds ← takeWhile (· != '}')
      let _ ← next .danglingEscape
      bumpSpace
      pure ds
    else hexDigits (if letter = 'x' then 2 else if letter = 'u' then 4 else 8)
  if ds.isEmpty ∨ ds.any (!isHex ·) then throw .badCodePoint
  match charOf? (hexValue ds) with
  | some c => return .literal c (!braces && letter == 'x')
  | none => throw .badCodePoint

/-! ## Properties -/

/-- The parts of a text before and behind the first occurrence of a mark. -/
def splitAt? (mark : List Char) : List Char → Option (List Char × List Char)
  | [] => none
  | c :: cs =>
    if mark.isPrefixOf (c :: cs) then some ([], (c :: cs).drop mark.length)
    else (splitAt? mark cs).map fun (a, b) => (c :: a, b)

/-- The set that the text between the braces of a property names, and whether the text negates
it. -/
def propertySet? (text : List Char) : Option (RangeSet × Bool) :=
  match splitAt? ['!', '='] text with
  | some (p, v) => (Property.ofValue? p v).map (·, true)
  | none =>
    match (splitAt? [':'] text).or (splitAt? ['='] text) with
    | some (p, v) => (Property.ofValue? p v).map (·, false)
    | none => (Property.ofName? text).map (·, false)

/-- The property behind `\p` or `\P`. -/
def property (negated : Bool) : Reading Primitive := do
  bumpSpace
  let c ← next .danglingEscape
  let text ←
    if c = '{' then
      bumpSpace
      let text ← takeWhile (· != '}')
      let _ ← next .danglingEscape
      bump
      pure text
    else if c = '\\' then throw .unknownProperty
    else
      bumpSpace
      pure [c]
  let f ← flags
  if !f.unicode then throw .notBytes
  match propertySet? text with
  | some (s, inverted) => return .set (f.sign (negated != inverted) (f.fold s))
  | none => throw .unknownProperty

/-! ## Word edges -/

/-- The names that `\b` takes between braces. -/
def edgeOfName? : String → Option WordEdge
  | "start" => some .start
  | "end" => some .stop
  | "start-half" => some .startHalf
  | "end-half" => some .stopHalf
  | _ => none

/-- The edge that braces behind `\b` name. What holds no letter or hyphen is left alone: it is a
number of repetitions. -/
def wordEdge : Reading WordEdge := do
  let inName (c : Char) : Bool := c.isAlpha || c == '-'
  match ← rest with
  | '{' :: _ =>
    let before ← rest
    bumpSpace
    if inName (← next .badWordEdge) then
      let name ← takeWhile inName
      if (← rest).head? != some '}' then throw .badWordEdge
      bump
      match edgeOfName? (String.ofList name) with
      | some e => return e
      | none => throw .badWordEdge
    else
      setRest before
      return .edge
  | _ => return .edge

/-! ## Escapes -/

/-- What a backslash and the text behind it mean. -/
def escape : Reading Primitive := do
  bump
  let c ← next .danglingEscape
  let f ← flags
  match c with
  | 'x' | 'u' | 'U' => codePoint c
  | 'p' => property false
  | 'P' => property true
  | _ =>
    bump
    match Property.ofLetter? f.unicode c.toLower with
    | some s => return .set (f.sign c.isUpper s)
    | none =>
      if isEscapable c then return .literal c false
      match control? c with
      | some x => return .literal x false
      | none =>
        let ascii := !f.unicode
        match c with
        | 'A' => return .look .textStart
        | 'z' => return .look .textEnd
        | 'b' => return .look (.word (← wordEdge) ascii)
        | 'B' => return .look (.word .inside ascii)
        | '<' => return .look (.word .start ascii)
        | '>' => return .look (.word .stop ascii)
        | _ => throw .unknownEscape

end Leftmost.Plain
