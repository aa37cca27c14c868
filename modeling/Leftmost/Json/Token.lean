import Leftmost.Text.Surrogate

/-!
# Leftmost.Json.Token

JSON texts as tokens. White space between tokens means nothing.

A string may escape characters as 16-bit units. Units that pair up wrongly spell no characters;
such a string is a token all the same, but one without a text. A number keeps its value if it is
written as a natural number, and no value otherwise.
-/

namespace Leftmost.Json

inductive Token where
  | openBrace
  | closeBrace
  | openBracket
  | closeBracket
  | colon
  | comma
  | null
  | bool (b : Bool)
  | number (value : Option Nat)
  | string (text : Option String)
deriving DecidableEq, Repr

/-! ## Numbers -/

def isDigit (c : Char) : Bool := '0' ≤ c && c ≤ '9'

/-- The value of decimal digits. -/
def digitsValue (ds : List Char) : Nat := ds.foldl (fun n c => 10 * n + (c.toNat - 0x30)) 0

/-- Digits at the front of a text, at least one, and what follows them. -/
def digits? (cs : List Char) : Option (List Char × List Char) :=
  let ds := cs.takeWhile isDigit
  if ds.isEmpty then none else some (ds, cs.drop ds.length)

/-- Passes over the fraction of a number; tells whether there is one. -/
def fraction? : List Char → Option (Bool × List Char)
  | '.' :: cs => (digits? cs).map fun (_, cs) => (true, cs)
  | cs => some (false, cs)

/-- Passes over the exponent of a number; tells whether there is one. -/
def exponent? : List Char → Option (Bool × List Char)
  | c :: cs =>
    if c = 'e' ∨ c = 'E' then
      let cs :=
        match cs with
        | '+' :: cs | '-' :: cs => cs
        | cs => cs
      (digits? cs).map fun (_, cs) => (true, cs)
    else some (false, c :: cs)
  | [] => some (false, [])

/-- A number without a sign. A leading zero stands alone. -/
def unsigned? (cs : List Char) : Option (Option Nat × List Char) := do
  let (ds, cs) ←
    match cs with
    | '0' :: cs => some (['0'], cs)
    | cs => digits? cs
  let (broken, cs) ← fraction? cs
  let (scaled, cs) ← exponent? cs
  return (if broken || scaled then none else some (digitsValue ds), cs)

/-- A number. -/
def number? : List Char → Option (Option Nat × List Char)
  | '-' :: cs => (unsigned? cs).map fun (_, cs) => (none, cs)
  | cs => unsigned? cs

/-! ## Strings -/

/-- What a string is spelt with: characters, and units written by number. -/
inductive Piece where
  | char (c : Char)
  | unit (u : Unit16)

/-- The characters of pieces, if their units pair up. -/
def charsOf? : List Piece → Option (List Char)
  | [] => some []
  | .char c :: rest => (charsOf? rest).map (c :: ·)
  | [.unit u] => if u.isHigh || u.isLow then none else some [Unit16.single u]
  | .unit u :: .unit v :: rest =>
    if u.isHigh && v.isLow then (charsOf? rest).map (Unit16.pair u v :: ·)
    else if u.isHigh || u.isLow then none
    else (charsOf? (.unit v :: rest)).map (Unit16.single u :: ·)
  | .unit u :: .char c :: rest =>
    if u.isHigh || u.isLow then none
    else (charsOf? rest).map fun cs => Unit16.single u :: c :: cs

def hexDigit? (c : Char) : Option Nat :=
  if '0' ≤ c ∧ c ≤ '9' then some (c.toNat - 0x30)
  else if 'a' ≤ c ∧ c ≤ 'f' then some (c.toNat - 0x61 + 10)
  else if 'A' ≤ c ∧ c ≤ 'F' then some (c.toNat - 0x41 + 10)
  else none

/-- The character of an escape with a letter. -/
def letterEscape? : Char → Option Char
  | '"' => some '"'
  | '\\' => some '\\'
  | '/' => some '/'
  | 'b' => some '\x08'
  | 'f' => some '\x0c'
  | 'n' => some '\n'
  | 'r' => some '\r'
  | 't' => some '\t'
  | _ => none

/-- The pieces of a string from behind its opening quote on, and what follows its closing quote;
pieces read already are listed backwards. -/
def pieces? (done : List Piece) : List Char → Option (List Piece × List Char)
  | [] => none
  | '"' :: cs => some (done.reverse, cs)
  | '\\' :: 'u' :: a :: b :: c :: d :: cs =>
    match hexDigit? a, hexDigit? b, hexDigit? c, hexDigit? d with
    | some a, some b, some c, some d =>
      pieces? (.unit (((a * 16 + b) * 16 + c) * 16 + d).toUInt16 :: done) cs
    | _, _, _, _ => none
  | '\\' :: e :: cs =>
    match letterEscape? e with
    | some c => pieces? (.char c :: done) cs
    | none => none
  | c :: cs => if c = '\\' ∨ c.toNat < 0x20 then none else pieces? (.char c :: done) cs

/-- A string from behind its opening quote on. -/
def string? (cs : List Char) : Option (Option String × List Char) :=
  (pieces? [] cs).map fun (ps, cs) => ((charsOf? ps).map String.ofList, cs)

/-! ## Tokens -/

def isSpace (c : Char) : Bool := c == ' ' || c == '\t' || c == '\n' || c == '\r'

/-- The word at the front of a text, if it is the given one. -/
def word? (word : List Char) (t : Token) (cs : List Char) : Option (Token × List Char) :=
  if word.isPrefixOf cs then some (t, cs.drop word.length) else none

/-- The token at the front of a text that begins with no white space. -/
def token? : List Char → Option (Token × List Char)
  | '\x7b' :: cs => some (.openBrace, cs)
  | '\x7d' :: cs => some (.closeBrace, cs)
  | '[' :: cs => some (.openBracket, cs)
  | ']' :: cs => some (.closeBracket, cs)
  | ':' :: cs => some (.colon, cs)
  | ',' :: cs => some (.comma, cs)
  | '"' :: cs => (string? cs).map fun (s, cs) => (.string s, cs)
  | 'n' :: cs => word? ['u', 'l', 'l'] .null cs
  | 't' :: cs => word? ['r', 'u', 'e'] (.bool true) cs
  | 'f' :: cs => word? ['a', 'l', 's', 'e'] (.bool false) cs
  | cs => (number? cs).map fun (n, cs) => (.number n, cs)

/-- The tokens of a text; those read already are listed backwards. -/
def tokensOnto (done : List Token) : Nat → List Char → Option (List Token)
  | _, [] => some done.reverse
  | 0, _ => none
  | fuel + 1, c :: cs =>
    if isSpace c then tokensOnto done fuel cs
    else
      match token? (c :: cs) with
      | some (t, cs) => tokensOnto (t :: done) fuel cs
      | none => none

/-- The tokens of a text. Each takes at least one character. -/
def tokens? (text : String) : Option (List Token) := tokensOnto [] text.length text.toList

end Leftmost.Json
