import Leftmost.Pattern.Property
import Leftmost.Pattern.Refusal
import Leftmost.Pattern.Tree

/-!
# Leftmost.Pattern.Plain.Reading

The text of a pattern while it is read: what is left of it and the flags in force. In spaced mode
white space and comments between the signs of a pattern mean nothing; a comment runs from `#` to the
end of its line.
-/

namespace Leftmost.Plain

/-- The flags in force. -/
structure Flags where
  caseless : Bool := false
  multiLine : Bool := false
  dotAll : Bool := false
  swapGreed : Bool := false
  unicode : Bool := true
  crlf : Bool := false
  spaced : Bool := false
deriving DecidableEq, Repr

/-- What is left to read, and how to read it. -/
structure State where
  rest : List Char
  flags : Flags

/-- Reading a part of a pattern. -/
abbrev Reading := StateT State (Except Refusal)

def flags : Reading Flags := return (← get).flags

def setFlags (f : Flags) : Reading Unit := modify fun s => { s with flags := f }

def rest : Reading (List Char) := return (← get).rest

def setRest (cs : List Char) : Reading Unit := modify fun s => { s with rest := cs }

/-- Drops white space and comments from the front; `comment` tells whether one has begun. -/
def dropSpace : Bool → List Char → List Char
  | _, [] => []
  | true, c :: cs => dropSpace (c != '\n') cs
  | false, c :: cs =>
    if Unicode.blank.contains c.toNat then dropSpace false cs
    else if c = '#' then dropSpace true cs
    else c :: cs

/-- Passes over what means nothing in spaced mode. -/
def skipSpace : Reading Unit :=
  modify fun s => if s.flags.spaced then { s with rest := dropSpace false s.rest } else s

/-- Passes over one character. -/
def bump : Reading Unit := modify fun s => { s with rest := s.rest.tail }

/-- Passes over one character and what means nothing behind it. -/
def bumpSpace : Reading Unit := do
  bump
  skipSpace

/-- The next character, or a refusal at the end. -/
def next (atEnd : Refusal) : Reading Char := do
  match ← rest with
  | c :: _ => return c
  | [] => throw atEnd

/-- Passes over a text if it comes next, and tells whether it does. -/
def take (text : String) : Reading Bool := do
  let cs ← rest
  if text.toList.isPrefixOf cs then
    setRest (cs.drop text.length)
    return true
  else return false

/-- Collects characters of a kind, passing over what means nothing behind each. -/
def collect (kind : Char → Bool) : Nat → Reading (List Char)
  | 0 => return []
  | fuel + 1 => do
    match ← rest with
    | c :: _ =>
      if kind c then
        bumpSpace
        return c :: (← collect kind fuel)
      else return []
    | [] => return []

/-- As many of the characters that come next as are of a kind. -/
def takeWhile (kind : Char → Bool) : Reading (List Char) := do
  collect kind ((← rest).length)

/-! ## Numbers -/

/-- The value of a digit in base sixteen. -/
def hexDigit? (c : Char) : Option Nat :=
  if '0' ≤ c ∧ c ≤ '9' then some (c.toNat - 0x30)
  else if 'a' ≤ c ∧ c ≤ 'f' then some (c.toNat - 0x61 + 10)
  else if 'A' ≤ c ∧ c ≤ 'F' then some (c.toNat - 0x41 + 10)
  else none

def isHex (c : Char) : Bool := (hexDigit? c).isSome

/-- The value of digits in base sixteen. -/
def hexValue (ds : List Char) : Nat := ds.foldl (fun n c => 16 * n + (hexDigit? c).getD 0) 0

/-- The value of decimal digits. -/
def decimalValue (ds : List Char) : Nat := ds.foldl (fun n c => 10 * n + (c.toNat - 0x30)) 0

def isDecimal (c : Char) : Bool := '0' ≤ c && c ≤ '9'

/-- The character of a code point that is one. -/
def charOf? (n : Nat) : Option Char :=
  if n < 0xd800 ∨ (0xdfff < n ∧ n < 0x110000) then some (Char.ofNat n) else none

/-- Numbers of repetitions have 32 bits. -/
def countLimit : Nat := UInt32.size

/-- A decimal number, or `none` if no digit comes; white space around it means nothing. -/
def decimal? : Reading (Option Nat) := do
  modify fun s => { s with rest := s.rest.dropWhile fun c => Unicode.blank.contains c.toNat }
  let ds ← takeWhile isDecimal
  let _ ← takeWhile fun c => Unicode.blank.contains c.toNat
  if ds.isEmpty then return none
  if decimalValue ds < countLimit then return some (decimalValue ds) else throw .badCount

end Leftmost.Plain
