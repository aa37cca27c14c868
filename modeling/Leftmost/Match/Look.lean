import Leftmost.Pattern.Tree
import Leftmost.Text.Utf8
import Leftmost.Unicode.Word

/-!
# Leftmost.Match.Look

When a zero-width condition holds at a position of the text. The text may be any bytes: what does
not decode is no word character, and the condition "no word edge" does not hold beside it, so that
no match can split a character there.
-/

namespace Leftmost

open Utf8

namespace WordEdge

/-- Whether a character counts as part of a word. -/
def inWord (ascii : Bool) (c : Char) : Bool :=
  if ascii then Unicode.asciiWord.contains c.toNat else Unicode.isWord c.toNat

/-- The character before a position; in ASCII mode each byte is one. -/
def before (ascii : Bool) (h : ByteArray) (p : Nat) : Option Char :=
  if ascii then if p = 0 then none else some (Char.ofNat (byteAt h (p - 1)).toNat)
  else charBefore h p

/-- The character after a position; in ASCII mode each byte is one. -/
def after (ascii : Bool) (h : ByteArray) (p : Nat) : Option Char :=
  if ascii then if p < h.size then some (Char.ofNat (byteAt h p).toNat) else none
  else charAt h p

/-- Whether a word edge of the given kind is at position `p`. -/
def holds (place : WordEdge) (ascii : Bool) (h : ByteArray) (p : Nat) : Bool :=
  let b := before ascii h p
  let a := after ascii h p
  let wordBefore := b.any (inWord ascii)
  let wordAfter := a.any (inWord ascii)
  let splitBefore := 0 < p && b.isNone
  let splitAfter := p < h.size && a.isNone
  match place with
  | edge => wordBefore != wordAfter
  | inside => !splitBefore && !splitAfter && wordBefore == wordAfter
  | start => !wordBefore && wordAfter
  | stop => wordBefore && !wordAfter
  | startHalf => !splitBefore && !wordBefore
  | stopHalf => !splitAfter && !wordAfter

end WordEdge

namespace Look

def lineFeed : UInt8 := 0x0a

def carriageReturn : UInt8 := 0x0d

/-- Whether the condition holds at position `p`. -/
def holds (l : Look) (h : ByteArray) (p : Nat) : Bool :=
  match l with
  | textStart => p == 0
  | textEnd => p == h.size
  | lineStart false => p == 0 || byteAt h (p - 1) == lineFeed
  | lineEnd false => p == h.size || byteAt h p == lineFeed
  | lineStart true =>
    p == 0 || byteAt h (p - 1) == lineFeed ||
      (byteAt h (p - 1) == carriageReturn && (p == h.size || byteAt h p != lineFeed))
  | lineEnd true =>
    p == h.size || byteAt h p == carriageReturn ||
      (byteAt h p == lineFeed && (p == 0 || byteAt h (p - 1) != carriageReturn))
  | word place ascii => place.holds ascii h p

end Look

end Leftmost
