/-!
# Leftmost.Text.Utf8

Reading UTF-8 out of a byte array: the character at a position, the character before it, whether a
position lies between characters, and where and how a byte array fails to be UTF-8.

A flaw names the length of the longest valid prefix and the length of the ill-formed part that
follows it. That part is the longest start of some character's encoding that the bytes there spell,
and at least one byte; where the bytes simply end too early the text is incomplete and no length is
given.
-/

namespace Leftmost.Utf8

/-! ## Characters at a position -/

/-- The character that begins at `p`, if the bytes there encode one. -/
def charAt (b : ByteArray) (p : Nat) : Option Char := b.utf8DecodeChar? p

def byteAt (b : ByteArray) (p : Nat) : UInt8 := if h : p < b.size then b[p] else 0

/-- A continuation byte, which only ever follows another byte of its character. -/
def isContinuation (x : UInt8) : Bool := x &&& 0xc0 == 0x80

/-- Steps back from `p` over continuation bytes, at most `n` of them. -/
def backOver (b : ByteArray) : Nat → Nat → Nat
  | 0, p => p
  | _, 0 => 0
  | n + 1, p + 1 => if isContinuation (byteAt b (p + 1)) then backOver b n p else p + 1

/-- The character that begins at the last byte before `p` that is no continuation, looking back at
most four bytes, if it ends by `p`. -/
def charBefore (b : ByteArray) (p : Nat) : Option Char :=
  if p = 0 then none
  else
    let start := backOver b 3 (p - 1)
    match charAt b start with
    | some c => if start + c.utf8Size ≤ p then some c else none
    | none => none

/-- Whether `p` lies between two characters, at the start or at the end. -/
def isBoundary (b : ByteArray) (p : Nat) : Bool :=
  p == 0 || p == b.size || (p < b.size && !isContinuation (byteAt b p))

/-- The first position at or after `p` that lies between two characters. -/
def nextBoundary (b : ByteArray) (p : Nat) : Nat :=
  if p < b.size && !isBoundary b p then nextBoundary b (p + 1) else p
termination_by b.size - p
decreasing_by simp_all; omega

theorem le_nextBoundary (b : ByteArray) (p : Nat) : p ≤ nextBoundary b p := by
  fun_induction nextBoundary b p with
  | case1 p _ ih => omega
  | case2 => omega

theorem nextBoundary_le {b : ByteArray} {p : Nat} (h : p ≤ b.size) : nextBoundary b p ≤ b.size := by
  fun_induction nextBoundary b p with
  | case1 p hp ih =>
    simp only [Bool.and_eq_true, decide_eq_true_eq] at hp
    exact ih hp.1
  | case2 => exact h

theorem isBoundary_nextBoundary {b : ByteArray} {p : Nat} (h : p ≤ b.size) :
    isBoundary b (nextBoundary b p) = true := by
  fun_induction nextBoundary b p with
  | case1 p hp ih =>
    simp only [Bool.and_eq_true, decide_eq_true_eq] at hp
    exact ih hp.1
  | case2 p hp =>
    by_cases he : p = b.size
    · simp [isBoundary, he]
    · simpa [show p < b.size by omega] using hp

/-- The start of the character that ends at `p`. -/
def previousBoundary (b : ByteArray) (p : Nat) : Nat := backOver b 3 (p - 1)

/-! ## Flaws -/

/-- How a byte array fails to be UTF-8. -/
structure Flaw where
  /-- Length of the longest prefix that is UTF-8. -/
  validLength : Nat
  /-- Length of the ill-formed part, or `none` where the bytes end inside a character. -/
  badLength : Option Nat
deriving DecidableEq, Repr

/-- The values that the second byte of a character may take, by its first byte. -/
def secondByte (first : UInt8) : Option (UInt8 × UInt8) :=
  if first < 0xc2 then none
  else if first = 0xe0 then some (0xa0, 0xbf)
  else if first = 0xed then some (0x80, 0x9f)
  else if first < 0xf0 then some (0x80, 0xbf)
  else if first = 0xf0 then some (0x90, 0xbf)
  else if first < 0xf4 then some (0x80, 0xbf)
  else if first = 0xf4 then some (0x80, 0x8f)
  else none

/-- How many continuation bytes follow a first byte. -/
def following (first : UInt8) : Nat := if first < 0xe0 then 1 else if first < 0xf0 then 2 else 3

/-- Counts the good bytes of the character at `p` from its `k`-th on, given that `left` more are
wanted; stops at the first bad one or at the end. -/
def badRun (b : ByteArray) (p : Nat) (k : Nat) : Nat → Option Nat
  | 0 => some k
  | left + 1 =>
    if p + k < b.size then
      if isContinuation (byteAt b (p + k)) then badRun b p (k + 1) left else some k
    else none

/-- What is wrong with the bytes at `p`, where no character begins. -/
def badLengthAt (b : ByteArray) (p : Nat) : Option Nat :=
  match secondByte (byteAt b p) with
  | none => some 1
  | some (low, high) =>
    if p + 1 < b.size then
      if low ≤ byteAt b (p + 1) ∧ byteAt b (p + 1) ≤ high then
        badRun b p 2 (following (byteAt b p) - 1)
      else some 1
    else none

/-- Walks over characters from `p` to the first place where none begins. -/
def flawFrom (b : ByteArray) : Nat → Nat → Flaw
  | 0, p => ⟨p, none⟩
  | fuel + 1, p =>
    match charAt b p with
    | some c => flawFrom b fuel (p + c.utf8Size)
    | none => ⟨p, badLengthAt b p⟩

/-- The flaw of a byte array that is not UTF-8. -/
def check (b : ByteArray) : Except Flaw Unit :=
  if b.validateUTF8 then .ok () else .error (flawFrom b (b.size + 1) 0)

/-- The wording of a flaw. -/
def Flaw.message (f : Flaw) : String :=
  match f.badLength with
  | some n => s!"invalid utf-8 sequence of {n} bytes from index {f.validLength}"
  | none => s!"incomplete utf-8 byte sequence from index {f.validLength}"

/-! ## Decoding whatever comes -/

/-- Decodes from `p` on; each ill-formed part becomes one U+FFFD. -/
def lossyFrom (b : ByteArray) : Nat → Nat → String → String
  | 0, _, done => done
  | fuel + 1, p, done =>
    if p < b.size then
      match charAt b p with
      | some c => lossyFrom b fuel (p + c.utf8Size) (done.push c)
      | none =>
        match badLengthAt b p with
        | some n => lossyFrom b fuel (p + n) (done.push '\ufffd')
        | none => done.push '\ufffd'
    else done

/-- The text of bytes that may fail to be UTF-8. -/
def decodeLossy (b : ByteArray) : String := lossyFrom b b.size 0 ""

end Leftmost.Utf8
