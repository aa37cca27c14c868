import Leftmost.Pattern.Normal

/-!
# Leftmost.Pattern.Texts

The texts that matches of a pattern begin with. Where they are the whole matches, and few enough to
be looked for directly, the pattern needs no automaton.

Texts are listed in order of preference. Long texts are cut, and long lists are given up; a text that
was cut is no longer whole.
-/

namespace Leftmost

/-- What a match begins with; `whole` tells that nothing follows. -/
structure Opening where
  bytes : List UInt8
  whole : Bool := true
deriving DecidableEq, Repr

/-- What all matches begin with, the preferred first; `none` if that is unknown. -/
abbrev Openings := Option (List Opening)

namespace Opening

def unfinished (o : Opening) : Opening := { o with whole := false }

/-- Keeps at most `n` bytes. -/
def cut (n : Nat) (o : Opening) : Opening :=
  if o.bytes.length ≤ n then o else ⟨o.bytes.take n, false⟩

/-- One opening behind another. -/
def followedBy (a b : Opening) : Opening := ⟨a.bytes ++ b.bytes, b.whole⟩

/-- Joins equal neighbours; they are whole if all of them are. -/
def dedup : List Opening → List Opening
  | [] => []
  | a :: rest =>
    match dedup rest with
    | b :: rest => if a.bytes = b.bytes then ⟨a.bytes, a.whole && b.whole⟩ :: rest else a :: b :: rest
    | [] => [a]

/-- Drops each opening that begins with one listed before it: the other is preferred wherever both
match. -/
def minimize (os : List Opening) : List Opening :=
  (os.foldl (fun kept o =>
    if kept.any fun k => k.bytes.isPrefixOf o.bytes then kept else o :: kept) []).reverse

/-- What two texts have in common at their front. -/
def commonBytes : List UInt8 → List UInt8 → List UInt8
  | a :: as, b :: bs => if a = b then a :: commonBytes as bs else []
  | _, _ => []

/-- What all openings have in common at their front. -/
def commonFront : List Opening → List UInt8
  | [] => []
  | o :: os => os.foldl (fun front o => commonBytes front o.bytes) o.bytes

def shortest (os : List Opening) : Option Nat := (os.map (·.bytes.length)).min?

def allWhole (os : List Opening) : Bool := os.all (·.whole)

end Opening

namespace Openings

open Opening

/-- How many openings are listed at most. -/
def maxCount : Nat := 250

/-- How many bytes of an opening are kept at most. -/
def maxLength : Nat := 100

/-- How large a set may be to be listed. -/
def maxSet : Nat := 10

/-- How many rounds of a repetition are written out at most. -/
def maxRounds : Nat := 10

/-- The opening that says nothing. -/
def blank : Openings := some [⟨[], true⟩]

/-- Whether nothing can be added to any opening. -/
def isClosed (o : Openings) : Bool := o.all fun os => os.all fun o => !o.whole

def unfinished (o : Openings) : Openings := o.map (·.map Opening.unfinished)

/-- What sequences begin with, given what their two parts begin with. -/
def cross (a b : Openings) : Openings :=
  match a, b with
  | none, _ => none
  | some as, b =>
    match b.filter fun bs => as.length * bs.length ≤ maxCount with
    | none => if shortest as = some 0 then none else unfinished (some as)
    | some bs =>
      let all := as.flatMap fun a => if a.whole then bs.map a.followedBy else [a]
      some ((Opening.dedup all).map (Opening.cut maxLength))

/-- What choices begin with. Too long a list is first tried with shorter openings. -/
def union (a b : Openings) : Openings :=
  match a, b with
  | some as, some bs =>
    if as.length + bs.length ≤ maxCount then some (Opening.dedup (as ++ bs))
    else
      let as := Opening.dedup (as.map (Opening.cut 4))
      let bs := Opening.dedup (bs.map (Opening.cut 4))
      if as.length + bs.length ≤ maxCount then some (Opening.dedup (as ++ bs)) else none
  | _, _ => none

/-- The members of a small set. -/
def members (s : RangeSet) (encode : Nat → List UInt8) : Openings :=
  if maxSet < s.size then none
  else some (s.toList.flatMap fun (a, b) =>
    (List.range' a (b + 1 - a)).map fun n => ⟨encode n, true⟩)

/-- What `n` rounds begin with, of which only the first `maxRounds` are written out. -/
def rounds (o : Openings) : Nat → Openings → Openings
  | 0, done => done
  | n + 1, done => if done.isClosed then done else rounds o n (done.cross o)

/-- What a repetition begins with. -/
def repeated (lo : Nat) (hi : Option Nat) (greedy : Bool) (o : Openings) : Openings :=
  if lo = 0 then
    let o := if hi = some 1 then o else o.unfinished
    if greedy then o.union blank else blank.union o
  else
    let first := rounds o (min lo maxRounds) blank
    if hi = some lo ∧ lo ≤ maxRounds then first else first.unfinished

/-! ## Choosing what to look for -/

/-- How many openings, cut to how many bytes, are preferred to more of them. -/
def cuts : List (Nat × Nat) := [(5, 10), (4, 10), (3, 64), (2, 64), (1, 10)]

/-- Cuts openings while they are too many. -/
def trim (os : List Opening) : List Opening :=
  cuts.foldl (fun (os, going) (keep, limit) =>
    if going && limit < os.length then (minimize (os.map (Opening.cut keep)), true)
    else (os, false)) (os, true) |>.1

/-- Bytes that are frequent in text: letters but a few, digits but a few, common punctuation, line ends
and what begins a character of several bytes. A search for any other single byte is fast. -/
def frequentBytes : RangeSet := .ofList [
  (0x0a, 0x0a), (0x0d, 0x0d), (0x20, 0x20), (0x28, 0x29), (0x2c, 0x32), (0x39, 0x3a), (0x5f, 0x5f),
  (0x61, 0x69), (0x6c, 0x70), (0x72, 0x76), (0x78, 0x79), (0x7c, 0x7c), (0x80, 0x84), (0x90, 0x90),
  (0xb1, 0xb1), (0xb5, 0xb7), (0xb9, 0xbd), (0xbf, 0xff)]

/-- Whether openings, once chosen for the fastest search, are still the whole matches. -/
def stayWhole (os : List Opening) : Bool :=
  if shortest os = some 0 then false
  else
    let least := minimize os
    let front := commonFront least
    let common := front.length
    let rare := front.head?.any fun b => !frequentBytes.contains b.toNat
    if 1 < os.length && common ≤ 3 && rare then
      allWhole (least.map (Opening.cut 1))
    else
      let handy := allWhole least && least.length ≤ 16
      let kept :=
        if 4 < common || (1 < common && !handy) then
          Opening.dedup (least.map (Opening.cut common))
        else least
      let short := trim kept
      allWhole kept &&
        (allWhole short || (shortest short).all (· ≤ 2) || 64 < short.length)

end Openings

namespace Normal

open Openings

mutual

/-- What matches of the pattern begin with. -/
def openings : Normal → Openings
  | text bytes => some [Opening.cut maxLength ⟨bytes, true⟩]
  | look _ => blank
  | set s => members s fun n => String.utf8EncodeChar (Char.ofNat n)
  | byte s => members s fun n => [n.toUInt8]
  | group _ t => t.openings
  | seq ts => openingsOfSeq blank ts
  | choice ts => openingsOfChoice (some []) ts
  | loop lo hi greedy t => t.openings.repeated lo hi greedy

def openingsOfSeq : Openings → List Normal → Openings
  | done, [] => done
  | done, t :: ts => if done.isClosed then done else openingsOfSeq (done.cross t.openings) ts

def openingsOfChoice : Openings → List Normal → Openings
  | done, [] => done
  | done, t :: ts => if done.isNone then none else openingsOfChoice (done.union t.openings) ts

end

mutual

/-- Whether the pattern has neither groups nor conditions. -/
def isBare : Normal → Bool
  | text _ | set _ | byte _ => true
  | look _ | group .. => false
  | loop _ _ _ t => t.isBare
  | seq ts | choice ts => allBare ts

def allBare : List Normal → Bool
  | [] => true
  | t :: ts => t.isBare && allBare ts

end

/-- Whether a pattern is one text that is not empty. -/
def isText : Normal → Bool
  | text bytes => !bytes.isEmpty
  | _ => false

/-- How many alternatives that are texts are looked for directly, whatever they begin with. -/
def manyTexts : Nat := 3000

/-- Whether the pattern stands for fixed texts that are looked for directly. -/
def isTexts (t : Normal) : Bool :=
  t.isBare &&
    (t.openings.any (fun os => !os.isEmpty && stayWhole os) ||
      (manyTexts ≤ t.alternatives.length && t.alternatives.all isText))

end Normal

end Leftmost
