import Leftmost.Match.Groups
import Leftmost.Engine

/-!
# Leftmost.Match.Finder

What is asked of engines. An engine makes a finder of the text of a pattern, and a finder is asked
for the leftmost match from a position on. Whatever uses engines sees no more of them than this: how
many groups a match has, that group 0 is one of them, and that the standard engine always has an
answer.

The engines that are built in make their finders from matchers.
-/

namespace Leftmost

/-- Something that finds the matches of a pattern. -/
structure Finder where
  /-- Number of groups every match reports, group 0 included. -/
  groupCount : Nat
  /-- The groups of the leftmost match in a text from a position on. A search that backtracks goes
  back at most so many times. -/
  find : Nat → ByteArray → Nat → Except Plan.Overrun (Option (List Span))
  length_find : ∀ {limit h start spans}, find limit h start = .ok (some spans) →
    spans.length = groupCount

/-- The finder of a matcher. -/
def Finder.ofMatcher (m : Matcher) : Finder where
  groupCount := m.groupCount
  find := m.search
  length_find := Matcher.length_search

/-- The engines, each with the room that a pattern may take. -/
structure Engines where
  finder : Engine → Nat → String → Except Fault Finder
  groupCount_pos : ∀ {engine room text f}, finder engine room text = .ok f → 0 < f.groupCount
  /-- The standard engine does not backtrack. -/
  find_standard : ∀ {room text f}, finder .standard room text = .ok f →
    ∀ limit h start, ∃ found, f.find limit h start = .ok found

namespace Engines

/-- The matcher that an engine makes of a text. -/
def matcher (engine : Engine) (room : Nat) (text : String) : Except Fault Matcher :=
  match engine with
  | .standard => Matcher.ofPlain room text
  | .backtracking => Matcher.ofExtended room text

theorem groupCount_pos_of_matcher {engine : Engine} {room : Nat} {text : String} {m : Matcher}
    (h : matcher engine room text = .ok m) : 0 < m.groupCount := by
  cases engine with
  | standard => exact Matcher.groupCount_pos_of_ofPlain h
  | backtracking => exact Matcher.groupCount_pos_of_ofExtended h

/-- The standard engine runs automata. -/
theorem search_of_ofPlain {room : Nat} {text : String} {m : Matcher}
    (h : Matcher.ofPlain room text = .ok m) (limit : Nat) (b : ByteArray) (start : Nat) :
    ∃ found, m.search limit b start = .ok found := by
  unfold Matcher.ofPlain at h
  split at h
  · cases h
  · split at h
    · cases h
      exact ⟨_, rfl⟩
    · cases h

theorem exists_matcher {engine : Engine} {room : Nat} {text : String} {f : Finder}
    (h : (matcher engine room text).map Finder.ofMatcher = .ok f) :
    ∃ m, matcher engine room text = .ok m ∧ f = .ofMatcher m := by
  cases hm : matcher engine room text with
  | error fault =>
      rw [hm] at h
      cases h
  | ok m =>
      rw [hm] at h
      exact ⟨m, rfl, (Except.ok.inj h).symm⟩

/-- The engines that are built in. -/
def builtIn : Engines where
  finder engine room text := (matcher engine room text).map .ofMatcher
  groupCount_pos h := by
    obtain ⟨m, hm, rfl⟩ := exists_matcher h
    exact groupCount_pos_of_matcher hm
  find_standard h limit b start := by
    obtain ⟨m, hm, rfl⟩ := exists_matcher h
    exact search_of_ofPlain hm limit b start

theorem finder_builtIn (engine : Engine) (room : Nat) (text : String) :
    builtIn.finder engine room text = (matcher engine room text).map .ofMatcher := rfl

end Engines

end Leftmost
