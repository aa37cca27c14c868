import Leftmost.Proofs.Compiled

/-!
# Leftmost.Proofs.Compiled.Context

What a search sees of the bytes behind its range.  They are no context for it: the text ends where
the range ends, so that a pattern which would go on behind it matches less there, or not at all:

* `search_eq_search_textTo` — a search is one of the text that ends where its range ends;
* `run_anyBytes` — a pattern that takes all bytes it sees goes to the end of the text;
* `keepsContext_iff` — hence a match of the whole text, even one that begins in the range, is found
  from the range only if no byte lies behind it;
* `loses_context` — a match that is lost.
-/

namespace Leftmost

namespace Compiled

/-- Matches of a text that begin in a range of it are found from that range, for all patterns that
compile under any settings. -/
def KeepsContext (h : ByteArray) (start stop : Nat) : Prop :=
  ∀ s source p, (Compiler.ofSettings s).compile source = .ok p →
    ∀ r, p.search h start h.size = .ok (some r) →
      start ≤ (r.first 0).toNat → (r.first 0).toNat < stop → p.search h start stop = .ok (some r)

/-- A search is one of the text that ends where its range ends. -/
theorem search_eq_search_textTo (p : Compiled) (h : ByteArray) (start stop : Nat) :
    p.search h start stop = p.search (textTo h stop) start (textTo h stop).size := by
  unfold search
  rw [cut_eq_textTo, cut_size]

/-! ## A pattern that takes all bytes -/

section AnyBytes

open Automaton

/-- One group around a loop over single bytes. -/
def anyBytesAutomaton : Automaton :=
  ⟨#[.accept, .mark 1 0, .fork 3 1, .byte ⟨#[(0, 255)]⟩ 2, .mark 0 2], 4⟩

/-- The pattern that takes as many bytes as it can get. -/
def anyBytes : Compiled where
  source := "(?s-u).*"
  engine := .standard
  finder := .ofMatcher (.automaton anyBytesAutomaton .bytes 1)
  backtrackLimit := 1000000

/-- The reading of a text is a loop over any bytes. -/
def readsAnyBytes : Except Refusal Tree → Bool
  | .ok (.loop lo none true (.byte s)) => decide (lo = 0 ∧ s = ⟨#[(0, 255)]⟩)
  | _ => false

theorem eq_of_readsAnyBytes {t : Except Refusal Tree} (h : readsAnyBytes t = true) :
    t = .ok (.loop 0 none true (.byte ⟨#[(0, 255)]⟩)) := by
  unfold readsAnyBytes at h
  split at h
  · obtain ⟨rfl, rfl⟩ := of_decide_eq_true h
    rfl
  · cases h

theorem read_anyBytes :
    Plain.read "(?s-u).*" = .ok (.loop 0 none true (.byte ⟨#[(0, 255)]⟩)) :=
  eq_of_readsAnyBytes (by decide +kernel)

theorem compile_anyBytes :
    (Compiler.ofSettings { engine := .standard }).compile "(?s-u).*" = .ok anyBytes := by
  have hfits : (Tree.loop 0 none true (.byte ⟨#[(0, 255)]⟩)).normal.fits 10485760 = true := by
    decide +kernel
  have hmatcher : Matcher.ofPlain 10485760 "(?s-u).*" =
      .ok (.automaton anyBytesAutomaton .bytes 1) := by
    rw [Matcher.ofPlain, read_anyBytes]
    simp only [hfits, if_true]
    rfl
  have hfinder : Engines.builtIn.finder .standard 10485760 "(?s-u).*" =
      .ok (.ofMatcher (.automaton anyBytesAutomaton .bytes 1)) := by
    rw [Engines.finder_builtIn, Engines.matcher, hmatcher]
    rfl
  exact Compiler.compile_ofSettings_eq_ok_iff.mpr ⟨hfinder, rfl, rfl, rfl⟩

/-- What it runs on. -/
def anyBytesCourse (text : ByteArray) : Course where
  automaton := anyBytesAutomaton
  text := text

theorem contains_anyByte (b : UInt8) : RangeSet.contains ⟨#[(0, 255)]⟩ b.toNat = true := by
  have hb := b.toNat_lt
  have hle : ¬255 < b.toNat := by omega
  simp [RangeSet.contains, RangeSet.search, hle]

variable (text : ByteArray)

@[simp]
theorem step_anyBytesCourse (p : Nat) : (anyBytesCourse text).direction.step p = p + 1 := rfl

/-- At each position the loop takes the next byte if there is one, and could end there. -/
theorem follow_anyBytes {p q : Nat} (hq : q ≤ p) (fuel first x : Nat)
    (found : Option (Nat × Slots)) :
    follow (anyBytesCourse text) p (fuel + 4) [(2, #[some first, none])]
      ⟨#[q, q, q, q, x], #[], found⟩ =
    (true, ⟨#[p + 1, p + 1, p + 1, p + 1, x],
      if p < text.size then #[⟨2, 0, #[some first, none]⟩] else #[],
      some (p, #[some first, some p])⟩) := by
  -- No node was seen at `p` before.
  have hne : q ≠ p + 1 := by omega
  by_cases hlt : p < text.size
  · simp [follow, anyBytesCourse, anyBytesAutomaton, Direction.byte?, hlt, hne, contains_anyByte,
      Course.mayEnd]
  · simp [follow, anyBytesCourse, anyBytesAutomaton, Direction.byte?, hlt, hne, Course.mayEnd]

theorem arrive_anyBytes {p q : Nat} (hq : q ≤ p) (first x : Nat)
    (found : Option (Nat × Slots)) :
    arrive (anyBytesCourse text) p [⟨2, 0, #[some first, none]⟩]
      ⟨#[q, q, q, q, x], #[], found⟩ =
    (true, ⟨#[p + 1, p + 1, p + 1, p + 1, x],
      if p < text.size then #[⟨2, 0, #[some first, none]⟩] else #[],
      some (p, #[some first, some p])⟩) := by
  have hfollow : follow (anyBytesCourse text) p (anyBytesCourse text).fuel
      [(2, #[some first, none])] ⟨#[q, q, q, q, x], #[], found⟩ = _ :=
    follow_anyBytes text hq 8 first x found
  simp only [arrive, hfollow]

/-- Once begun, the loop goes on to the end of the text; the induction is on what is left of it. -/
theorem passFrom_anyBytes (blank : Slots) (first : Nat) {k p q : Nat}
    (hk : p + k = text.size) (hq : q ≤ p) (x : Nat) (found : Nat × Slots) :
    (passFrom (anyBytesCourse text) .bytes blank first (k + 1) p #[⟨2, 0, #[some first, none]⟩]
      ⟨#[q, q, q, q, x], #[], some found⟩).found =
        some (text.size, #[some first, some text.size]) := by
  induction k generalizing p q found with
  | zero =>
      obtain rfl : p = text.size := hk
      simp [passFrom, arrive_anyBytes text hq]
  | succ k ih =>
      have hlt : p < text.size := by omega
      have hrest := ih (p := p + 1) (by omega) (Nat.le_refl _) (p, #[some first, some p])
      rw [passFrom]
      simpa [arrive_anyBytes text hq, hlt] using hrest

/-- It begins where the pass begins. -/
theorem follow_entry_anyBytes (p : Nat) :
    follow (anyBytesCourse text) p (anyBytesCourse text).fuel [(4, #[none, none])]
      ⟨#[0, 0, 0, 0, 0], #[], none⟩ =
    (true, ⟨#[p + 1, p + 1, p + 1, p + 1, p + 1],
      if p < text.size then #[⟨2, 0, #[some p, none]⟩] else #[],
      some (p, #[some p, some p])⟩) := by
  rw [← follow_anyBytes text (Nat.zero_le p) 7 p (p + 1) none,
    show (anyBytesCourse text).fuel = 7 + 4 + 1 from rfl, follow]
  simp [anyBytesCourse, anyBytesAutomaton]

/-- The pattern takes all bytes from the start to the end of the text. -/
theorem run_anyBytes {start : Nat} (hstart : start ≤ text.size) :
    (anyBytesCourse text).run start 2 .bytes =
      some (text.size, #[some start, some text.size]) := by
  obtain ⟨k, hk⟩ : ∃ k, start + k = text.size := ⟨text.size - start, by omega⟩
  have hlength : (anyBytesCourse text).length start = k + 1 := by
    show text.size + 1 - start = k + 1
    omega
  have hblank : Array.replicate 2 (none : Option Nat) = #[none, none] := rfl
  have hseen : Array.replicate (anyBytesCourse text).automaton.nodes.size 0 =
      #[0, 0, 0, 0, 0] := rfl
  have hentry : (anyBytesCourse text).automaton.entry = 4 := rfl
  rw [Course.run, hlength, passFrom, hblank, hseen, hentry]
  simp only [arrive, follow_entry_anyBytes]
  cases k with
  | zero =>
      rw [Nat.add_zero] at hk
      simp [Starts.allows, hk]
  | succ k =>
      have hlt : start < text.size := by omega
      have hrest := passFrom_anyBytes text #[none, none] start (k := k) (p := start + 1)
        (by omega) (Nat.le_refl _) (start + 1) (start, #[some start, some start])
      simpa [Starts.allows, hlt] using hrest

theorem search_anyBytes {start : Nat} (hstart : start ≤ text.size) :
    anyBytes.search text start text.size =
      .ok (some ⟨#[(start.toUInt64, text.size.toUInt64)]⟩) := by
  have hown : anyBytes.own text start = .ok (some [some (start, text.size)]) := by
    show Except.ok (((anyBytesCourse text).run start 2 .bytes).map _) = _
    rw [run_anyBytes text hstart]
    rfl
  rw [search_of_standard rfl, Nat.min_eq_left hstart, hown]
  rfl

end AnyBytes

/-! ## Ranges that end before the text -/

/-- Matches are found from a range exactly if it is empty or no byte lies behind it. -/
theorem keepsContext_iff {h : ByteArray} (hsize : h.size < UInt64.size) {start stop : Nat}
    (hstart : start ≤ stop) (hstop : stop ≤ h.size) :
    KeepsContext h start stop ↔ start = stop ∨ stop = h.size := by
  constructor
  · intro hkeeps
    by_contra hnot
    have hend : (textTo h stop).size = stop := by
      rw [size_textTo, rangeEnd, Nat.min_eq_left hstop]
    -- The pattern begins at `start` and ends with the text, here and there.
    have hwhole := search_anyBytes h (Nat.le_trans hstart hstop)
    have hshort := search_anyBytes (textTo h stop) (hstart.trans (Nat.le_of_eq hend.symm))
    rw [← search_eq_search_textTo, hend] at hshort
    have hfirst : start.toUInt64.toNat = start := UInt64.toNat_ofNat_of_lt' (by omega)
    have hsame := hkeeps _ _ anyBytes compile_anyBytes _ hwhole (Nat.le_of_eq hfirst.symm)
      (show start.toUInt64.toNat < stop by omega)
    have hlast : stop.toUInt64 = h.size.toUInt64 := by
      simpa using hshort.symm.trans hsame
    have hlastNat := congrArg UInt64.toNat hlast
    rw [show stop.toUInt64.toNat = stop from UInt64.toNat_ofNat_of_lt' (by omega),
      show h.size.toUInt64.toNat = h.size from UInt64.toNat_ofNat_of_lt' hsize] at hlastNat
    exact hnot (.inr hlastNat)
  · rintro (rfl | rfl) s source p - r hr hle hlt
    · omega
    · exact hr

/-- With a byte behind the range, and without. -/
theorem keepsContext_iff_ab :
    ¬KeepsContext "ab".toUTF8 0 1 ∧ KeepsContext "ab".toUTF8 0 2 := by
  have hsize : "ab".toUTF8.size < UInt64.size := by decide
  refine ⟨fun hkeeps => ?_, (keepsContext_iff hsize (by decide) (by decide)).mpr (.inr rfl)⟩
  exact absurd ((keepsContext_iff hsize (by decide) (by decide)).mp hkeeps) (by decide)

/-- The pattern of two characters, as the backtracking engine compiles it. -/
def twoChars : Compiled where
  source := "ab"
  engine := .backtracking
  finder := .ofMatcher
    (.automaton ⟨#[.accept, .mark 1 0, .unit 98 1, .unit 97 2, .mark 0 3], 4⟩ .characters 1)
  backtrackLimit := 1000000

/-- It matches the whole text, but not from a range that ends inside the match. -/
theorem loses_context : (Compiler.ofSettings {}).compile "ab" = .ok twoChars ∧
    twoChars.search "ab".toUTF8 0 "ab".toUTF8.size = .ok (some ⟨#[(0, 2)]⟩) ∧
    twoChars.search "ab".toUTF8 0 1 = .ok none := by
  refine ⟨?_, by decide +kernel, by decide +kernel⟩
  with_unfolding_all rfl

end Compiled

end Leftmost
