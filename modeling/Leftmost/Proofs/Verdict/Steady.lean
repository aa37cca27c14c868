import Leftmost.Proofs.Registry.Run
import Leftmost.Proofs.Verdict

/-!
# Leftmost.Proofs.Verdict.Steady

The winner when a search is taken up again, from a later start that is not beyond its match.  Nothing
is asked of the searchers but that each of them, by itself, finds its own match again:

* `isBestOf_of_verdict` — the best of a pass without a failure begins before all the others;
* `outcomes_eq_of_le` — up to the earliest of the matches, all outcomes are as they were;
* `stays_select` — hence the winner stays the winner, and no match stays no match.
-/

namespace Leftmost

namespace Selection

/-- A searcher finds again from later starts what it finds from a start: a match from all starts up
to where it begins, and no match from all of them. -/
structure SteadyFrom (search : Searcher Id) (h : ByteArray) (start : Nat) : Prop where
  answers : ∀ f, search h start h.size ≠ .error f
  /-- A match reports group 0. -/
  grouped : ∀ r, search h start h.size = .ok (some r) → 0 < r.groupCount
  found : ∀ r, search h start h.size = .ok (some r) →
    ∀ later ≤ h.size, start ≤ later → later ≤ (r.first 0).toNat →
      search h later h.size = .ok (some r)
  missed : search h start h.size = .ok none →
    ∀ later ≤ h.size, start ≤ later → search h later h.size = .ok none

/-- A pass from a start on. -/
def passFrom (searchers : List (Searcher Id)) (h : ByteArray) (start : Nat) :
    Except ScanError Best :=
  (Id.run (select searchers (.ofStart h start))).value

/-- What a pass finds from later starts. -/
structure Stays (searchers : List (Searcher Id)) (h : ByteArray) (start : Nat) : Prop where
  /-- From all starts up to where the winner begins the same searcher wins with the same region. -/
  found : ∀ i r, passFrom searchers h start = .ok (some (i, r)) →
    ∀ later, start ≤ later → later ≤ (r.first 0).toNat →
      passFrom searchers h later = .ok (some (i, r))
  /-- Where nothing is found, nothing is found from later starts. -/
  missed : passFrom searchers h start = .ok none →
    ∀ later, start ≤ later → passFrom searchers h later = .ok none

/-- The best of a pass without a failure is the best of all outcomes. -/
theorem isBestOf_of_verdict {os : List Outcome} {best : Best} (h : verdict os = .ok best) :
    IsBestOf os best := by
  rcases verdict_spec os with ⟨i, f, -, hv⟩ | ⟨-, b, hv, hb⟩
  · cases hv.symm.trans h
  · obtain rfl : b = best := Except.ok.inj (hv.symm.trans h)
    exact hb

section

variable {searchers : List (Searcher Id)} {h : ByteArray} {start : Nat}

theorem passFrom_eq (hstart : start ≤ h.size) : passFrom searchers h start =
    verdict (searchers.map fun search => search h start h.size) := by
  rw [passFrom, select, value_selectFrom, outcomes]
  simp only [Window.ofStart, Window.stop, Nat.min_eq_left hstart, verdict]

/-- A start beyond the end is the end. -/
theorem passFrom_min (start : Nat) :
    passFrom searchers h (min start h.size) = passFrom searchers h start := by
  simp only [passFrom, Window.ofStart, Nat.min_assoc, Nat.min_self]

variable (hsteady : ∀ search ∈ searchers, SteadyFrom search h start)
include hsteady

/-- A region that some searcher finds is a candidate at its position. -/
theorem exists_isCandidate {search : Searcher Id} (hmem : search ∈ searchers) {r : Region}
    (hr : search h start h.size = .ok (some r)) :
    ∃ i, IsCandidate (searchers.map fun search => search h start h.size) i r := by
  obtain ⟨i, hi⟩ := List.getElem?_of_mem hmem
  refine ⟨i, ?_, (hsteady search hmem).grouped r hr⟩
  rw [List.getElem?_map, hi]
  exact congrArg some hr

/-- Up to the earliest match all searchers find what they found. -/
theorem outcomes_eq_of_le {later : Nat} (hle : start ≤ later) (hlater : later ≤ h.size)
    (hbefore : ∀ i r, IsCandidate (searchers.map fun search => search h start h.size) i r →
      later ≤ (r.first 0).toNat) :
    (searchers.map fun search => search h later h.size) =
      searchers.map fun search => search h start h.size := by
  refine List.map_congr_left fun search hmem => ?_
  have hs := hsteady search hmem
  cases ho : Id.run (search h start h.size) with
  | error f => exact absurd ho (hs.answers f)
  | ok found =>
      cases found with
      | none => exact (hs.missed ho later hlater hle).trans ho.symm
      | some r =>
          obtain ⟨i, hi⟩ := exists_isCandidate hsteady hmem ho
          exact (hs.found r ho later hlater hle (hbefore i r hi)).trans ho.symm

/-- From a start up to the earliest match a pass gives what it gave. -/
theorem passFrom_eq_of_le (hstart : start ≤ h.size) {later : Nat} (hle : start ≤ later)
    (hbefore : ∀ i r, IsCandidate (searchers.map fun search => search h start h.size) i r →
      later ≤ (r.first 0).toNat) :
    passFrom searchers h later = passFrom searchers h start := by
  have hclamped : start ≤ min later h.size := Nat.le_min.mpr ⟨hle, hstart⟩
  have hend : min later h.size ≤ h.size := Nat.min_le_right ..
  rw [← passFrom_min later, passFrom_eq hend, passFrom_eq hstart,
    outcomes_eq_of_le hsteady hclamped hend fun i r hr =>
      Nat.le_trans (Nat.min_le_left ..) (hbefore i r hr)]

/-- If all searchers find their matches again, the winner stays the winner up to where it begins, and
no match stays no match. -/
theorem stays_select (hstart : start ≤ h.size) : Stays searchers h start where
  found i r hpass later hle hlater := by
    have hbest : IsEarliest _ i r := isBestOf_of_verdict ((passFrom_eq hstart).symm.trans hpass)
    rw [passFrom_eq_of_le hsteady hstart hle fun j s hs => ?_, hpass]
    have hfirst := UInt64.le_iff_toNat_le.mp (hbest.2 j s hs).1
    exact Nat.le_trans hlater hfirst
  missed hpass later hle := by
    have hnone := isBestOf_of_verdict ((passFrom_eq hstart).symm.trans hpass)
    rw [passFrom_eq_of_le hsteady hstart hle fun j s hs => absurd hs (hnone j s), hpass]

end

/-- Patterns that search by themselves. -/
def ownSearchers (ps : List Compiled) : List (Searcher Id) :=
  ps.map fun p h start stop => pure (p.search h start stop)

/-- The letters b and a, with another in front. -/
def letters : ByteArray := ⟨#[0x78, 0x62, 0x61]⟩

/-- Where one of the two is. -/
def letterRegion (source : String) : Region := if source = "a" then ⟨#[(2, 3)]⟩ else ⟨#[(1, 2)]⟩

/-- Each is found from all starts up to where it is. -/
theorem search_letters : ∀ source ∈ ["a", "b"], ∀ p,
    (Compiler.ofSettings {}).compile source = .ok p →
      ∀ later ≤ ((letterRegion source).first 0).toNat,
        p.search letters later letters.size = .ok (some (letterRegion source)) := by
  have hall : ∀ source ∈ ["a", "b"], ∀ later ≤ ((letterRegion source).first 0).toNat,
      ((Compiler.ofSettings {}).compile source).toOption.bind
        (fun p => (p.search letters later letters.size).toOption) =
          some (some (letterRegion source)) := by decide +kernel
  intro source hsource p hp later hlater
  have h := hall source hsource later hlater
  rw [hp] at h
  exact eq_ok_of_toOption h

theorem steadyFrom_letters {source : String} (hsource : source ∈ ["a", "b"]) {p : Compiled}
    (hp : (Compiler.ofSettings {}).compile source = .ok p) :
    SteadyFrom (fun h start stop => pure (p.search h start stop)) letters 0 := by
  have hsearch := search_letters source hsource p hp
  have hzero := hsearch 0 (Nat.zero_le _)
  refine ⟨fun f hf => ?_, fun r hr => ?_, fun r hr later _ _ hlater => ?_, fun hnone => ?_⟩
  · cases hzero.symm.trans hf
  · obtain rfl : letterRegion source = r := by simpa using hzero.symm.trans hr
    unfold letterRegion
    split <;> decide
  · obtain rfl : letterRegion source = r := by simpa using hzero.symm.trans hr
    exact hsearch later hlater
  · cases hzero.symm.trans hnone

/-- The letter that comes first wins from the front on, and so it does from where it is on. -/
theorem stays_letters : ∃ a b, (Compiler.ofSettings {}).compile "a" = .ok a ∧
    (Compiler.ofSettings {}).compile "b" = .ok b ∧
    (0 ≤ letters.size ∧ ∀ search ∈ ownSearchers [a, b], SteadyFrom search letters 0) ∧
    Stays (ownSearchers [a, b]) letters 0 ∧
    passFrom (ownSearchers [a, b]) letters 1 = .ok (some (1, letterRegion "b")) := by
  have hmade : ∀ source ∈ ["a", "b"],
      ((Compiler.ofSettings {}).compile source).toOption.isSome = true := by decide +kernel
  obtain ⟨a, ha⟩ := Option.isSome_iff_exists.mp (hmade "a" (by simp))
  obtain ⟨b, hb⟩ := Option.isSome_iff_exists.mp (hmade "b" (by simp))
  have ha := eq_ok_of_toOption ha
  have hb := eq_ok_of_toOption hb
  have hsteady : ∀ search ∈ ownSearchers [a, b], SteadyFrom search letters 0 := by
    intro search hsearch
    obtain ⟨p, hp, rfl⟩ := List.mem_map.mp hsearch
    rcases List.mem_cons.mp hp with rfl | hp
    · exact steadyFrom_letters (by simp) ha
    · obtain rfl := List.mem_singleton.mp hp
      exact steadyFrom_letters (by simp) hb
  have hstays := stays_select hsteady (Nat.zero_le letters.size)
  have hpass : passFrom (ownSearchers [a, b]) letters 0 = .ok (some (1, letterRegion "b")) := by
    have hfirst := search_letters "a" (by simp) a ha 0 (Nat.zero_le _)
    have hsecond := search_letters "b" (by simp) b hb 0 (Nat.zero_le _)
    rw [passFrom_eq (Nat.zero_le _)]
    show verdict [a.search letters 0 letters.size, b.search letters 0 letters.size] = _
    rw [hfirst, hsecond]
    rfl
  exact ⟨a, b, ha, hb, ⟨Nat.zero_le _, hsteady⟩, hstays,
    hstays.found 1 (letterRegion "b") hpass 1 (Nat.zero_le _) (by decide)⟩

end Selection

end Leftmost
