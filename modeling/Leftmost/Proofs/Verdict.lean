import Leftmost.Selection

/-!
# Leftmost.Proofs.Verdict

What a pass over searchers decides. A pass is split into what the searchers give, a list of
*outcomes*, and what is made of it, a *verdict*:

* `IsEarliest` — the match that wins among outcomes, said without the pass;
* `Decided` — what the verdict over outcomes has to be;
* `IsBestOf.keep` — one outcome more keeps the best so far the best of all outcomes seen;
* `decided_verdict` — the verdict over any outcomes is the one that `Decided` asks for;
* `decided_select` — so is what a pass gives.
-/

namespace Leftmost

namespace Selection

/-- What a searcher gives. -/
abbrev Outcome := Except SearchFailure (Option Region)

/-! ## What wins -/

/-- The outcome at a position is a failure. -/
def IsFailure (os : List Outcome) (i : Nat) (f : SearchFailure) : Prop :=
  os[i]? = some (.error f)

/-- The outcome at a position is a failure, and none before it is. -/
def IsFirstFailure (os : List Outcome) (i : Nat) (f : SearchFailure) : Prop :=
  IsFailure os i f ∧ ∀ j < i, ∀ g, ¬IsFailure os j g

/-- The outcome at a position is a region with at least one group. -/
def IsCandidate (os : List Outcome) (i : Nat) (r : Region) : Prop :=
  os[i]? = some (.ok (some r)) ∧ 0 < r.groupCount

/-- The candidate at a position begins no later than any other, and earlier than those before
it. -/
def IsEarliest (os : List Outcome) (i : Nat) (r : Region) : Prop :=
  IsCandidate os i r ∧ ∀ j s, IsCandidate os j s →
    r.first 0 ≤ s.first 0 ∧ (j < i → r.first 0 < s.first 0)

/-- What the result over a list of outcomes has to be. -/
structure Decided (os : List Outcome) (result : Except ScanError Best) : Prop where
  /-- If there is a failure, the first is the result, whatever matches there are. -/
  failed : (∃ i f, IsFailure os i f) →
    ∃ i f, IsFirstFailure os i f ∧ result = .error (.badSearch i f.code f.message)
  /-- Without a failure there is no match exactly if there is no candidate. -/
  missed : (∀ i f, ¬IsFailure os i f) → (result = .ok none ↔ ∀ i r, ¬IsCandidate os i r)
  /-- Without a failure the earliest of the candidates wins, as it was given. -/
  found : (∀ i f, ¬IsFailure os i f) → (∃ i r, IsCandidate os i r) →
    ∃ i r, result = .ok (some (i, r)) ∧ IsEarliest os i r

/-! ## The verdict -/

/-- The best so far after one more region. -/
def keep (best : Best) (index : Nat) (r : Region) : Best :=
  if 0 < r.groupCount && isBetter best r then some (index, r) else best

/-- Goes on with the outcomes from a position in the list on. -/
def verdictFrom (best : Best) (index : Nat) : List Outcome → Except ScanError Best
  | [] => .ok best
  | .error f :: _ => .error (.ofFailure index f)
  | .ok none :: rest => verdictFrom best (index + 1) rest
  | .ok (some r) :: rest => verdictFrom (keep best index r) (index + 1) rest

/-- What is made of outcomes. -/
def verdict (os : List Outcome) : Except ScanError Best := verdictFrom none 0 os

/-- What searchers give when all are called. -/
def outcomes (searchers : List (Searcher Id)) (w : Window) : List Outcome :=
  searchers.map fun search => search w.haystack w.start w.stop

/-- A pass decides on nothing but the outcomes. -/
theorem value_selectFrom (w : Window) (searchers : List (Searcher Id)) (best : Best)
    (index : Nat) : (Id.run (selectFrom w best index searchers)).value =
      verdictFrom best index (outcomes searchers w) := by
  induction searchers generalizing best index with
  | nil => rfl
  | cons search rest ih =>
      simp only [selectFrom, outcomes, List.map_cons, Id.run_bind]
      cases ho : Id.run (search w.haystack w.start w.stop) with
      | error f => simp [verdictFrom, show search w.haystack w.start w.stop = .error f from ho]
      | ok found =>
          rw [show search w.haystack w.start w.stop = .ok found from ho]
          cases found with
          | none => exact ih best (index + 1)
          | some r =>
              simp only [verdictFrom, keep]
              split
              · exact ih (some (index, r)) (index + 1)
              · exact ih best (index + 1)

/-- A pass depends on what searchers give in its window. -/
theorem selectFrom_congr {m : Type → Type} [Monad m] {α : Type} {look look' : α → Searcher m}
    {w : Window} {xs : List α} (h : ∀ x ∈ xs,
      look x w.haystack w.start w.stop = look' x w.haystack w.start w.stop)
    (best : Best) (index : Nat) :
    selectFrom w best index (xs.map look) = selectFrom w best index (xs.map look') := by
  induction xs generalizing best index with
  | nil => rfl
  | cons x xs ih =>
      have hrest := ih fun y hy => h y (List.mem_cons_of_mem x hy)
      simp only [List.map_cons, selectFrom, h x List.mem_cons_self, hrest]

/-! ## The best so far -/

/-- The best so far is the best of all outcomes seen. -/
def IsBestOf (os : List Outcome) : Best → Prop
  | none => ∀ i r, ¬IsCandidate os i r
  | some (i, r) => IsEarliest os i r

theorem IsCandidate.lt_length {os : List Outcome} {i : Nat} {r : Region}
    (h : IsCandidate os i r) : i < os.length := by
  obtain ⟨hlt, -⟩ := List.getElem?_eq_some_iff.mp h.1
  exact hlt

theorem isBestOf_nil : IsBestOf [] none :=
  fun i _ h => absurd h.lt_length (Nat.not_lt_zero i)

/-- Outcomes put behind others leave their candidates as they are. -/
theorem isCandidate_append_of_lt {seen rest : List Outcome} {j : Nat} (hj : j < seen.length)
    (s : Region) : IsCandidate (seen ++ rest) j s ↔ IsCandidate seen j s := by
  rw [IsCandidate, IsCandidate, List.getElem?_append_left hj]

/-- A candidate among outcomes with one more is an old one or the new one. -/
theorem isCandidate_concat {os : List Outcome} {o : Outcome} {i : Nat} {r : Region} :
    IsCandidate (os ++ [o]) i r ↔
      IsCandidate os i r ∨ (i = os.length ∧ o = .ok (some r) ∧ 0 < r.groupCount) := by
  unfold IsCandidate
  rcases Nat.lt_trichotomy i os.length with hlt | heq | hgt
  · rw [List.getElem?_append_left hlt]
    simp [Nat.ne_of_lt hlt]
  · subst heq
    simp
  · rw [List.getElem?_eq_none (by simp; omega), List.getElem?_eq_none (by omega)]
    simp; omega

/-- An outcome that is no candidate changes nothing. -/
theorem IsBestOf.skip {os : List Outcome} {best : Best} {o : Outcome} (h : IsBestOf os best)
    (ho : ∀ r, o = .ok (some r) → r.groupCount = 0) : IsBestOf (os ++ [o]) best := by
  have hold : ∀ i r, IsCandidate (os ++ [o]) i r ↔ IsCandidate os i r := by
    intro i r
    rw [isCandidate_concat]
    refine ⟨?_, .inl⟩
    rintro (hr | ⟨-, hr, hpos⟩)
    · exact hr
    · have := ho r hr
      omega
  cases best with
  | none => exact fun i r hr => h i r ((hold i r).mp hr)
  | some b =>
      obtain ⟨i, r⟩ := b
      exact ⟨(hold i r).mpr h.1, fun j s hs => h.2 j s ((hold j s).mp hs)⟩

/-- After one region more the best so far is still the best of all. -/
theorem IsBestOf.keep {os : List Outcome} {best : Best} (h : IsBestOf os best) (r : Region) :
    IsBestOf (os ++ [.ok (some r)]) (keep best os.length r) := by
  by_cases hpos : 0 < r.groupCount
  · have hnew : IsCandidate (os ++ [.ok (some r)]) os.length r :=
      isCandidate_concat.mpr (.inr ⟨rfl, rfl, hpos⟩)
    cases best with
    | none =>
        simp only [Selection.keep, isBetter, hpos, decide_true, Bool.and_self, if_true]
        refine ⟨hnew, fun j s hs => ?_⟩
        rcases isCandidate_concat.mp hs with hs | ⟨rfl, hr, -⟩
        · exact absurd hs (h j s)
        · cases hr
          exact ⟨UInt64.le_refl _, fun hlt => absurd hlt (Nat.lt_irrefl _)⟩
    | some b =>
        obtain ⟨i, c⟩ := b
        obtain ⟨hc, hmin⟩ := h
        simp only [Selection.keep, isBetter, hpos, decide_true, Bool.true_and,
          decide_eq_true_eq]
        split
        · -- The new region begins earlier than the best, hence than all the others.
          next hlt =>
          refine ⟨hnew, fun j s hs => ?_⟩
          rcases isCandidate_concat.mp hs with hs | ⟨rfl, hr, -⟩
          · have hle := (hmin j s hs).1
            exact ⟨UInt64.le_of_lt (UInt64.lt_of_lt_of_le hlt hle),
              fun _ => UInt64.lt_of_lt_of_le hlt hle⟩
          · cases hr
            exact ⟨UInt64.le_refl _, fun hlt => absurd hlt (Nat.lt_irrefl _)⟩
        · -- The best stays; the new region comes behind it in the list.
          next hnlt =>
          refine ⟨isCandidate_concat.mpr (.inl hc), fun j s hs => ?_⟩
          rcases isCandidate_concat.mp hs with hs | ⟨rfl, hr, -⟩
          · exact hmin j s hs
          · cases hr
            exact ⟨UInt64.not_lt.mp hnlt, fun hlt => absurd hlt (Nat.lt_asymm hc.lt_length)⟩
  · have hsame : Selection.keep best os.length r = best := by simp [Selection.keep, hpos]
    rw [hsame]
    exact h.skip fun s hs => by cases hs; omega

/-! ## A whole list of outcomes -/

/-- Outcomes put behind others leave their failures as they are. -/
theorem isFailure_append_of_lt {seen rest : List Outcome} {j : Nat} (hj : j < seen.length)
    (f : SearchFailure) : IsFailure (seen ++ rest) j f ↔ IsFailure seen j f := by
  rw [IsFailure, IsFailure, List.getElem?_append_left hj]

/-- Where outcomes without a failure are followed by one, that one is the first. -/
theorem isFirstFailure_append {seen : List Outcome} (hseen : ∀ i f, ¬IsFailure seen i f)
    (f : SearchFailure) (rest : List Outcome) :
    IsFirstFailure (seen ++ .error f :: rest) seen.length f := by
  refine ⟨by simp [IsFailure], fun j hj g => ?_⟩
  rw [isFailure_append_of_lt hj]
  exact hseen j g

/-- There is at most one first failure. -/
theorem IsFirstFailure.unique {os : List Outcome} {i j : Nat} {f g : SearchFailure}
    (hi : IsFirstFailure os i f) (hj : IsFirstFailure os j g) : i = j ∧ f = g := by
  have hij : i = j := by
    rcases Nat.lt_trichotomy i j with hlt | heq | hgt
    · exact absurd hi.1 (hj.2 i hlt f)
    · exact heq
    · exact absurd hj.1 (hi.2 j hgt g)
  subst hij
  have hsame : some (Except.error f : Outcome) = some (.error g) := hi.1.symm.trans hj.1
  exact ⟨rfl, by simpa using hsame⟩

theorem not_isFailure_concat {seen : List Outcome} (hseen : ∀ i f, ¬IsFailure seen i f)
    (found : Option Region) (i : Nat) (f : SearchFailure) :
    ¬IsFailure (seen ++ [.ok found]) i f := by
  rcases Nat.lt_trichotomy i seen.length with hlt | heq | hgt
  · rw [isFailure_append_of_lt hlt]
    exact hseen i f
  · subst heq
    simp [IsFailure]
  · rw [IsFailure, List.getElem?_eq_none (by simp; omega)]
    simp

/-- Going on from the best of the outcomes seen ends at the first failure or, if there is none, at
the best of all outcomes. -/
theorem verdictFrom_spec (rest : List Outcome) : ∀ (seen : List Outcome) (best : Best),
    IsBestOf seen best → (∀ i f, ¬IsFailure seen i f) →
    (∃ i f, IsFirstFailure (seen ++ rest) i f ∧
      verdictFrom best seen.length rest = .error (.ofFailure i f)) ∨
    (∀ i f, ¬IsFailure (seen ++ rest) i f) ∧
      ∃ b, verdictFrom best seen.length rest = .ok b ∧ IsBestOf (seen ++ rest) b := by
  induction rest with
  | nil =>
      intro seen best hbest hseen
      rw [List.append_nil]
      exact .inr ⟨hseen, best, rfl, hbest⟩
  | cons o rest ih =>
      intro seen best hbest hseen
      cases o with
      | error f => exact .inl ⟨seen.length, f, isFirstFailure_append hseen f rest, rfl⟩
      | ok found =>
          have hlen : (seen ++ [.ok found] : List Outcome).length = seen.length + 1 := by simp
          have hgo := ih (seen ++ [.ok found])
          rw [hlen, ← List.append_cons seen (.ok found) rest] at hgo
          have hseen' := not_isFailure_concat hseen found
          cases found with
          | none => exact hgo best (hbest.skip (by simp)) hseen'
          | some r => exact hgo (keep best seen.length r) (hbest.keep r) hseen'

/-- Over any outcomes the verdict is the first failure or, if there is none, the best. -/
theorem verdict_spec (os : List Outcome) :
    (∃ i f, IsFirstFailure os i f ∧ verdict os = .error (.ofFailure i f)) ∨
    (∀ i f, ¬IsFailure os i f) ∧ ∃ b, verdict os = .ok b ∧ IsBestOf os b := by
  exact verdictFrom_spec os [] none isBestOf_nil (by simp [IsFailure])

/-- The verdict over outcomes is the one asked for. -/
theorem decided_verdict (os : List Outcome) : Decided os (verdict os) := by
  rcases verdict_spec os with ⟨i, f, hf, hv⟩ | ⟨hno, best, hv, hbest⟩
  · exact ⟨fun _ => ⟨i, f, hf, hv⟩, fun hno => absurd hf.1 (hno i f),
      fun hno => absurd hf.1 (hno i f)⟩
  · rw [hv]
    refine ⟨fun ⟨i, f, hf⟩ => absurd hf (hno i f), fun _ => ?_, fun _ hcand => ?_⟩
    · cases best with
      | none => exact ⟨fun _ => hbest, fun _ => rfl⟩
      | some b =>
          constructor
          · intro h
            cases h
          · intro h
            exact absurd hbest.1 (h b.1 b.2)
    · cases best with
      | none =>
          obtain ⟨i, r, hr⟩ := hcand
          exact absurd hr (hbest i r)
      | some b => exact ⟨b.1, b.2, rfl, hbest⟩

/-- A pass over any searchers gives the first failure; without one it gives the match that begins
earliest, of several the one that comes first in the list; and no match if there is none. -/
theorem decided_select (searchers : List (Searcher Id)) (w : Window) :
    Decided (outcomes searchers w) (Id.run (select searchers w)).value := by
  rw [select, value_selectFrom]
  exact decided_verdict (outcomes searchers w)

end Selection

end Leftmost
