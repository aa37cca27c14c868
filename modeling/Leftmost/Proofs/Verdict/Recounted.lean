import Leftmost.Proofs.Verdict.Calls

/-!
# Leftmost.Proofs.Verdict.Recounted

What a pass over searchers tells.  A candidate that begins earlier than all before it is a *record*:
the records are the bests that a pass has one after the other, and it tells of each.

* `IsBestOf.isRecord_iff` — the next outcome is a record if it is better than the best so far;
* `mem_recordsFrom` — hence going on from the best of the outcomes seen meets the records that are
  left;
* `verdictFrom_eq_getLast?` — the last of them is what the pass gives;
* `run_selectFrom` — what is told of searchers that share any state is told of their outcomes;
* `recounts_select` — a pass tells of its records, then of the failure, and then that it is over.
-/

namespace Leftmost

namespace Selection

/-! ## Records -/

/-- The candidate at a position comes behind no failure, and begins earlier than all candidates
before it. -/
def IsRecord (os : List Outcome) (i : Nat) (r : Region) : Prop :=
  IsCandidate os i r ∧ (∀ j < i, ∀ f, ¬IsFailure os j f) ∧
    ∀ j < i, ∀ s, IsCandidate os j s → r.first 0 < s.first 0

/-- What is better than the best of some outcomes begins earlier than all their candidates. -/
theorem IsBestOf.isBetter_iff {os : List Outcome} {best : Best} (h : IsBestOf os best)
    (r : Region) :
    isBetter best r = true ↔ ∀ j s, IsCandidate os j s → r.first 0 < s.first 0 := by
  cases best with
  | none =>
      simp only [isBetter, true_iff]
      exact fun j s hs => absurd hs (h j s)
  | some b =>
      obtain ⟨i, c⟩ := b
      obtain ⟨hc, hmin⟩ := h
      simp only [isBetter, decide_eq_true_eq]
      constructor
      · exact fun hlt j s hs => UInt64.lt_of_lt_of_le hlt (hmin j s hs).1
      · exact fun hall => hall i c hc

/-- The outcome behind others is a record if it is a region that becomes the best so far. -/
theorem IsBestOf.isRecord_iff {seen : List Outcome} {best : Best} (h : IsBestOf seen best)
    (hseen : ∀ i f, ¬IsFailure seen i f) (o : Outcome) (rest : List Outcome) (r : Region) :
    IsRecord (seen ++ o :: rest) seen.length r ↔
      o = .ok (some r) ∧ 0 < r.groupCount ∧ isBetter best r = true := by
  have hcandidate : IsCandidate (seen ++ o :: rest) seen.length r ↔
      o = .ok (some r) ∧ 0 < r.groupCount := by
    simp [IsCandidate]
  have hfailure : ∀ j < seen.length, ∀ f, ¬IsFailure (seen ++ o :: rest) j f := by
    intro j hj f
    rw [isFailure_append_of_lt hj]
    exact hseen j f
  rw [IsRecord, hcandidate, h.isBetter_iff, and_assoc]
  refine and_congr_right fun _ => and_congr_right fun _ => ⟨?_, ?_⟩
  · rintro ⟨-, hearlier⟩ j s hs
    exact hearlier j hs.lt_length s ((isCandidate_append_of_lt hs.lt_length s).mpr hs)
  · intro hearlier
    exact ⟨hfailure, fun j hj s hs => hearlier j s ((isCandidate_append_of_lt hj s).mp hs)⟩

/-! ## The bests of a pass -/

/-- The best that a region becomes, if it does. -/
def recordAt (best : Best) (index : Nat) (r : Region) : List (Nat × Region) :=
  if 0 < r.groupCount && isBetter best r then [(index, r)] else []

/-- The bests one after the other, going on with the outcomes from a position in the list on. -/
def recordsFrom (best : Best) (index : Nat) : List Outcome → List (Nat × Region)
  | [] => []
  | .error _ :: _ => []
  | .ok none :: rest => recordsFrom best (index + 1) rest
  | .ok (some r) :: rest => recordAt best index r ++ recordsFrom (keep best index r) (index + 1) rest

theorem mem_recordAt {best : Best} {index i : Nat} {r s : Region} :
    (i, s) ∈ recordAt best index r ↔
      i = index ∧ s = r ∧ 0 < r.groupCount ∧ isBetter best r = true := by
  unfold recordAt
  split
  · next h => simp_all
  · next h => simp_all

/-- A record that is left is the next outcome, or stands behind it. -/
theorem IsBestOf.isRecord_cons_iff {seen : List Outcome} {best : Best} (h : IsBestOf seen best)
    (hseen : ∀ i f, ¬IsFailure seen i f) (o : Outcome) (rest : List Outcome) (i : Nat)
    (r : Region) :
    seen.length ≤ i ∧ IsRecord (seen ++ o :: rest) i r ↔
      (i = seen.length ∧ o = .ok (some r) ∧ 0 < r.groupCount ∧ isBetter best r = true) ∨
        seen.length + 1 ≤ i ∧ IsRecord (seen ++ o :: rest) i r := by
  have hnext := h.isRecord_iff hseen o rest r
  rw [Nat.le_iff_lt_or_eq, or_and_right, or_comm]
  refine or_congr_left ⟨?_, ?_⟩
  · rintro ⟨rfl, hr⟩
    exact ⟨rfl, hnext.mp hr⟩
  · rintro ⟨rfl, hr⟩
    exact ⟨rfl, hnext.mpr hr⟩

/-- Going on from the best of the outcomes seen meets the records that are left. -/
theorem mem_recordsFrom (rest : List Outcome) : ∀ (seen : List Outcome) (best : Best),
    IsBestOf seen best → (∀ i f, ¬IsFailure seen i f) → ∀ i r,
    (i, r) ∈ recordsFrom best seen.length rest ↔
      seen.length ≤ i ∧ IsRecord (seen ++ rest) i r := by
  induction rest with
  | nil =>
      intro seen best _ _ i r
      simp only [recordsFrom, List.append_nil, List.not_mem_nil, false_iff, not_and]
      exact fun hle hr => absurd hr.1.lt_length (Nat.not_lt.mpr hle)
  | cons o rest ih =>
      intro seen best hbest hseen i r
      rw [hbest.isRecord_cons_iff hseen]
      cases o with
      | error f =>
          -- Behind a failure there are no records.
          have hfailure := (isFirstFailure_append hseen f rest).1
          simp only [recordsFrom, List.not_mem_nil, reduceCtorEq, false_and, and_false, false_or,
            false_iff, not_and]
          exact fun hlt hr => hr.2.1 seen.length hlt f hfailure
      | ok found =>
          have hlen : (seen ++ [.ok found] : List Outcome).length = seen.length + 1 := by simp
          have hgo := ih (seen ++ [.ok found])
          rw [hlen, ← List.append_cons seen (.ok found) rest] at hgo
          have hseen' := not_isFailure_concat hseen found
          cases found with
          | none => simpa [recordsFrom] using hgo best (hbest.skip (by simp)) hseen' i r
          | some s =>
              rw [recordsFrom, List.mem_append, mem_recordAt,
                hgo (keep best seen.length s) (hbest.keep s) hseen' i r]
              refine or_congr_left (and_congr_right fun _ => ⟨?_, ?_⟩)
              · rintro ⟨rfl, hr⟩
                exact ⟨rfl, hr⟩
              · rintro ⟨hrs, hr⟩
                cases hrs
                exact ⟨rfl, hr⟩

/-- The bests of a pass are the records of its outcomes. -/
theorem mem_recordsFrom_none (os : List Outcome) (i : Nat) (r : Region) :
    (i, r) ∈ recordsFrom none 0 os ↔ IsRecord os i r := by
  simpa using mem_recordsFrom os [] none isBestOf_nil (by simp [IsFailure]) i r

/-- Neither a region without groups is a record, nor one that begins with the best, nor what comes
behind a failure. -/
example : (recordsFrom none 0 [.ok (some ⟨#[(6, 7)]⟩), .ok (some ⟨#[]⟩), .ok (some ⟨#[(6, 9)]⟩),
    .ok none, .ok (some ⟨#[(2, 4)]⟩), .error ⟨.stackLimit, ""⟩,
    .ok (some ⟨#[(0, 1)]⟩)]).map Prod.fst = [0, 4] := by
  decide

theorem le_of_mem_recordsFrom {best : Best} {index : Nat} {os : List Outcome}
    {b : Nat × Region} (h : b ∈ recordsFrom best index os) : index ≤ b.1 := by
  fun_induction recordsFrom best index os with
  | case1 => simp at h
  | case2 => simp at h
  | case3 best index rest ih => exact Nat.le_of_succ_le (ih h)
  | case4 best index r rest ih =>
      rcases List.mem_append.mp h with h | h
      · exact Nat.le_of_eq (mem_recordAt.mp h).1.symm
      · exact Nat.le_of_succ_le (ih h)

/-- The bests of a pass stand in the list one behind the other. -/
theorem pairwise_recordsFrom (best : Best) (index : Nat) (os : List Outcome) :
    (recordsFrom best index os).Pairwise fun a b => a.1 < b.1 := by
  fun_induction recordsFrom best index os with
  | case1 => exact .nil
  | case2 => exact .nil
  | case3 best index rest ih => exact ih
  | case4 best index r rest ih =>
      refine List.pairwise_append.mpr ⟨?_, ih, fun a ha b hb => ?_⟩
      · unfold recordAt
        split
        · exact List.pairwise_singleton _ _
        · exact .nil
      · have hindex := (mem_recordAt.mp ha).1
        have hle := le_of_mem_recordsFrom hb
        omega

/-- What is kept is the region if it became the best, and the best before it otherwise. -/
theorem getLast?_recordAt_or (best : Best) (index : Nat) (r : Region) :
    (recordAt best index r).getLast?.or best = keep best index r := by
  unfold recordAt keep
  split
  · rfl
  · rfl

/-- A verdict without a failure is the last best. -/
theorem verdictFrom_eq_getLast? {best b : Best} {index : Nat} {os : List Outcome}
    (h : verdictFrom best index os = .ok b) :
    b = (recordsFrom best index os).getLast?.or best := by
  fun_induction verdictFrom best index os with
  | case1 best index =>
      cases h
      rfl
  | case2 => cases h
  | case3 best index rest ih => exact ih h
  | case4 best index r rest ih =>
      rw [recordsFrom, List.getLast?_append, Option.or_assoc, getLast?_recordAt_or]
      exact ih h

/-! ## Events -/

/-- What is told of a best. -/
def recordEvent (record : Nat × Region) : Event := .bestSoFar record.1 (record.2.first 0)

/-- What is told of a failure, with where the search was to start. -/
def failureEvent (start : Nat) (failure : Nat × SearchFailure) : Event :=
  .searchFailed failure.1 start failure.2

/-- The failure that a result is of, and the position where it came. -/
def failureOf? : Except ScanError Best → Option (Nat × SearchFailure)
  | .error (.badSearch i code message) => some (i, ⟨code, message⟩)
  | _ => none

/-- What is decided on the outcomes from a position in the list on, and what is told of them. -/
def recountFrom (start : Nat) (best : Best) (index : Nat) (os : List Outcome) :
    Logged (Except ScanError Best) where
  value := verdictFrom best index os
  events := (recordsFrom best index os).map recordEvent ++
    ((failureOf? (verdictFrom best index os)).toList.map (failureEvent start) ++ [.selectionTimed])

/-- A region is told of if it becomes the best, before what is told of the rest. -/
theorem recountFrom_some (start : Nat) (best : Best) (index : Nat) (r : Region)
    (rest : List Outcome) : recountFrom start best index (.ok (some r) :: rest) =
      { value := (recountFrom start (keep best index r) (index + 1) rest).value
        events := (recordAt best index r).map recordEvent ++
          (recountFrom start (keep best index r) (index + 1) rest).events } := by
  simp [recountFrom, recordsFrom, verdictFrom]

variable {σ : Type}

/-- What is told of searchers that share any state is told of their outcomes. -/
theorem run_selectFrom (w : Window) (searchers : List (Searcher (StateM σ))) (best : Best)
    (index : Nat) (s : σ) : ((selectFrom w best index searchers).run s).1 =
      recountFrom w.start best index (outcomesFrom w searchers s) := by
  induction searchers generalizing best index s with
  | nil => rfl
  | cons search rest ih =>
      rw [selectFrom, outcomesFrom, StateT.run_bind]
      generalize (search w.haystack w.start w.stop).run s = given
      obtain ⟨o, s'⟩ : Outcome × σ := given
      cases o with
      | error f => rfl
      | ok found =>
          cases found with
          | none => exact ih best (index + 1) s'
          | some r =>
              rw [recountFrom_some]
              change ((if 0 < r.groupCount && isBetter best r then do
                  let later ← selectFrom w (some (index, r)) (index + 1) rest
                  return { later with events := .bestSoFar index (r.first 0) :: later.events }
                else selectFrom w best (index + 1) rest).run s').1 = _
              unfold recordAt keep
              split
              · rw [← ih (some (index, r)) (index + 1) s']
                rfl
              · exact ih best (index + 1) s'

/-! ## What a pass tells -/

/-- What the line of an event is made of: its level and its text. -/
def lineOf (e : Event) : Level × String := (e.level, e.text)

/-- What a pass over searchers that give outcomes tells, with where their range starts. -/
structure Recounts (os : List Outcome) (start : Nat) (pass : Logged (Except ScanError Best))
    (records : List (Nat × Region)) (failure : Option (Nat × SearchFailure)) : Prop where
  /-- A line for each record, then one for the failure if there is one, and last the timer's. -/
  lines : pass.events.map lineOf =
    records.map (fun (i, r) => (.trace, s!"Pattern #{i} is the best so far at {r.first 0}")) ++
      (failure.toList.map (fun (i, f) =>
          (.warn, s!"Pattern #{i} failed at offset {start}: {f.render}")) ++
        [(.trace, "[TIMER] select_best_match")])
  /-- The records are the candidates before any failure that begin earlier than all before them. -/
  mem_records : ∀ i r, (i, r) ∈ records ↔ IsRecord os i r
  ascending : records.Pairwise fun a b => a.1 < b.1
  descending : records.Pairwise fun a b => b.2.first 0 < a.2.first 0
  /-- If a searcher fails, the failure is the first, and nothing is found. -/
  failed : ∀ i f, IsFirstFailure os i f →
    failure = some (i, f) ∧ pass.value = .error (.badSearch i f.code f.message)
  /-- If none fails, there is no failure, and the last record is what is found. -/
  passed : (∀ i f, ¬IsFailure os i f) → failure = none ∧ pass.value = .ok records.getLast?

theorem recounts_recountFrom (os : List Outcome) (start : Nat) :
    Recounts os start (recountFrom start none 0 os) (recordsFrom none 0 os)
      (failureOf? (verdict os)) where
  lines := by
    rw [recountFrom, List.map_append, List.map_append, List.map_map, List.map_map]
    rfl
  mem_records := mem_recordsFrom_none os
  ascending := pairwise_recordsFrom none 0 os
  descending := by
    refine (pairwise_recordsFrom none 0 os).imp_of_mem fun {a b} ha hb hlt => ?_
    have hrecord := (mem_recordsFrom_none os b.1 b.2).mp hb
    exact hrecord.2.2 a.1 hlt a.2 ((mem_recordsFrom_none os a.1 a.2).mp ha).1
  failed i f hf := by
    rcases verdict_spec os with ⟨j, g, hg, hv⟩ | ⟨hno, -⟩
    · obtain ⟨rfl, rfl⟩ := hf.unique hg
      rw [recountFrom, ← verdict, hv]
      exact ⟨rfl, rfl⟩
    · exact absurd hf.1 (hno i f)
  passed hno := by
    rcases verdict_spec os with ⟨i, f, hf, -⟩ | ⟨-, b, hv, -⟩
    · exact absurd hf.1 (hno i f)
    · have hlast := verdictFrom_eq_getLast? hv
      rw [Option.or_none] at hlast
      rw [recountFrom, ← verdict, hv, hlast]
      exact ⟨rfl, rfl⟩

/-- A pass tells of its records in the order of the list, then of the first failure if there is one,
and last that it is over. -/
theorem recounts_select (searchers : List (Searcher (StateM σ))) (h : ByteArray) (start : Nat)
    (s : σ) : ∃ records failure,
      Recounts (outcomesFrom (.ofStart h start) searchers s) (min start h.size)
        ((select searchers (.ofStart h start)).run s).1 records failure := by
  rw [select, run_selectFrom]
  exact ⟨_, _, recounts_recountFrom _ _⟩

end Selection

end Leftmost
