import Mathlib.Order.Monotone.Basic
import Leftmost.Proofs.Verdict

/-!
# Leftmost.Proofs.Verdict.Joined

Passes over parts of a list.  The best so far is a sum: taking the better of two bests is
associative, with no match as its unit, and a pass adds up the regions of its list in order.  So a
list may be searched in parts:

* `better_assoc` — of three bests it does not matter which two are compared first;
* `verdictFrom_better`, `verdictFrom_add` — going on from a best, or from a later position, is a pass
  of its own, put behind what was there;
* `verdict_append` — hence the verdict over two lists of outcomes is told from the two verdicts;
* `joins_select` — so is what a pass gives, and searchers without a say only move the others.
-/

namespace Leftmost

namespace Selection

/-! ## The better of two -/

/-- The first of two bests, unless there is none or the second begins earlier. -/
def better : Best → Best → Best
  | none, later => later
  | some first, none => some first
  | some (i, r), some (j, s) => if s.first 0 < r.first 0 then some (j, s) else some (i, r)

@[simp] theorem none_better (best : Best) : better none best = best := rfl

@[simp] theorem better_none (best : Best) : better best none = best := by
  cases best with
  | none => rfl
  | some b => rfl

theorem better_assoc (a b c : Best) : better (better a b) c = better a (better b c) := by
  cases a with
  | none => rfl
  | some first =>
      cases b with
      | none => rfl
      | some middle =>
          cases c with
          | none => rw [better_none, better_none]
          | some last =>
              obtain ⟨i, r⟩ := first
              obtain ⟨j, s⟩ := middle
              obtain ⟨k, t⟩ := last
              simp only [better]
              by_cases hsr : s.first 0 < r.first 0
              · by_cases hts : t.first 0 < s.first 0
                · simp [hsr, hts, UInt64.lt_trans hts hsr]
                · simp [hsr, hts]
              · by_cases hts : t.first 0 < s.first 0
                · simp [hsr, hts]
                · -- Neither begins before the one in front of it, so the last not before the first.
                  have htr : ¬t.first 0 < r.first 0 := fun h =>
                    hts (UInt64.lt_of_lt_of_le h (UInt64.not_lt.mp hsr))
                  simp [hsr, hts, htr]

/-- A region counts if it has groups; then the better of it and the best so far is kept. -/
theorem keep_eq (best : Best) (index : Nat) (r : Region) :
    keep best index r = if 0 < r.groupCount then better best (some (index, r)) else best := by
  unfold keep
  by_cases hpos : 0 < r.groupCount
  · cases best with
    | none => simp [isBetter, hpos]
    | some b => simp [isBetter, better, hpos]
  · simp [hpos]

theorem keep_better (first best : Best) (index : Nat) (r : Region) :
    keep (better first best) index r = better first (keep best index r) := by
  rw [keep_eq, keep_eq]
  split
  · exact better_assoc ..
  · rfl

/-! ## Positions -/

/-- A best with its position moved. -/
def movedBest (move : Nat → Nat) (best : Best) : Best := best.map fun (i, r) => (move i, r)

/-- A result with its position moved; the region or the failure there stays as it is. -/
def moved (move : Nat → Nat) : Except ScanError Best → Except ScanError Best
  | .ok best => .ok (movedBest move best)
  | .error (.badSearch i code message) => .error (.badSearch (move i) code message)
  | .error e => .error e

theorem movedBest_better (move : Nat → Nat) (a b : Best) :
    movedBest move (better a b) = better (movedBest move a) (movedBest move b) := by
  cases a with
  | none => rfl
  | some first =>
      cases b with
      | none => rfl
      | some later =>
          simp only [better, movedBest, Option.map_some]
          split
          · rfl
          · rfl

theorem keep_movedBest (n : Nat) (best : Best) (index : Nat) (r : Region) :
    keep (movedBest (· + n) best) (index + n) r = movedBest (· + n) (keep best index r) := by
  rw [keep_eq, keep_eq]
  split
  · rw [movedBest_better]
    rfl
  · rfl

theorem moved_map_better (move : Nat → Nat) (best : Best) (x : Except ScanError Best) :
    moved move (x.map (better best)) = (moved move x).map (better (movedBest move best)) := by
  cases x with
  | error e => cases e <;> rfl
  | ok b => simp [Except.map, moved, movedBest_better]

theorem moved_moved (f g : Nat → Nat) (x : Except ScanError Best) :
    moved f (moved g x) = moved (f ∘ g) x := by
  cases x with
  | error e => cases e <;> rfl
  | ok best => cases best <;> rfl

/-! ## Passes put behind others -/

/-- Going on from the better of two bests is going on from the second, put behind the first. -/
theorem verdictFrom_better (first best : Best) (index : Nat) (os : List Outcome) :
    verdictFrom (better first best) index os =
      (verdictFrom best index os).map (better first) := by
  fun_induction verdictFrom best index os with
  | case1 => rfl
  | case2 => rfl
  | case3 best index rest ih => exact ih
  | case4 best index r rest ih => rw [verdictFrom, keep_better, ih]

/-- Going on from a later position gives the same at a later position. -/
theorem verdictFrom_add (n : Nat) (best : Best) (index : Nat) (os : List Outcome) :
    verdictFrom (movedBest (· + n) best) (index + n) os =
      moved (· + n) (verdictFrom best index os) := by
  fun_induction verdictFrom best index os with
  | case1 => rfl
  | case2 => rfl
  | case3 best index rest ih => rw [verdictFrom, Nat.add_right_comm, ih]
  | case4 best index r rest ih => rw [verdictFrom, keep_movedBest, Nat.add_right_comm, ih]

/-- Outcomes in front are gone through first, and the rest goes on from their best. -/
theorem verdictFrom_append (best : Best) (index : Nat) (os os' : List Outcome) :
    verdictFrom best index (os ++ os') =
      (verdictFrom best index os).bind fun b => verdictFrom b (index + os.length) os' := by
  fun_induction verdictFrom best index os with
  | case1 => rfl
  | case2 => rfl
  | case3 best index rest ih =>
      rw [List.cons_append, verdictFrom, ih, List.length_cons, Nat.add_right_comm, Nat.add_assoc]
  | case4 best index r rest ih =>
      rw [List.cons_append, verdictFrom, ih, List.length_cons, Nat.add_right_comm, Nat.add_assoc]

/-! ## Parts of a list -/

/-- What two results are together, the first over so many searchers.  A failure of the first is left
as it is; else one of the second counts, and else the better of the two bests. -/
def joined (n : Nat) (first later : Except ScanError Best) : Except ScanError Best :=
  match first with
  | .error e => .error e
  | .ok best => (moved (· + n) later).map (better best)

theorem verdict_append (os os' : List Outcome) :
    verdict (os ++ os') = joined os.length (verdict os) (verdict os') := by
  rw [verdict, verdictFrom_append, Nat.zero_add, ← verdict]
  cases verdict os with
  | error e => rfl
  | ok best =>
      calc verdictFrom best os.length os'
          = (verdictFrom none os.length os').map (better best) := by
            rw [← verdictFrom_better, better_none]
        _ = (moved (· + os.length) (verdict os')).map (better best) := by
            rw [verdict, ← verdictFrom_add, Nat.zero_add]
            rfl

/-- An outcome in front that does not count moves the positions of the others. -/
theorem verdict_cons_of_groupCount {found : Option Region} (h : ∀ r ∈ found, r.groupCount = 0)
    (os : List Outcome) : verdict (.ok found :: os) = moved (· + 1) (verdict os) := by
  have hrest : verdictFrom none 1 os = moved (· + 1) (verdict os) := verdictFrom_add 1 none 0 os
  cases found with
  | none => exact hrest
  | some r => rwa [verdict, verdictFrom, keep_eq, if_neg (by simp [h r rfl])]

/-- Moving positions moves those of both parts. -/
theorem moved_joined {f g : Nat → Nat} {n k : Nat} (h : ∀ i, f (i + n) = g i + k)
    (first later : Except ScanError Best) :
    moved f (joined n first later) = joined k (moved f first) (moved g later) := by
  have hmove : f ∘ (· + n) = (· + k) ∘ g := funext h
  cases first with
  | error e => cases e <;> rfl
  | ok best =>
      simp only [joined, moved_map_better, moved_moved, hmove]
      rfl

/-! ## Searchers without a say -/

/-- The verdict over a single outcome is at its position, and stays there. -/
theorem moved_verdict_singleton {move : Nat → Nat} (h : move 0 = 0) (o : Outcome) :
    moved move (verdict [o]) = verdict [o] := by
  cases o with
  | error f => simp [verdict, verdictFrom, ScanError.ofFailure, moved, h]
  | ok found =>
      cases found with
      | none => rfl
      | some r =>
          rw [verdict, verdictFrom, verdictFrom, keep_eq]
          split
          · simp [moved, movedBest, h]
          · rfl

/-- In a window, a searcher neither fails nor finds a region that counts. -/
def HasNoSay (w : Window) (search : Searcher Id) : Prop :=
  ∃ found, search w.haystack w.start w.stop = .ok found ∧ ∀ r ∈ found, r.groupCount = 0

/-- Searchers with others among them that have no say. -/
inductive Padded (w : Window) : List (Searcher Id) → List (Searcher Id) → Prop where
  | nil : Padded w [] []
  | keep (search : Searcher Id) {ps ss : List (Searcher Id)} :
      Padded w ps ss → Padded w (search :: ps) (search :: ss)
  | insert {search : Searcher Id} {ps ss : List (Searcher Id)} :
      HasNoSay w search → Padded w ps ss → Padded w ps (search :: ss)

/-- Where the position of each searcher goes if one more stands in front. -/
def consPlace (place : Nat → Nat) : Nat → Nat
  | 0 => 0
  | i + 1 => place i + 1

theorem strictMono_consPlace {place : Nat → Nat} (h : StrictMono place) :
    StrictMono (consPlace place) := by
  intro i j hij
  cases j with
  | zero => omega
  | succ j =>
      cases i with
      | zero => exact Nat.succ_pos _
      | succ i => exact Nat.succ_lt_succ (h (Nat.lt_of_succ_lt_succ hij))

/-- The verdict is the same, at the place where the searcher went. -/
theorem Padded.exists_place {w : Window} {ps ss : List (Searcher Id)} (h : Padded w ps ss) :
    ∃ place : Nat → Nat, StrictMono place ∧ (∀ i < ps.length, ss[place i]? = ps[i]?) ∧
      verdict (outcomes ss w) = moved place (verdict (outcomes ps w)) := by
  induction h with
  | nil => exact ⟨id, strictMono_id, fun _ _ => rfl, rfl⟩
  | @keep search ps ss _ ih =>
      obtain ⟨place, hmono, hget, hverdict⟩ := ih
      refine ⟨consPlace place, strictMono_consPlace hmono, fun i hi => ?_, ?_⟩
      · cases i with
        | zero => rfl
        | succ i => exact hget i (Nat.lt_of_succ_lt_succ hi)
      · let o : Outcome := search w.haystack w.start w.stop
        calc verdict (o :: outcomes ss w)
            = joined 1 (verdict [o]) (verdict (outcomes ss w)) := verdict_append [o] _
          _ = joined 1 (moved (consPlace place) (verdict [o]))
                (moved place (verdict (outcomes ps w))) := by
              rw [hverdict, moved_verdict_singleton rfl]
          _ = moved (consPlace place) (joined 1 (verdict [o]) (verdict (outcomes ps w))) :=
              (moved_joined (fun _ => rfl) ..).symm
          _ = moved (consPlace place) (verdict (o :: outcomes ps w)) :=
              congrArg _ (verdict_append [o] _).symm
  | @insert search ps ss hsay _ ih =>
      obtain ⟨place, hmono, hget, hverdict⟩ := ih
      obtain ⟨found, hfound, hgroups⟩ := hsay
      refine ⟨fun i => place i + 1, fun i j hij => Nat.succ_lt_succ (hmono hij), hget, ?_⟩
      have hcons : outcomes (search :: ss) w = .ok found :: outcomes ss w :=
        congrArg (· :: outcomes ss w) hfound
      rw [hcons, verdict_cons_of_groupCount hgroups, hverdict, moved_moved]
      rfl

/-- How the passes over lists hang together. -/
structure Joins (w : Window) : Prop where
  /-- A pass over two lists gives what the two passes give together. -/
  append : ∀ ps qs : List (Searcher Id), (Id.run (select (ps ++ qs) w)).value =
    joined ps.length (Id.run (select ps w)).value (Id.run (select qs w)).value
  /-- Searchers that neither match nor fail may stand anywhere else: the same searcher wins with the
  same region, or fails in the same way, at the place where it went. -/
  insert : ∀ ps ss, Padded w ps ss → ∃ place : Nat → Nat, StrictMono place ∧
    (∀ i < ps.length, ss[place i]? = ps[i]?) ∧
    (Id.run (select ss w)).value = moved place (Id.run (select ps w)).value

/-- A list may be searched in parts, and searchers without a say left out. -/
theorem joins_select (w : Window) : Joins w where
  append ps qs := by
    have houtcomes : outcomes (ps ++ qs) w = outcomes ps w ++ outcomes qs w := List.map_append
    have hlength : (outcomes ps w).length = ps.length := List.length_map _
    simp only [select, value_selectFrom, houtcomes]
    exact hlength ▸ verdict_append (outcomes ps w) (outcomes qs w)
  insert ps ss h := by
    simp only [select, value_selectFrom]
    exact h.exists_place

end Selection

end Leftmost
