import Leftmost.Proofs.Boundary.Fault

/-!
# Leftmost.Proofs.Boundary.Result

What a caller learns from a search that succeeds.  The three words of the result say all that the
store answered: only no match has no offsets, because a region without groups never wins.

* `exists_best_of_succeeded` — what is handed over is the store's answer for the tokens of the call;
* `Conveyed` — what the three words tell about that answer;
* `conveyed_of_succeeded` — they tell it in any session, whatever the call was made with.
-/

namespace Leftmost

namespace Session

open Selection

/-- Each word of a list is read as one token. -/
theorem length_of_handlesOf? {raws : List UInt64} {handles : List Handle}
    (h : handlesOf? raws = some handles) : handles.length = raws.length := by
  by_cases hnull : ∃ raw ∈ raws, Handle.IsNull raw
  · rw [handlesOf?_of_isNull hnull] at h
    cases h
  · rw [handlesOf?_of_not_isNull (by simpa using hnull)] at h
    cases h
    exact List.length_map ..

theorem Query.length_raws_le (q : Query) : q.raws.length ≤ q.count.toNat := by
  rw [Query.raws, List.length_take]
  exact Nat.min_le_left _ _

/-- A search that succeeds hands over what the store answers for the tokens of the call. -/
theorem exists_best_of_succeeded {s : Session} {q : Query} {w : Option Written}
    (h : (s.perform (.findBest q)).1 = .answered .succeeded w) :
    ∃ handles best, handlesOf? q.raws = some handles ∧
      (s.registry.findBest handles q.haystack q.start.toNat).value = .ok best ∧
      w = some (.best best.handOver) := by
  have hread : q.IsReadable := Query.isReadable_of_not_fails fun code hcode => by
    rw [perform_findBest_of_fails s hcode] at h
    cases h
  have hnull : ∀ raw ∈ q.raws, ¬Handle.IsNull raw := fun raw hmem hbad => by
    rw [perform_findBest_of_fails s (.nullToken hread ⟨raw, hmem, hbad⟩)] at h
    cases h
  rw [perform_findBest s hread hnull] at h
  cases hbest : (s.registry.findBest q.handles q.haystack q.start.toNat).value with
  | error e =>
      rw [hbest] at h
      cases h
  | ok best =>
      rw [hbest] at h
      cases h
      exact ⟨q.handles, best, handlesOf?_of_not_isNull hnull, hbest, rfl⟩

/-- The result of a search: the position of a pattern, the offsets at an address, and their
number. -/
abbrev Result := Nat × Option (Array Offset) × Nat

/-- What a result tells about the store's answer to a search with tokens. -/
structure Conveyed (s : Session) (q : Query) (handles : List Handle) (best : FlatMatch)
    (result : Result) : Prop where
  /-- The tokens are those of the words of the call, one for each. -/
  decoded : handlesOf? q.raws = some handles
  /-- A start below 0 counts as 0. -/
  answered : (s.registry.findBest handles q.haystack (max q.start 0).toNat).value = .ok best
  /-- The caller has the answer again. -/
  recovered : FlatMatch.ofHandedOver result = best
  /-- Of no match, and of nothing else, all three words are empty. -/
  nothing_iff : result = (0, none, 0) ↔ best = .noMatch
  /-- Any other answer has its position in the list of the call, -/
  index_lt : best ≠ .noMatch → (result.1 : Int) < q.count
  /-- an address with all of its offsets, -/
  offsets : best ≠ .noMatch → result.2.1 = some best.offsets
  two_le : best ≠ .noMatch → 2 ≤ result.2.2
  /-- and two of them for each group of the region that wins. -/
  winner : best ≠ .noMatch → ∃ ps reg, Registry.Resolves s.registry handles ps ∧
    IsEarliest (Registry.ownOutcomes ps q.haystack (max q.start 0).toNat) result.1 reg ∧
    best = .ofRegion reg result.1 ∧ result.2.2 = 2 * reg.groupCount

/-- Whatever a search that succeeds is called with, and in whatever session, its result is enough to
have the store's answer again. -/
theorem conveyed_of_succeeded {s : Session} {q : Query} {w : Option Written}
    (h : (s.perform (.findBest q)).1 = .answered .succeeded w) :
    ∃ handles best result, w = some (.best result) ∧ Conveyed s q handles best result := by
  obtain ⟨handles, best, hhandles, hbest, rfl⟩ := exists_best_of_succeeded h
  have hstart : (max q.start 0).toNat = q.start.toNat := by omega
  rw [← hstart] at hbest
  refine ⟨handles, best, best.handOver, rfl, ?_⟩
  obtain ⟨ps, hres, ⟨rfl, -⟩ | ⟨i, reg, hearliest, rfl⟩⟩ := Registry.findBest_ok_spec hbest
  · exact {
      decoded := hhandles
      answered := hbest
      recovered := rfl
      nothing_iff := iff_of_true rfl rfl
      index_lt := fun hne => absurd rfl hne
      offsets := fun hne => absurd rfl hne
      two_le := fun hne => absurd rfl hne
      winner := fun hne => absurd rfl hne }
  · have hpos : 0 < reg.groupCount := hearliest.1.2
    have hmatch := FlatMatch.isMatch_ofRegion hpos i
    have hgiven := FlatMatch.handOver_ofRegion hpos i
    have hsome : FlatMatch.ofRegion reg i ≠ .noMatch := fun hnone => by
      rw [hnone] at hmatch
      cases hmatch
    have hindex : i < q.count.toNat := by
      have hlt := hearliest.1.lt_length
      rw [Registry.ownOutcomes, List.length_map, hres.length_eq,
        length_of_handlesOf? hhandles] at hlt
      exact Nat.lt_of_lt_of_le hlt q.length_raws_le
    have hrecovered := FlatMatch.ofHandedOver_handOver (.inl hmatch)
    rw [hgiven] at hrecovered ⊢
    exact {
      decoded := hhandles
      answered := hbest
      recovered := hrecovered
      nothing_iff := iff_of_false (by simp) hsome
      index_lt := fun _ => Int.lt_toNat.mp hindex
      offsets := fun _ => rfl
      two_le := fun _ => Nat.le_mul_of_pos_right 2 hpos
      winner := fun _ => ⟨ps, reg, hres, hearliest, rfl, rfl⟩ }

/-- What a query gets. -/
def Query.given (q : Query) (s : Session) : Answer × Option Result :=
  (s.findBest q.patterns q.count q.text q.length q.start q.hasOutput).1.value

theorem reply_findBest (s : Session) (q : Query) : (s.perform (.findBest q)).1 =
    .answered (q.given s).1 ((q.given s).2.bind (some ∘ .best)) := rfl

/-- A search of no text, from before its beginning on, with the first pattern there is. -/
def queryOfNothing : Query where
  patterns := some [1]
  count := 1
  text := none
  length := 0
  start := -3
  hasOutput := true

/-- An empty match of the first pattern at the first place is not taken for no match. -/
theorem conveyed_empty_match :
    ((initial.after [.compile (some "".toUTF8) true]).perform (.findBest queryOfNothing)).1 =
      .answered .succeeded (some (.best (0, some #[0, 0], 2))) ∧
    ∃ handles best result,
      (some (.best (0, some #[0, 0], 2)) : Option Written) = some (.best result) ∧
      Conveyed (initial.after [.compile (some "".toUTF8) true]) queryOfNothing handles best
        result := by
  have hanswer : (queryOfNothing.given (initial.after [.compile (some "".toUTF8) true])).1 =
      .succeeded := by decide +kernel
  have hresult : (queryOfNothing.given (initial.after [.compile (some "".toUTF8) true])).2 =
      some (0, some #[0, 0], 2) := by decide +kernel
  have hreply := reply_findBest (initial.after [.compile (some "".toUTF8) true]) queryOfNothing
  rw [hanswer, hresult] at hreply
  exact ⟨hreply, conveyed_of_succeeded hreply⟩

end Session

end Leftmost
