import Leftmost.Text.Indexed

/-!
# Leftmost.Proofs.Text.Table

The search in a table of offsets. The entries of such a table ascend from 0, and no value stands
there more than twice: a character comes from one unit or two.

* `countBelow_spec` — halving the span finds where the entries stop being below an offset;
* `stepBack_of_le`, `stepBack_of_gt` — stepping back goes at most one entry back;
* `firstEntryAt_spec` — what is found is the first entry with the greatest value not above the
  offset.
-/

namespace Leftmost

namespace IndexedText

/-- A table whose entries ascend from 0, each value standing there once or twice. -/
structure Stepped (table : Array UInt32) : Prop where
  size_pos : 0 < table.size
  entry_zero : entry table 0 = 0
  entry_le : ∀ i j, i ≤ j → j < table.size → entry table i ≤ entry table j
  entry_lt : ∀ i, i + 2 < table.size → entry table i < entry table (i + 2)

/-- The first of `n` values that is the greatest of those not above an offset. -/
structure IsFirstNotAbove (f : Nat → Nat) (n offset i : Nat) : Prop where
  lt : i < n
  le_offset : f i ≤ offset
  greatest : ∀ j < n, f j ≤ offset → f j ≤ f i
  first : ∀ j < i, f j < f i

/-- There is only one such value. -/
theorem IsFirstNotAbove.unique {f : Nat → Nat} {n offset i j : Nat}
    (hi : IsFirstNotAbove f n offset i) (hj : IsFirstNotAbove f n offset j) : i = j := by
  have hle := hi.greatest j hj.lt hj.le_offset
  have hge := hj.greatest i hi.lt hi.le_offset
  rcases Nat.lt_trichotomy i j with hlt | heq | hgt
  · have := hj.first i hlt
    omega
  · exact heq
  · have := hi.first j hgt
    omega

/-- Only the values count. -/
theorem IsFirstNotAbove.congr {f g : Nat → Nat} {n offset i : Nat} (hfg : ∀ j < n, f j = g j)
    (h : IsFirstNotAbove f n offset i) : IsFirstNotAbove g n offset i := by
  have hi := hfg i h.lt
  refine ⟨h.lt, hi ▸ h.le_offset, fun j hj hle => ?_, fun j hj => ?_⟩
  · rw [← hfg j hj, ← hi]
    exact h.greatest j hj (hfg j hj ▸ hle)
  · rw [← hfg j (Nat.lt_trans hj h.lt), ← hi]
    exact h.first j hj

/-- Below the place found all entries are below the offset, from it on none is. -/
theorem countBelow_spec {table : Array UInt32} (st : Stepped table) (offset lo hi : Nat)
    (hle : lo ≤ hi) (hsize : hi ≤ table.size) (hlo : ∀ i < lo, entry table i < offset)
    (hhi : ∀ i, hi ≤ i → i < table.size → offset ≤ entry table i) :
    countBelow table offset lo hi ≤ table.size ∧
      (∀ i < countBelow table offset lo hi, entry table i < offset) ∧
      (∀ i, countBelow table offset lo hi ≤ i → i < table.size → offset ≤ entry table i) := by
  fun_induction countBelow table offset lo hi with
  | case1 lo hi hlt mid hmid ih =>
      have hmlt : mid < hi := by omega
      refine ih hmlt hsize (fun i hi => ?_) hhi
      have := st.entry_le i mid (by omega) (by omega)
      omega
  | case2 lo hi hlt mid hmid ih =>
      refine ih (by omega) (by omega) hlo fun i hi hisize => ?_
      have := st.entry_le mid i hi hisize
      omega
  | case3 lo hi hnlt =>
      have heq : lo = hi := by omega
      exact ⟨by omega, hlo, heq ▸ hhi⟩

/-- An entry not above the offset is where stepping back stops. -/
theorem stepBack_of_le {table : Array UInt32} {offset low : Nat} (hlt : low < table.size)
    (hle : entry table low ≤ offset) : stepBack table offset low = low := by
  cases low with
  | zero => rfl
  | succ low => rw [stepBack, if_neg (by omega)]

/-- From behind the table, or from an entry above the offset, one step is taken. -/
theorem stepBack_of_gt {table : Array UInt32} {offset low : Nat} (hsize : low + 1 ≤ table.size)
    (hgt : table.size = low + 1 ∨ offset < entry table (low + 1))
    (hle : entry table low ≤ offset) : stepBack table offset (low + 1) = low := by
  rw [stepBack, if_pos (by omega)]
  exact stepBack_of_le (by omega) hle

/-- Stepping back from where the search ended reaches an entry with the greatest value not above
the offset. -/
theorem stepBack_countBelow_spec {table : Array UInt32} (st : Stepped table) (offset : Nat) :
    let low := stepBack table offset (countBelow table offset 0 table.size)
    low < table.size ∧ entry table low ≤ offset ∧
      ∀ j < table.size, entry table j ≤ offset → entry table j ≤ entry table low := by
  obtain ⟨hsize, hbelow, habove⟩ := countBelow_spec st offset 0 table.size
    (Nat.zero_le _) (Nat.le_refl _) (by omega) (by omega)
  have hpos := st.size_pos
  have hzero := st.entry_zero
  generalize countBelow table offset 0 table.size = n at hsize hbelow habove ⊢
  by_cases hat : n < table.size ∧ entry table n = offset
  · -- The offset stands in the table.
    obtain ⟨hn, heq⟩ := hat
    rw [stepBack_of_le hn (Nat.le_of_eq heq)]
    exact ⟨hn, Nat.le_of_eq heq, fun j _ hj => heq ▸ hj⟩
  · -- The entry before `n` is the last that is not above the offset.
    have hnpos : n ≠ 0 := fun h0 => by
      subst h0
      have := habove 0 (Nat.le_refl 0) hpos
      omega
    obtain ⟨low, rfl⟩ : ∃ low, n = low + 1 := ⟨n - 1, by omega⟩
    have hlow : entry table low < offset := hbelow low (by omega)
    have hgt : table.size = low + 1 ∨ offset < entry table (low + 1) := by
      rcases Nat.lt_or_eq_of_le hsize with hlt | heq
      · have := habove (low + 1) (Nat.le_refl _) hlt
        omega
      · exact .inl heq.symm
    rw [stepBack_of_gt hsize hgt (Nat.le_of_lt hlow)]
    refine ⟨hsize, Nat.le_of_lt hlow, fun j hj hle => st.entry_le j low ?_ hsize⟩
    -- From `low + 1` on every entry is above the offset.
    refine Nat.le_of_not_lt fun hlt => ?_
    have := st.entry_le (low + 1) j hlt hj
    omega

/-- Of an entry and the one before it, the first that holds the value. -/
theorem Stepped.isFirstNotAbove {table : Array UInt32} (st : Stepped table) {offset low : Nat}
    (hlow : low < table.size) (hle : entry table low ≤ offset)
    (hgreatest : ∀ j < table.size, entry table j ≤ offset → entry table j ≤ entry table low) :
    IsFirstNotAbove (entry table) table.size offset
      (if 0 < low ∧ entry table low = entry table (low - 1) then low - 1 else low) := by
  split
  · next hdup =>
    obtain ⟨hpos, heq⟩ := hdup
    refine ⟨by omega, by omega, fun j hj hj' => heq ▸ hgreatest j hj hj', fun j hj => ?_⟩
    -- A third entry before the two would be below them.
    have hlt := st.entry_lt (low - 2) (by omega)
    have hjle := st.entry_le j (low - 2) (by omega) (by omega)
    rw [show low - 2 + 2 = low by omega] at hlt
    omega
  · next hdup =>
    refine ⟨hlow, hle, hgreatest, fun j hj => ?_⟩
    have hjle := st.entry_le j (low - 1) (by omega) (by omega)
    have hprev := st.entry_le (low - 1) low (by omega) hlow
    omega

/-- What is found is the first entry with the greatest value not above the offset. -/
theorem firstEntryAt_spec {table : Array UInt32} (st : Stepped table) (offset : Nat) :
    IsFirstNotAbove (entry table) table.size offset (firstEntryAt table offset) := by
  obtain ⟨hlow, hle, hgreatest⟩ := stepBack_countBelow_spec st offset
  exact st.isFirstNotAbove hlow hle hgreatest

end IndexedText

end Leftmost
