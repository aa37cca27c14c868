import Mathlib.Order.Bounds.Defs
import Leftmost.Proofs.Text.Table

/-!
# Leftmost.Proofs.Text.Probed

Which entries the search in a table reads, and how often it steps back.  To the search a missing entry
is as good as 0, so it is written once more, for any way of reading entries and with its steps back
counted:

* `stepsBack_le_one` — in an ascending table the search steps back once or not at all;
* `firstEntryBy_eq` — where the entries of a table are read as they are, it comes to the same place
  by as many steps, whatever would come of reading a missing one;
* `findsFirst_firstEntryAt` — so it also comes there if a missing entry ends it, and the place is the
  first that holds the greatest value not above the offset.
-/

namespace Leftmost

namespace IndexedText

/-! ## Stepping back -/

/-- How many steps back the search takes. Each leads to the place before. -/
def stepsBack (table : Array UInt32) (offset : Nat) : Nat :=
  countBelow table offset 0 table.size - stepBack table offset (countBelow table offset 0 table.size)

theorem stepBack_le (table : Array UInt32) (offset low : Nat) :
    stepBack table offset low ≤ low := by
  fun_induction stepBack table offset low with
  | case1 => exact Nat.le_refl 0
  | case2 low hdue ih => exact Nat.le_succ_of_le ih
  | case3 low hdue => exact Nat.le_refl _

/-- Stepping back ends at the front or at an entry that is not missing. -/
theorem stepBack_lt_size {table : Array UInt32} {offset low : Nat}
    (hpos : 0 < stepBack table offset low) : stepBack table offset low < table.size := by
  fun_induction stepBack table offset low with
  | case1 => exact absurd hpos (Nat.lt_irrefl 0)
  | case2 low hdue ih => exact ih hpos
  | case3 low hdue => omega

/-- The last entry that is below the offset is as far back as there is reason to step. -/
theorem stepsBack_le_one {table : Array UInt32} (st : Stepped table) (offset : Nat) :
    stepsBack table offset ≤ 1 := by
  obtain ⟨hsize, hbelow, -⟩ := countBelow_spec st offset 0 table.size
    (Nat.zero_le _) (Nat.le_refl _) (by omega) (by omega)
  unfold stepsBack
  generalize countBelow table offset 0 table.size = n at hsize hbelow ⊢
  cases n with
  | zero => omega
  | succ low =>
      have hlow : stepBack table offset low = low :=
        stepBack_of_le hsize (Nat.le_of_lt (hbelow low (Nat.lt_succ_self low)))
      rw [stepBack, hlow]
      split
      · omega
      · omega

/-! ## Any way of reading -/

section

variable {m : Type → Type} [Monad m] (read : Nat → m Nat) (offset : Nat)

/-- Halves the span from `lo` to `hi` as `countBelow` does. -/
def countBelowBy (lo hi : Nat) : m Nat :=
  if lo < hi then do
    if (← read ((lo + hi) / 2)) < offset then countBelowBy ((lo + hi) / 2 + 1) hi
    else countBelowBy lo ((lo + hi) / 2)
  else return lo
termination_by hi - lo
decreasing_by all_goals omega

/-- Whether a place is behind a table of so many entries, or else its entry is above `offset`. -/
def isBeyondBy (size low : Nat) : m Bool :=
  if size ≤ low then return true else return offset < (← read low)

/-- Steps back as `stepBack` does, and counts the steps on. -/
def stepBackBy (size steps : Nat) : Nat → m (Nat × Nat)
  | 0 => return (0, steps)
  | low + 1 => do
    if ← isBeyondBy read offset size (low + 1) then stepBackBy size (steps + 1) low
    else return (low + 1, steps)

/-- The place before, if its entry is the same. -/
def firstOfTwoBy (low : Nat) : m Nat :=
  if 0 < low then do
    if (← read low) = (← read (low - 1)) then return low - 1 else return low
  else return low

/-- Searches a table of so many entries as `firstEntryAt` does, and knows no more of it than is read.
Gives the place, and how many steps back it took. -/
def firstEntryBy (size : Nat) : m (Nat × Nat) := do
  let below ← countBelowBy read offset 0 size
  let (low, steps) ← stepBackBy read offset size 0 below
  return (← firstOfTwoBy read low, steps)

end

/-! ## Reading entries as they are -/

section

variable {m : Type → Type} [Monad m] [LawfulMonad m] {table : Array UInt32} {read : Nat → m Nat}
  (hread : ∀ i < table.size, read i = pure (entry table i)) (offset : Nat)
include hread

theorem countBelowBy_eq {lo hi : Nat} (hhi : hi ≤ table.size) :
    countBelowBy read offset lo hi = pure (countBelow table offset lo hi) := by
  fun_induction countBelow table offset lo hi with
  | case1 lo hi hlt mid hmid ih =>
      rw [countBelowBy, if_pos hlt, hread mid (by omega), pure_bind, if_pos hmid, ih hhi]
  | case2 lo hi hlt mid hmid ih =>
      rw [countBelowBy, if_pos hlt, hread mid (by omega), pure_bind, if_neg hmid, ih (by omega)]
  | case3 lo hi hnlt => rw [countBelowBy, if_neg hnlt]

theorem isBeyondBy_eq (low : Nat) : isBeyondBy read offset table.size low =
    pure (decide (table.size ≤ low ∨ offset < entry table low)) := by
  unfold isBeyondBy
  split
  · next hle => simp [hle]
  · next hlt =>
    rw [hread low (Nat.lt_of_not_le hlt)]
    simp [hlt]

/-- The steps counted are as many as lie between where stepping back begins and where it ends. -/
theorem stepBackBy_eq (steps low : Nat) : stepBackBy read offset table.size steps low =
    pure (stepBack table offset low, steps + (low - stepBack table offset low)) := by
  fun_induction stepBack table offset low generalizing steps with
  | case1 => rfl
  | case2 low hdue ih =>
      have hle := stepBack_le table offset low
      rw [stepBackBy, isBeyondBy_eq hread, pure_bind, if_pos (decide_eq_true hdue), ih]
      congr 2
      omega
  | case3 low hdue =>
      rw [stepBackBy, isBeyondBy_eq hread, pure_bind, if_neg (by simpa using hdue), Nat.sub_self]
      rfl

theorem firstOfTwoBy_eq {low : Nat} (hlow : 0 < low → low < table.size) : firstOfTwoBy read low =
    pure (if 0 < low ∧ entry table low = entry table (low - 1) then low - 1 else low) := by
  unfold firstOfTwoBy
  split
  · next hpos =>
    have hlt := hlow hpos
    rw [hread low hlt, pure_bind, hread (low - 1) (by omega), pure_bind]
    simp only [hpos, true_and]
    split
    · rfl
    · rfl
  · next hpos => rw [if_neg (fun h => hpos h.1)]

/-- Where the entries of a table are read as they are, the search comes to the same place by as many
steps back, whatever would come of reading a missing one. -/
theorem firstEntryBy_eq : firstEntryBy read offset table.size =
    pure (firstEntryAt table offset, stepsBack table offset) := by
  rw [firstEntryBy, countBelowBy_eq hread offset (Nat.le_refl _), pure_bind,
    stepBackBy_eq hread, pure_bind, Nat.zero_add]
  dsimp only
  rw [firstOfTwoBy_eq hread stepBack_lt_size, pure_bind]
  rfl

end

/-! ## What is found -/

/-- The first place of the greatest value not above an offset, as a least and a greatest element. -/
theorem IsFirstNotAbove.isLeast {f : Nat → Nat} {n offset i : Nat}
    (h : IsFirstNotAbove f n offset i) :
    IsGreatest {v | (∃ j < n, f j = v) ∧ v ≤ offset} (f i) ∧ IsLeast {j | j < n ∧ f j = f i} i := by
  refine ⟨⟨⟨⟨i, h.lt, rfl⟩, h.le_offset⟩, ?_⟩, ⟨h.lt, rfl⟩, ?_⟩
  · rintro _ ⟨⟨j, hj, rfl⟩, hle⟩
    exact h.greatest j hj hle
  · rintro j ⟨-, heq⟩
    refine Nat.le_of_not_lt fun hlt => ?_
    have := h.first j hlt
    omega

/-- An entry of a table, unless it is missing. -/
def entryAt? (table : Array UInt32) (i : Nat) : Option Nat := table[i]?.map UInt32.toNat

theorem entryAt?_of_lt {table : Array UInt32} {i : Nat} (hi : i < table.size) :
    entryAt? table i = some (entry table i) := by
  simp [entryAt?, entry, hi]

/-- What the search for an offset in a table comes to. -/
structure FindsFirst (table : Array UInt32) (offset : Nat) : Prop where
  /-- In any table at all, it comes to the place that the search of a text finds, by its steps. -/
  faithful : ∀ (other : Array UInt32) (b : Nat),
    Id.run (firstEntryBy (fun i => pure (entry other i)) b other.size) =
      (firstEntryAt other b, stepsBack other b)
  /-- If a missing entry ends the search, it comes there all the same. -/
  reads : firstEntryBy (entryAt? table) offset table.size =
    some (firstEntryAt table offset, stepsBack table offset)
  steps : stepsBack table offset ≤ 1
  /-- It finds the first place of the greatest entry not above the offset. -/
  finds : ∃ v, IsGreatest {v | (∃ i < table.size, entry table i = v) ∧ v ≤ offset} v ∧
    IsLeast {i | i < table.size ∧ entry table i = v} (firstEntryAt table offset)

/-- In a table that ascends from 0, with no value more than twice, the search reads no missing entry,
steps back once at most, and finds the first of the greatest entries not above the offset. -/
theorem findsFirst_firstEntryAt {table : Array UInt32} (st : Stepped table) (offset : Nat) :
    FindsFirst table offset where
  faithful other b := by
    have hread : ∀ i < other.size, (pure (entry other i) : Id Nat) = pure (entry other i) :=
      fun _ _ => rfl
    rw [firstEntryBy_eq hread]
    rfl
  reads := firstEntryBy_eq (fun _ hi => entryAt?_of_lt hi) offset
  steps := stepsBack_le_one st offset
  finds := ⟨_, (firstEntryAt_spec st offset).isLeast⟩

/-- The search for a byte inside a character of two units goes one step back from the entry behind
them, and then to the first of the two. -/
theorem findsFirst_inside_pair :
    Stepped #[0, 2, 2, 6] ∧ FindsFirst #[0, 2, 2, 6] 4 ∧ firstEntryAt #[0, 2, 2, 6] 4 = 1 := by
  have hle : ∀ j < 4, ∀ i ≤ j, entry #[0, 2, 2, 6] i ≤ entry #[0, 2, 2, 6] j := by decide
  have hlt : ∀ i < 2, entry #[0, 2, 2, 6] i < entry #[0, 2, 2, 6] (i + 2) := by decide
  have st : Stepped #[0, 2, 2, 6] :=
    { size_pos := by decide
      entry_zero := by decide
      entry_le := fun i j hij hj => hle j hj i hij
      entry_lt := fun i hi => hlt i (Nat.lt_of_add_lt_add_right hi) }
  exact ⟨st, findsFirst_firstEntryAt st 4, by cbv⟩

end IndexedText

end Leftmost
