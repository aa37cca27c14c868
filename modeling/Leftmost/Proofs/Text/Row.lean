import Mathlib.Order.Bounds.Defs
import Mathlib.Order.Monotone.Defs
import Mathlib.Order.Nat

/-!
# Leftmost.Proofs.Text.Row

Characters in a row, measured in two ways: in bytes and in the units that they came from. A
position in one measure belongs to a character, and goes to where that character begins in the
other measure:

* `byteOf` and `unitOf` — the two maps, by recursion on the row;
* `byteOf_eq`, `unitOf_eq` — each gives the length of the characters before the one concerned;
* `byteOf_take`, `unitOf_take` — on the beginnings of characters they undo each other;
* `isGreatest_byteOf_unitOf` — from any byte, there and back leads to the last beginning before it;
* `byteOf_append`, `unitOf_append` — rows behind one another are measured one by one.
-/

namespace Leftmost

/-- Characters in a row, each with the number of units it came from. -/
abbrev Row := List (Char × Nat)

namespace Row

/-- Length in bytes. -/
def byteLength : Row → Nat
  | [] => 0
  | c :: cs => c.1.utf8Size + byteLength cs

/-- Length in units. -/
def unitLength : Row → Nat
  | [] => 0
  | c :: cs => c.2 + unitLength cs

/-- A byte belongs to the character at a position in the row. -/
def HoldsByte (cs : Row) (j b : Nat) : Prop :=
  byteLength (cs.take j) ≤ b ∧ b < byteLength (cs.take (j + 1))

/-- A unit belongs to the character at a position in the row. -/
def HoldsUnit (cs : Row) (j u : Nat) : Prop :=
  unitLength (cs.take j) ≤ u ∧ u < unitLength (cs.take (j + 1))

/-- Every character came from one unit or two. -/
def Proper (cs : Row) : Prop := ∀ c ∈ cs, c.2 = 1 ∨ c.2 = 2

/-- A character is one byte and came from one unit. -/
def IsPlain (c : Char × Nat) : Prop := c.1.utf8Size = 1 ∧ c.2 = 1

/-- The byte where the character holding a unit begins; from the end on, the length in bytes. -/
def byteOf : Row → Nat → Nat
  | [], _ => 0
  | (c, w) :: cs, u => if u < w then 0 else c.utf8Size + byteOf cs (u - w)

/-- The unit where the character holding a byte begins; from the end on, the length in units. -/
def unitOf : Row → Nat → Nat
  | [], _ => 0
  | (c, w) :: cs, b => if b < c.utf8Size then 0 else w + unitOf cs (b - c.utf8Size)

/-! ## Lengths -/

@[simp] theorem byteLength_nil : byteLength [] = 0 := rfl

@[simp] theorem byteLength_cons (c : Char × Nat) (cs : Row) :
    byteLength (c :: cs) = c.1.utf8Size + byteLength cs := rfl

@[simp] theorem byteLength_append (cs ds : Row) :
    byteLength (cs ++ ds) = byteLength cs + byteLength ds := by
  induction cs with
  | nil => simp
  | cons c cs ih =>
      rw [List.cons_append, byteLength_cons, byteLength_cons, ih]
      omega

@[simp] theorem unitLength_nil : unitLength [] = 0 := rfl

@[simp] theorem unitLength_cons (c : Char × Nat) (cs : Row) :
    unitLength (c :: cs) = c.2 + unitLength cs := rfl

@[simp] theorem unitLength_append (cs ds : Row) :
    unitLength (cs ++ ds) = unitLength cs + unitLength ds := by
  induction cs with
  | nil => simp
  | cons c cs ih =>
      rw [List.cons_append, unitLength_cons, unitLength_cons, ih]
      omega

/-- What a longer beginning has more than a shorter one. -/
theorem take_eq_append {α : Type} (cs : List α) {i j : Nat} (h : i ≤ j) :
    cs.take j = cs.take i ++ (cs.take j).drop i := by
  have := List.take_append_drop i (cs.take j)
  rwa [List.take_take, Nat.min_eq_left h, eq_comm] at this

theorem byteLength_take_le (cs : Row) {i j : Nat} (h : i ≤ j) :
    byteLength (cs.take i) ≤ byteLength (cs.take j) := by
  rw [take_eq_append cs h, byteLength_append]
  omega

theorem unitLength_take_le (cs : Row) {i j : Nat} (h : i ≤ j) :
    unitLength (cs.take i) ≤ unitLength (cs.take j) := by
  rw [take_eq_append cs h, unitLength_append]
  omega

theorem byteLength_take_succ {cs : Row} {j : Nat} (hj : j < cs.length) :
    byteLength (cs.take (j + 1)) = byteLength (cs.take j) + cs[j].1.utf8Size := by
  rw [List.take_add_one, List.getElem?_eq_getElem hj, byteLength_append]
  simp

/-! ## The two maps -/

theorem byteOf_cons_of_lt {c : Char} {w u : Nat} (h : u < w) (cs : Row) :
    byteOf ((c, w) :: cs) u = 0 := by
  rw [byteOf, if_pos h]

theorem byteOf_cons_add (c : Char) (w : Nat) (cs : Row) (u : Nat) :
    byteOf ((c, w) :: cs) (w + u) = c.utf8Size + byteOf cs u := by
  rw [byteOf, if_neg (by omega), Nat.add_sub_cancel_left]

theorem unitOf_cons_add (c : Char) (w : Nat) (cs : Row) (b : Nat) :
    unitOf ((c, w) :: cs) (c.utf8Size + b) = w + unitOf cs b := by
  rw [unitOf, if_neg (by omega), Nat.add_sub_cancel_left]

theorem unitOf_cons_zero (c : Char × Nat) (cs : Row) : unitOf (c :: cs) 0 = 0 := by
  rw [unitOf, if_pos c.1.utf8Size_pos]

theorem byteOf_of_le {cs : Row} {u : Nat} (h : unitLength cs ≤ u) :
    byteOf cs u = byteLength cs := by
  induction cs generalizing u with
  | nil => rfl
  | cons c cs ih =>
      rw [unitLength_cons] at h
      rw [byteOf, if_neg (by omega), ih (by omega), byteLength_cons]

theorem unitOf_of_le {cs : Row} {b : Nat} (h : byteLength cs ≤ b) :
    unitOf cs b = unitLength cs := by
  induction cs generalizing b with
  | nil => rfl
  | cons c cs ih =>
      rw [byteLength_cons] at h
      rw [unitOf, if_neg (by omega), ih (by omega), unitLength_cons]

/-- A unit goes to where its character begins. -/
theorem byteOf_eq {cs : Row} {u : Nat} (h : u < unitLength cs) :
    ∃ j, HoldsUnit cs j u ∧ byteOf cs u = byteLength (cs.take j) := by
  induction cs generalizing u with
  | nil => simp at h
  | cons c cs ih =>
      obtain ⟨c, w⟩ := c
      rw [unitLength_cons] at h
      by_cases hu : u < w
      · exact ⟨0, by simp [HoldsUnit, hu], by simp [byteOf, hu]⟩
      · obtain ⟨j, ⟨hlo, hhi⟩, hj⟩ := ih (u := u - w) (by omega)
        refine ⟨j + 1, ?_, by simp [byteOf, hu, hj]⟩
        simp only [HoldsUnit, List.take_succ_cons, unitLength_cons]
        omega

/-- A byte goes to where its character begins. -/
theorem unitOf_eq {cs : Row} {b : Nat} (h : b < byteLength cs) :
    ∃ j, HoldsByte cs j b ∧ unitOf cs b = unitLength (cs.take j) := by
  induction cs generalizing b with
  | nil => simp at h
  | cons c cs ih =>
      obtain ⟨c, w⟩ := c
      simp only [byteLength_cons] at h
      by_cases hb : b < c.utf8Size
      · exact ⟨0, by simp [HoldsByte, hb], by simp [unitOf, hb]⟩
      · obtain ⟨j, ⟨hlo, hhi⟩, hj⟩ := ih (b := b - c.utf8Size) (by omega)
        refine ⟨j + 1, ?_, by simp [unitOf, hb, hj]⟩
        simp only [HoldsByte, List.take_succ_cons, byteLength_cons]
        omega

/-- The beginning of a character in units goes to its beginning in bytes. -/
theorem byteOf_take {cs : Row} (hcs : Proper cs) (j : Nat) :
    byteOf cs (unitLength (cs.take j)) = byteLength (cs.take j) := by
  induction cs generalizing j with
  | nil => simp [byteOf]
  | cons c cs ih =>
      have hw : 0 < c.2 := by rcases hcs c (by simp) with h | h <;> omega
      have htail : Proper cs := fun d hd => hcs d (by simp [hd])
      cases j with
      | zero => exact byteOf_cons_of_lt hw cs
      | succ j =>
          rw [List.take_succ_cons, unitLength_cons, byteOf_cons_add, ih htail, byteLength_cons]

/-- The beginning of a character in bytes goes to its beginning in units. -/
theorem unitOf_take (cs : Row) (j : Nat) :
    unitOf cs (byteLength (cs.take j)) = unitLength (cs.take j) := by
  induction cs generalizing j with
  | nil => simp [unitOf]
  | cons c cs ih =>
      cases j with
      | zero => exact unitOf_cons_zero c cs
      | succ j =>
          rw [List.take_succ_cons, byteLength_cons, unitOf_cons_add, ih, unitLength_cons]

theorem monotone_byteOf (cs : Row) : Monotone (byteOf cs) := by
  intro u v huv
  induction cs generalizing u v with
  | nil => exact Nat.le_refl 0
  | cons c cs ih =>
      obtain ⟨c, w⟩ := c
      simp only [byteOf]
      split
      · exact Nat.zero_le _
      · rw [if_neg (by omega)]
        have := @ih (u - w) (v - w) (by omega)
        omega

theorem monotone_unitOf (cs : Row) : Monotone (unitOf cs) := by
  intro a b hab
  induction cs generalizing a b with
  | nil => exact Nat.le_refl 0
  | cons c cs ih =>
      obtain ⟨c, w⟩ := c
      simp only [unitOf]
      split
      · exact Nat.zero_le _
      · rw [if_neg (by omega)]
        have := @ih (a - c.utf8Size) (b - c.utf8Size) (by omega)
        omega

/-! ## There and back -/

/-- Whatever the unit, a character or the end is where it goes. -/
theorem exists_byteOf_eq (cs : Row) (u : Nat) : ∃ j, byteOf cs u = byteLength (cs.take j) := by
  by_cases hu : u < unitLength cs
  · obtain ⟨j, -, hj⟩ := byteOf_eq hu
    exact ⟨j, hj⟩
  · exact ⟨cs.length, by rw [byteOf_of_le (Nat.not_lt.mp hu), List.take_length]⟩

/-- Whatever the byte, a character or the end is where it goes. -/
theorem exists_unitOf_eq (cs : Row) (b : Nat) : ∃ j, unitOf cs b = unitLength (cs.take j) := by
  by_cases hb : b < byteLength cs
  · obtain ⟨j, -, hj⟩ := unitOf_eq hb
    exact ⟨j, hj⟩
  · exact ⟨cs.length, by rw [unitOf_of_le (Nat.not_lt.mp hb), List.take_length]⟩

theorem byteOf_unitOf_byteOf {cs : Row} (hcs : Proper cs) (u : Nat) :
    byteOf cs (unitOf cs (byteOf cs u)) = byteOf cs u := by
  obtain ⟨j, hj⟩ := exists_byteOf_eq cs u
  rw [hj, unitOf_take, byteOf_take hcs]

theorem unitOf_byteOf_unitOf {cs : Row} (hcs : Proper cs) (b : Nat) :
    unitOf cs (byteOf cs (unitOf cs b)) = unitOf cs b := by
  obtain ⟨j, hj⟩ := exists_unitOf_eq cs b
  rw [hj, byteOf_take hcs, unitOf_take]

/-- A byte that goes to units and back ends on the last beginning of a character not behind it, or
on the end. -/
theorem isGreatest_byteOf_unitOf {cs : Row} (hcs : Proper cs) (b : Nat) :
    IsGreatest {p | (∃ j, p = byteLength (cs.take j)) ∧ p ≤ min b (byteLength cs)}
      (byteOf cs (unitOf cs b)) := by
  by_cases hb : b < byteLength cs
  · obtain ⟨j, ⟨hlo, hhi⟩, hj⟩ := unitOf_eq hb
    rw [hj, byteOf_take hcs]
    refine ⟨⟨⟨j, rfl⟩, by omega⟩, ?_⟩
    rintro p ⟨⟨i, rfl⟩, hp⟩
    -- A later beginning would be behind `b`.
    refine byteLength_take_le cs (Nat.le_of_not_lt fun hlt => ?_)
    have := byteLength_take_le cs (show j + 1 ≤ i from hlt)
    omega
  · rw [unitOf_of_le (Nat.not_lt.mp hb), byteOf_of_le (Nat.le_refl _)]
    refine ⟨⟨⟨cs.length, by rw [List.take_length]⟩, by omega⟩, ?_⟩
    rintro p ⟨-, hp⟩
    omega

/-! ## Rows behind one another -/

theorem byteOf_append (cs ds : Row) (u : Nat) : byteOf (cs ++ ds) u =
    if u < unitLength cs then byteOf cs u else byteLength cs + byteOf ds (u - unitLength cs) := by
  induction cs generalizing u with
  | nil => simp
  | cons c cs ih =>
      obtain ⟨c, w⟩ := c
      simp only [List.cons_append, byteOf, unitLength_cons, byteLength_cons, ih]
      by_cases hw : u < w
      · simp [hw, Nat.lt_add_right (unitLength cs) hw]
      · by_cases hu : u - w < unitLength cs
        · simp [hw, hu, show u < w + unitLength cs by omega]
        · simp only [if_neg hw, if_neg hu, if_neg (show ¬u < w + unitLength cs by omega),
            Nat.sub_sub]
          omega

theorem unitOf_append (cs ds : Row) (b : Nat) : unitOf (cs ++ ds) b =
    if b < byteLength cs then unitOf cs b else unitLength cs + unitOf ds (b - byteLength cs) := by
  induction cs generalizing b with
  | nil => simp
  | cons c cs ih =>
      obtain ⟨c, w⟩ := c
      simp only [List.cons_append, unitOf, unitLength_cons, byteLength_cons, ih]
      by_cases hc : b < c.utf8Size
      · simp [hc, Nat.lt_add_right (byteLength cs) hc]
      · by_cases hb : b - c.utf8Size < byteLength cs
        · simp [hc, hb, show b < c.utf8Size + byteLength cs by omega]
        · simp only [if_neg hc, if_neg hb, if_neg (show ¬b < c.utf8Size + byteLength cs by omega),
            Nat.sub_sub]
          omega

/-! ## Plain characters -/

section

variable {cs : Row} (h : ∀ c ∈ cs, IsPlain c)
include h

theorem byteLength_of_plain : byteLength cs = cs.length := by
  induction cs with
  | nil => rfl
  | cons c cs ih =>
      have hc := h c (by simp)
      rw [byteLength_cons, hc.1, ih fun d hd => h d (by simp [hd]), List.length_cons]
      omega

theorem unitLength_of_plain : unitLength cs = cs.length := by
  induction cs with
  | nil => rfl
  | cons c cs ih =>
      have hc := h c (by simp)
      rw [unitLength_cons, hc.2, ih fun d hd => h d (by simp [hd]), List.length_cons]
      omega

theorem byteOf_of_plain {u : Nat} (hu : u ≤ cs.length) : byteOf cs u = u := by
  induction cs generalizing u with
  | nil => simp at hu; simp [byteOf, hu]
  | cons c cs ih =>
      obtain ⟨c, w⟩ := c
      obtain ⟨hsize, rfl⟩ : c.utf8Size = 1 ∧ w = 1 := h (c, w) (by simp)
      cases u with
      | zero => exact byteOf_cons_of_lt (by omega) cs
      | succ u =>
          rw [Nat.add_comm u 1, byteOf_cons_add, hsize,
            ih (fun d hd => h d (by simp [hd])) (by simpa using hu)]

/-- Plain characters in front keep their units where they are. -/
theorem byteOf_append_of_plain {ds : Row} (hds : Proper ds) {u : Nat} (hu : u ≤ cs.length) :
    byteOf (cs ++ ds) u = u := by
  rw [byteOf_append, unitLength_of_plain h, byteLength_of_plain h]
  split
  · exact byteOf_of_plain h hu
  · rw [show u - cs.length = 0 by omega, show byteOf ds 0 = 0 from byteOf_take hds 0]
    omega

theorem unitOf_of_plain {b : Nat} (hb : b ≤ cs.length) : unitOf cs b = b := by
  induction cs generalizing b with
  | nil => simp at hb; simp [unitOf, hb]
  | cons c cs ih =>
      obtain ⟨c, w⟩ := c
      obtain ⟨hsize, rfl⟩ : c.utf8Size = 1 ∧ w = 1 := h (c, w) (by simp)
      cases b with
      | zero => exact unitOf_cons_zero _ _
      | succ b =>
          have hstep := unitOf_cons_add c 1 cs b
          rw [hsize] at hstep
          rw [Nat.add_comm b 1, hstep, ih (fun d hd => h d (by simp [hd])) (by simpa using hb)]

end

end Row

end Leftmost
