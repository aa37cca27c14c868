/-!
# Leftmost.Checked

Arithmetic of 64-bit words that is checked.  A result that does not fit is no result: the program
stops there and answers nothing.
-/

namespace Leftmost

/-- What a program stops at: a calculation whose result does not fit into 64 bits. -/
inductive Overflow where
  | product
  | sum
  | difference
deriving DecidableEq, Repr

namespace Checked

def mul (a b : UInt64) : Except Overflow UInt64 :=
  if a.toNat * b.toNat < UInt64.size then .ok (a * b) else .error .product

def add (a b : UInt64) : Except Overflow UInt64 :=
  if a.toNat + b.toNat < UInt64.size then .ok (a + b) else .error .sum

def sub (a b : UInt64) : Except Overflow UInt64 :=
  if b ≤ a then .ok (a - b) else .error .difference

variable {a b : UInt64}

/-- A product that fits is the product of the numbers. -/
theorem mul_of_lt (h : a.toNat * b.toNat < UInt64.size) :
    ∃ c, mul a b = .ok c ∧ c.toNat = a.toNat * b.toNat := by
  refine ⟨a * b, if_pos h, ?_⟩
  rw [UInt64.toNat_mul]
  exact Nat.mod_eq_of_lt h

theorem mul_of_le (h : UInt64.size ≤ a.toNat * b.toNat) : mul a b = .error .product :=
  if_neg (Nat.not_lt.mpr h)

theorem add_of_lt (h : a.toNat + b.toNat < UInt64.size) :
    ∃ c, add a b = .ok c ∧ c.toNat = a.toNat + b.toNat := by
  refine ⟨a + b, if_pos h, ?_⟩
  rw [UInt64.toNat_add]
  exact Nat.mod_eq_of_lt h

theorem sub_of_le (h : b ≤ a) : sub a b = .ok (a - b) := if_pos h

theorem sub_of_lt (h : a < b) : sub a b = .error .difference := if_neg (UInt64.not_le.mpr h)

end Checked

end Leftmost
