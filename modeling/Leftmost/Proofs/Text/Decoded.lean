import Leftmost.Proofs.Text.Row
import Leftmost.Text.Surrogate

/-!
# Leftmost.Proofs.Text.Decoded

The row of characters that a sequence of units decodes to. Facts about it are proved by
`decode_induction`, which takes off the front a unit that stands alone, or a pair.

* `reads_decode` — surrogates are paired from left to right, and those without a partner replaced;
* `unitLength_decode` — no unit is lost;
* `proper_decode` — a character comes from one unit or two;
* `unitOf_byteOf_decode` — a unit goes to its character's bytes and back to itself, unless it is
  the second of a pair;
* `ascii_of_plain`, `not_ascii_of_not_plain` — plain characters in front come from units below
  0x80, and the first that is not plain does not.
-/

namespace Leftmost

namespace Unit16

/-- A position in a sequence of units lies between the two units of a pair. -/
def splitsPair (units : List Unit16) : Nat → Bool
  | 0 => false
  | k + 1 => units[k]?.any isHigh && units[k + 1]?.any isLow

/-- A high surrogate is no low one. -/
theorem isLow_of_isHigh {u : Unit16} (h : u.isHigh = true) : u.isLow = false := by
  simp only [isHigh, isLow, Bool.and_eq_true, decide_eq_true_eq, Bool.and_eq_false_iff,
    decide_eq_false_iff_not] at h ⊢
  left
  exact UInt16.not_le.mpr h.2

theorem pos_of_splitsPair {units : List Unit16} {u : Nat} (h : splitsPair units u = true) :
    0 < u := by
  cases u with
  | zero => cases h
  | succ u => omega

/-- Behind a unit that begins no pair, pairs lie as in the rest. -/
theorem splitsPair_alone {u : Unit16} {rest : List Unit16}
    (h : splitsPair (u :: rest) 1 = false) (k : Nat) :
    splitsPair (u :: rest) (k + 1) = splitsPair rest k := by
  cases k with
  | zero => rw [h, splitsPair]
  | succ k => simp [splitsPair]

/-- Behind a pair, pairs lie as in the rest. -/
theorem splitsPair_pair {u v : Unit16} (hv : v.isLow = true) (rest : List Unit16) (k : Nat) :
    splitsPair (u :: v :: rest) (k + 2) = splitsPair rest k := by
  cases k with
  | zero =>
      have hnot : v.isHigh = false := by
        by_contra h
        rw [isLow_of_isHigh (by simpa using h)] at hv
        cases hv
      simp [splitsPair, hnot]
  | succ k => simp [splitsPair]

/-- What holds of no units, of a unit that begins no pair in front of units of which it holds, and
of a pair in front of such units, holds of all sequences of units. -/
theorem decode_induction {P : List Unit16 → Prop} (nil : P [])
    (alone : ∀ u rest, decode (u :: rest) = (single u, 1) :: decode rest →
      splitsPair (u :: rest) 1 = false → P rest → P (u :: rest))
    (pair : ∀ u v rest, u.isHigh = true → v.isLow = true →
      decode (u :: v :: rest) = (Unit16.pair u v, 2) :: decode rest → P rest →
      P (u :: v :: rest)) : ∀ units, P units
  | [] => nil
  | [u] => alone u [] (by simp) (by simp [splitsPair]) nil
  | u :: v :: rest => by
      by_cases h : (u.isHigh && v.isLow) = true
      · obtain ⟨hu, hv⟩ := Bool.and_eq_true_iff.mp h
        exact pair u v rest hu hv (decode_pair h rest) (decode_induction nil alone pair rest)
      · refine alone u (v :: rest) (decode_alone h rest) ?_
          (decode_induction nil alone pair (v :: rest))
        simpa [splitsPair] using h

/-! ## Reading from left to right -/

/-- Characters that units read as, from left to right. -/
inductive Reads : List Unit16 → Row → Prop where
  | nil : Reads [] []
  /-- A high surrogate and a low one behind it are one character. -/
  | pair {u v : Unit16} {rest : List Unit16} {c : Char} {cs : Row} : u.isHigh = true →
      v.isLow = true → c.toNat = 0x10000 + (u.toNat - 0xd800) * 0x400 + (v.toNat - 0xdc00) →
      Reads rest cs → Reads (u :: v :: rest) ((c, 2) :: cs)
  /-- Any other surrogate is replaced. -/
  | unpaired {u : Unit16} {rest : List Unit16} {cs : Row} : (u.isHigh || u.isLow) = true →
      splitsPair (u :: rest) 1 = false → Reads rest cs → Reads (u :: rest) (('\ufffd', 1) :: cs)
  /-- Any other unit is the character of its value. -/
  | alone {u : Unit16} {rest : List Unit16} {c : Char} {cs : Row} : (u.isHigh || u.isLow) = false →
      c.toNat = u.toNat → Reads rest cs → Reads (u :: rest) ((c, 1) :: cs)

theorem toNat_ofNat {n : Nat} (h : n.isValidChar) : (Char.ofNat n).toNat = n := by
  rw [Char.ofNat, dif_pos h]
  rfl

theorem isSurrogate_iff (u : Unit16) :
    (u.isHigh || u.isLow) = true ↔ 0xd800 ≤ u.toNat ∧ u.toNat < 0xe000 := by
  simp only [isHigh, isLow, Bool.or_eq_true, Bool.and_eq_true, decide_eq_true_eq,
    UInt16.le_iff_toNat_le, UInt16.lt_iff_toNat_lt, UInt16.reduceToNat]
  omega

/-- A unit that is no surrogate is a character. -/
theorem toNat_single {u : Unit16} (h : (u.isHigh || u.isLow) = false) :
    (single u).toNat = u.toNat := by
  have hnot := mt (isSurrogate_iff u).mpr (by simp [h])
  have hlt := u.toNat_lt
  rw [single, h, if_neg (by simp)]
  exact toNat_ofNat (by unfold Nat.isValidChar; omega)

/-- So are two surrogates that make a pair. -/
theorem toNat_pair {u v : Unit16} (hu : u.isHigh = true) (hv : v.isLow = true) :
    (pair u v).toNat = 0x10000 + (u.toNat - 0xd800) * 0x400 + (v.toNat - 0xdc00) := by
  simp only [isHigh, isLow, Bool.and_eq_true, decide_eq_true_eq, UInt16.le_iff_toNat_le,
    UInt16.lt_iff_toNat_lt, UInt16.reduceToNat] at hu hv
  exact toNat_ofNat (by unfold Nat.isValidChar; omega)

/-- Decoding gives the characters that the units read as. -/
theorem reads_decode (units : List Unit16) : Reads units (decode units) := by
  induction units using decode_induction with
  | nil => simpa using Reads.nil
  | alone u rest hdec hu ih =>
      rw [hdec]
      cases h : u.isHigh || u.isLow with
      | true =>
          rw [single, h, if_pos rfl]
          exact .unpaired h hu ih
      | false => exact .alone h (toNat_single h) ih
  | pair u v rest hu hv hdec ih =>
      rw [hdec]
      exact .pair hu hv (toNat_pair hu hv) ih

/-- Every unit belongs to a character. -/
theorem unitLength_decode (units : List Unit16) :
    Row.unitLength (decode units) = units.length := by
  induction units using decode_induction with
  | nil => simp
  | alone u rest hdec _ ih => rw [hdec, Row.unitLength_cons, ih, List.length_cons]; omega
  | pair u v rest _ _ hdec ih =>
      rw [hdec, Row.unitLength_cons, ih, List.length_cons, List.length_cons]
      omega

/-- A character comes from one unit or two. -/
theorem proper_decode (units : List Unit16) : Row.Proper (decode units) := by
  induction units using decode_induction with
  | nil => simp [Row.Proper]
  | alone u rest hdec _ ih => simpa [hdec, Row.Proper] using ih
  | pair u v rest _ _ hdec ih => simpa [hdec, Row.Proper] using ih

/-- A unit goes to its character's bytes and back to itself, unless it is the second of a pair:
then it goes to the first. -/
theorem unitOf_byteOf_decode (units : List Unit16) {u : Nat} (hu : u ≤ units.length) :
    Row.unitOf (decode units) (Row.byteOf (decode units) u) =
      if splitsPair units u then u - 1 else u := by
  induction units using decode_induction generalizing u with
  | nil =>
      obtain rfl : u = 0 := by simpa using hu
      simp [Row.byteOf, Row.unitOf, splitsPair]
  | alone x rest hdec hx ih =>
      rw [hdec]
      cases u with
      | zero => exact Row.unitOf_cons_zero _ _
      | succ u =>
          rw [Nat.add_comm u 1, Row.byteOf_cons_add, Row.unitOf_cons_add,
            ih (by simpa using hu), Nat.add_comm 1 u, splitsPair_alone hx]
          split
          · next h =>
            have := pos_of_splitsPair h
            omega
          · omega
  | pair x y rest hx hy hdec ih =>
      rw [hdec]
      cases u with
      | zero => exact Row.unitOf_cons_zero _ _
      | succ u =>
          cases u with
          | zero =>
              have hsplit : splitsPair (x :: y :: rest) 1 = true := by simp [splitsPair, hx, hy]
              rw [Row.byteOf_cons_of_lt (by omega), Row.unitOf_cons_zero, if_pos hsplit]
          | succ u =>
              rw [Nat.add_assoc, Nat.add_comm u 2, Row.byteOf_cons_add, Row.unitOf_cons_add,
                ih (by simpa using hu), Nat.add_comm 2 u, splitsPair_pair hy]
              split
              · next h =>
                have := pos_of_splitsPair h
                omega
              · omega

/-! ## ASCII -/

/-- A character that stands alone takes one byte exactly if its unit is below 0x80. -/
theorem utf8Size_single {u : Unit16} : (single u).utf8Size = 1 ↔ u < 0x80 := by
  rw [Char.utf8Size_eq_one_iff, UInt16.lt_iff_toNat_lt, UInt32.le_iff_toNat_le]
  have hlimit : (0x80 : Unit16).toNat = 0x80 := rfl
  have hlast : (127 : UInt32).toNat = 127 := rfl
  cases h : u.isHigh || u.isLow with
  | true =>
      have hge := (isSurrogate_iff u).mp h
      rw [single, h, if_pos rfl]
      exact ⟨fun hr => absurd hr (by decide), fun hu => by omega⟩
  | false =>
      have hval : (single u).val.toNat = u.toNat := toNat_single h
      rw [hval]
      omega

/-- A pair begins with a unit that is not below 0x80. -/
theorem le_of_isHigh {u : Unit16} (h : u.isHigh = true) : 0x80 ≤ u := by
  simp only [isHigh, Bool.and_eq_true, decide_eq_true_eq] at h
  exact UInt16.le_trans (by decide) h.1

/-- Plain characters in front come from units below 0x80. -/
theorem ascii_of_plain (units : List Unit16) {pre rest : Row} (hdec : decode units = pre ++ rest)
    (hpre : ∀ c ∈ pre, Row.IsPlain c) {i : Nat} (hi : i < pre.length) :
    ∃ u, units[i]? = some u ∧ u < 0x80 := by
  induction units using decode_induction generalizing pre i with
  | nil =>
      have : pre = [] := by simp_all
      simp [this] at hi
  | alone u us hcons _ ih =>
      cases pre with
      | nil => simp at hi
      | cons d pre =>
          rw [hcons, List.cons_append, List.cons.injEq] at hdec
          obtain ⟨rfl, hdec⟩ := hdec
          cases i with
          | zero => exact ⟨u, rfl, utf8Size_single.mp (hpre (single u, 1) (by simp)).1⟩
          | succ i =>
              obtain ⟨v, hv, hlt⟩ := ih hdec (fun c hc => hpre c (by simp [hc]))
                (Nat.lt_of_succ_lt_succ hi)
              exact ⟨v, by simpa using hv, hlt⟩
  | pair u v us _ _ hcons _ =>
      cases pre with
      | nil => simp at hi
      | cons d pre =>
          rw [hcons, List.cons_append, List.cons.injEq] at hdec
          have hwidth := (hpre d (by simp)).2
          rw [← hdec.1] at hwidth
          cases hwidth

/-- Behind plain characters, one that is not plain begins with a unit from 0x80 on. -/
theorem not_ascii_of_not_plain (units : List Unit16) {pre rest : Row} {c : Char × Nat}
    (hdec : decode units = pre ++ c :: rest) (hpre : ∀ c ∈ pre, Row.IsPlain c)
    (hc : ¬Row.IsPlain c) : ∃ u, units[pre.length]? = some u ∧ 0x80 ≤ u := by
  induction units using decode_induction generalizing pre with
  | nil => simp at hdec
  | alone u us hcons _ ih =>
      cases pre with
      | nil =>
          rw [hcons, List.nil_append, List.cons.injEq] at hdec
          refine ⟨u, rfl, UInt16.not_lt.mp fun hlt => hc ?_⟩
          rw [← hdec.1]
          exact ⟨utf8Size_single.mpr hlt, rfl⟩
      | cons d pre =>
          rw [hcons, List.cons_append, List.cons.injEq] at hdec
          obtain ⟨v, hv, hle⟩ := ih hdec.2 fun c hc => hpre c (by simp [hc])
          exact ⟨v, by simpa using hv, hle⟩
  | pair u v us hu _ hcons _ =>
      cases pre with
      | nil => exact ⟨u, rfl, le_of_isHigh hu⟩
      | cons d pre =>
          rw [hcons, List.cons_append, List.cons.injEq] at hdec
          have hwidth := (hpre d (by simp)).2
          rw [← hdec.1] at hwidth
          cases hwidth

end Unit16

end Leftmost
