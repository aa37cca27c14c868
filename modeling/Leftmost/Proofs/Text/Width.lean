import Leftmost.Proofs.Text.Mended

/-!
# Leftmost.Proofs.Text.Width

Texts of any size.  An entry of the table has 32 bits, and a character that begins further behind the
table's start than they can tell gets what is left of the distance:

* `LaidOut.inReach_iff` — which characters are too far, told from the table's start;
* `LaidOut.byteOffset_of_inReach` — where none is, the map to bytes is that of the row;
* `LaidOut.byteOffset_lt_of_crossing` — the first that is goes in front of the one before it;
* `trueOffsets_iff` — so the map keeps what it promises exactly if no character is too far;
* `wraps_to_front` — a text with one that is.
-/

namespace Leftmost

namespace Row

/-- No character begins further behind one that is not plain than an entry can tell. -/
def InReach (cs : Row) : Prop :=
  ∀ i c, cs[i]? = some c → ¬IsPlain c → ∀ j < cs.length,
    byteLength (cs.take j) < byteLength (cs.take i) + UInt32.size

/-! ## Characters and their units -/

/-- Characters that reach a place cross it with one of them. -/
theorem exists_crossing {cs : Row} {x n : Nat} (hpos : 0 < x) (hx : x ≤ byteLength (cs.take n)) :
    ∃ j < n, byteLength (cs.take j) < x ∧ x ≤ byteLength (cs.take (j + 1)) := by
  induction n with
  | zero =>
      rw [List.take_zero, byteLength_nil] at hx
      omega
  | succ n ih =>
      by_cases hn : x ≤ byteLength (cs.take n)
      · obtain ⟨j, hj, hcross⟩ := ih hn
        exact ⟨j, by omega, hcross⟩
      · exact ⟨n, Nat.lt_succ_self n, Nat.lt_of_not_le hn, hx⟩

namespace HoldsUnit

variable {cs : Row} {j u : Nat} (h : HoldsUnit cs j u)
include h

theorem lt_length : j < cs.length := by
  obtain ⟨hlo, hhi⟩ := h
  by_contra hj
  rw [List.take_of_length_le (by omega)] at hlo hhi
  omega

theorem lt_unitLength : u < unitLength cs := by
  have hle := unitLength_take_le cs (show j + 1 ≤ cs.length from h.lt_length)
  rw [List.take_length] at hle
  exact Nat.lt_of_lt_of_le h.2 hle

/-- A unit belongs to one character only. -/
theorem unique {i : Nat} (hi : HoldsUnit cs i u) : i = j := by
  obtain ⟨hlo, hhi⟩ := h
  obtain ⟨hlo', hhi'⟩ := hi
  rcases Nat.lt_trichotomy i j with hlt | heq | hgt
  · have := unitLength_take_le cs (show i + 1 ≤ j from hlt)
    omega
  · exact heq
  · have := unitLength_take_le cs (show j + 1 ≤ i from hgt)
    omega

/-- It goes to where that character begins. -/
theorem byteOf_eq : byteOf cs u = byteLength (cs.take j) := by
  obtain ⟨i, hi, heq⟩ := Row.byteOf_eq h.lt_unitLength
  rw [heq, h.unique hi]

end HoldsUnit

/-- A character has a first unit. -/
theorem holdsUnit_first {cs : Row} (hcs : Proper cs) {j : Nat} (hj : j < cs.length) :
    HoldsUnit cs j (unitLength (cs.take j)) := by
  have hw := hcs cs[j] (List.getElem_mem hj)
  refine ⟨Nat.le_refl _, ?_⟩
  rw [List.take_add_one, List.getElem?_eq_getElem hj, unitLength_append]
  simp
  omega

/-- Characters one behind the other begin so in bytes, too. -/
theorem byteLength_take_lt {cs : Row} {i j : Nat} (hij : i < j) (hi : i < cs.length) :
    byteLength (cs.take i) < byteLength (cs.take j) := by
  have hpos := cs[i].1.utf8Size_pos
  have hnext := byteLength_take_succ hi
  have hle := byteLength_take_le cs (show i + 1 ≤ j from hij)
  omega

end Row

namespace IndexedText

open Row

namespace LaidOut

variable {t : IndexedText} {cs : Row} (h : LaidOut t cs)
include h

theorem proper : Proper cs := by
  cases h with
  | plain hcs => exact fun c hc => .inl (hcs c hc).2
  | wide hpre _ hrest => 
      intro c hc
      rcases List.mem_append.mp hc with hc | hc
      · exact .inl (hpre c hc).2
      · exact hrest c hc

/-! ## The distance from the table's start -/

/-- A table starts at a character that is not plain, the first of its kind. -/
theorem starts_at_first_not_plain {table : Array UInt32} (ht : t.table = some table) :
    byteLength (cs.take t.tableStart) = t.tableStart ∧
      (∃ c, cs[t.tableStart]? = some c ∧ ¬IsPlain c) ∧
      ∀ i c, cs[i]? = some c → ¬IsPlain c → t.tableStart ≤ i := by
  cases h with
  | plain => cases ht
  | @wide units pre rest c hpre hc =>
      refine ⟨?_, ⟨c, by simp, hc⟩, fun i d hd hplain => ?_⟩
      · simpa using byteLength_of_plain hpre
      · by_contra hlt
        have hlt : i < pre.length := Nat.lt_of_not_le hlt
        rw [List.getElem?_append_left hlt] at hd
        exact hplain (hpre d (List.mem_of_getElem? hd))

/-- All characters are in reach if they are from the table's start. -/
theorem inReach_iff {table : Array UInt32} (ht : t.table = some table) :
    InReach cs ↔ ∀ j < cs.length, byteLength (cs.take j) < t.tableStart + UInt32.size := by
  obtain ⟨hstart, ⟨c, hc, hplain⟩, hfirst⟩ := h.starts_at_first_not_plain ht
  constructor
  · intro hr j hj
    have := hr _ c hc hplain j hj
    rwa [hstart] at this
  · intro hall i d hd hd' j hj
    have hle := byteLength_take_le cs (hfirst i d hd hd')
    have := hall j hj
    omega

/-- With all characters in reach the map to bytes is that of the row. -/
theorem byteOffset_of_inReach (hr : InReach cs) (u : Nat) : t.byteOffset u = byteOf cs u := by
  cases ht : t.table with
  | none => exact h.byteOffset_of_front (.inl ht)
  | some table =>
      refine h.byteOffset_eq_byteOf fun hu => ?_
      obtain ⟨j, hj, heq⟩ := Row.byteOf_eq (h.size_eq ▸ hu)
      rw [heq]
      exact (h.inReach_iff ht).mp hr j hj.lt_length

/-- Units in front of a table's start go to bytes in front of it. -/
theorem byteOf_lt_of_lt_tableStart {u : Nat} (hu : u < t.tableStart) :
    byteOf cs u < t.tableStart := by
  cases h with
  | plain => exact absurd hu (Nat.not_lt_zero u)
  | wide hpre _ hrest => rwa [byteOf_append_of_plain hpre hrest (Nat.le_of_lt hu)]

/-- The first character out of reach goes to a byte in front of the one before it. -/
theorem byteOffset_lt_of_crossing {table : Array UInt32} (ht : t.table = some table) {j : Nat}
    (hj : j + 1 < cs.length) (hbefore : byteLength (cs.take j) < t.tableStart + UInt32.size)
    (hbehind : t.tableStart + UInt32.size ≤ byteLength (cs.take (j + 1))) :
    t.byteOffset (unitLength (cs.take (j + 1))) < t.byteOffset (unitLength (cs.take j)) := by
  have hsize : UInt32.size = 4294967296 := rfl
  have hu := holdsUnit_first h.proper (show j < cs.length by omega)
  have hv := holdsUnit_first h.proper hj
  -- The one before is told truly, the other by what is left of its distance.
  have htrue : t.byteOffset (unitLength (cs.take j)) = byteLength (cs.take j) := by
    rw [h.byteOffset_eq_byteOf (fun _ => by rwa [hu.byteOf_eq]), hu.byteOf_eq]
  have hstart : t.tableStart ≤ unitLength (cs.take (j + 1)) := by
    by_contra hlt
    have := h.byteOf_lt_of_lt_tableStart (Nat.lt_of_not_le hlt)
    rw [hv.byteOf_eq] at this
    omega
  have hleft := (h.byteOffset_of_table ht hstart (h.size_eq ▸ hv.lt_unitLength)).2
  rw [hv.byteOf_eq] at hleft
  have hstep := byteLength_take_succ (show j < cs.length by omega)
  have hfour := cs[j].1.utf8Size_le_four
  rw [htrue, hleft, hsize]
  omega

/-- A map that never goes back has all characters in reach. -/
theorem inReach_of_monotone (hmono : Monotone t.byteOffset) : InReach cs := by
  cases ht : t.table with
  | none =>
      intro i c hc hplain
      have hsome := h.isSome_table_iff.mpr ⟨c, List.mem_of_getElem? hc, hplain⟩
      rw [ht] at hsome
      cases hsome
  | some table =>
      rw [h.inReach_iff ht]
      intro n hn
      by_contra hfar
      have hpos : 0 < t.tableStart + UInt32.size := Nat.lt_add_left _ (by decide)
      obtain ⟨j, hjn, hbefore, hbehind⟩ := exists_crossing hpos (Nat.le_of_not_lt hfar)
      have hback := h.byteOffset_lt_of_crossing ht (show j + 1 < cs.length by omega) hbefore hbehind
      have hforth := hmono (unitLength_take_le cs (Nat.le_add_right j 1))
      omega

end LaidOut

/-! ## Texts of any size -/

/-- The map to bytes is true to characters. -/
structure TrueOffsets (t : IndexedText) (cs : Row) : Prop where
  /-- The table holds where characters begin. -/
  entries : ∀ table, t.table = some table → ∀ u, t.tableStart ≤ u → u < t.size →
    ∃ j, HoldsUnit cs j u ∧
      entry table (u - t.tableStart) + t.tableStart = byteLength (cs.take j)
  monotone : Monotone t.byteOffset
  /-- Units of different characters go to different bytes. -/
  separates : ∀ i j u v, HoldsUnit cs i u → HoldsUnit cs j v → i ≠ j →
    t.byteOffset u ≠ t.byteOffset v

theorem byteOffset_eq_entry {t : IndexedText} {table : Array UInt32} (ht : t.table = some table)
    {u : Nat} (hle : t.tableStart ≤ u) (hlt : u < t.size) :
    t.byteOffset u = entry table (u - t.tableStart) + t.tableStart := by
  rw [byteOffset, if_neg (show ¬t.units.size ≤ u from Nat.not_le_of_lt hlt), ht]
  simp only [if_pos hle]

/-- The map to bytes is true exactly if all characters are in reach. -/
theorem trueOffsets_iff (units : Array Unit16) :
    TrueOffsets (ofUnits units) (Unit16.decode units.toList) ↔
      InReach (Unit16.decode units.toList) := by
  have h := laidOut_ofUnits units
  constructor
  · intro htrue
    exact h.inReach_of_monotone htrue.monotone
  · intro hr
    have hbyte := h.byteOffset_of_inReach hr
    refine ⟨fun table ht u hle hlt => ?_, fun u v huv => ?_, fun i j u v hu hv hij heq => ?_⟩
    · obtain ⟨j, hj, heq⟩ := Row.byteOf_eq (h.size_eq ▸ hlt)
      exact ⟨j, hj, by rw [← byteOffset_eq_entry ht hle hlt, hbyte, heq]⟩
    · rw [hbyte, hbyte]
      exact monotone_byteOf _ huv
    · rw [hbyte, hbyte, hu.byteOf_eq, hv.byteOf_eq] at heq
      rcases Nat.lt_or_gt_of_ne hij with hlt | hgt
      · have := byteLength_take_lt hlt hu.lt_length
        omega
      · have := byteLength_take_lt hgt hv.lt_length
        omega

/-! ## A character out of reach -/

/-- So many characters of three bytes, and two of one. -/
def wideThenPlain (n : Nat) : Array Unit16 := .replicate n 0xffff ++ #[0x61, 0x62]

/-- The characters that they are. -/
def wideThenPlainRow (n : Nat) : Row := List.replicate n ('\uffff', 1) ++ [('a', 1), ('b', 1)]

theorem decode_wideThenPlain (n : Nat) :
    Unit16.decode (wideThenPlain n).toList = wideThenPlainRow n := by
  have hlist : (wideThenPlain n).toList = List.replicate n 0xffff ++ [0x61, 0x62] := by
    simp [wideThenPlain]
  rw [hlist, wideThenPlainRow]
  clear hlist
  induction n with
  | zero => decide
  | succ n ih =>
      rw [List.replicate_succ, List.cons_append, Unit16.decode_cons (by decide), ih]
      rfl

theorem take_wideThenPlainRow (n : Nat) :
    (wideThenPlainRow n).take (n + 1) = List.replicate n ('\uffff', 1) ++ [('a', 1)] := by
  simp [wideThenPlainRow, List.take_append]

theorem byteLength_replicate (c : Char × Nat) (n : Nat) :
    byteLength (List.replicate n c) = n * c.1.utf8Size := by
  induction n with
  | zero => simp
  | succ n ih => rw [List.replicate_succ, byteLength_cons, ih, Nat.succ_mul, Nat.add_comm]

theorem unitLength_replicate (c : Char × Nat) (n : Nat) :
    unitLength (List.replicate n c) = n * c.2 := by
  induction n with
  | zero => simp
  | succ n ih => rw [List.replicate_succ, unitLength_cons, ih, Nat.succ_mul, Nat.add_comm]

theorem byteLength_take_wideThenPlainRow (n : Nat) :
    byteLength ((wideThenPlainRow n).take (n + 1)) = 3 * n + 1 := by
  have hthree : ('\uffff' : Char).utf8Size = 3 := by decide
  rw [take_wideThenPlainRow, byteLength_append, byteLength_replicate, hthree, Nat.mul_comm]
  rfl

theorem unitLength_take_wideThenPlainRow (n : Nat) :
    unitLength ((wideThenPlainRow n).take (n + 1)) = n + 1 := by
  rw [take_wideThenPlainRow, unitLength_append, unitLength_replicate, Nat.mul_one]
  rfl

/-- The first character is not plain, so the table starts with it. -/
theorem starts_wideThenPlain (n : Nat) : ∃ table,
    (ofUnits (wideThenPlain (n + 1))).table = some table ∧
      (ofUnits (wideThenPlain (n + 1))).tableStart = 0 := by
  have h := laidOut_ofUnits (wideThenPlain (n + 1))
  rw [decode_wideThenPlain] at h
  have hhead : (wideThenPlainRow (n + 1))[0]? = some ('\uffff', 1) := rfl
  have hwide : ¬IsPlain ('\uffff', 1) := fun hp => absurd hp.1 (by decide)
  obtain ⟨table, ht⟩ := Option.isSome_iff_exists.mp
    (h.isSome_table_iff.mpr ⟨_, List.mem_of_getElem? hhead, hwide⟩)
  exact ⟨table, ht, Nat.le_zero.mp ((h.starts_at_first_not_plain ht).2.2 0 _ hhead hwide)⟩

/-- With as many characters as take up all values of an entry but one, the last unit goes where the
first goes. -/
theorem byteOffset_wideThenPlain {n : Nat} (hn : 3 * n + 1 = UInt32.size) :
    ¬Monotone (ofUnits (wideThenPlain n)).byteOffset ∧
      HoldsUnit (Unit16.decode (wideThenPlain n).toList) 0 0 ∧
      HoldsUnit (Unit16.decode (wideThenPlain n).toList) (n + 1) (n + 1) ∧
      (ofUnits (wideThenPlain n)).byteOffset (n + 1) =
        (ofUnits (wideThenPlain n)).byteOffset 0 := by
  have hsize : UInt32.size = 4294967296 := rfl
  obtain ⟨m, rfl⟩ : ∃ m, n = m + 1 := ⟨n - 1, by omega⟩
  obtain ⟨table, ht, hstart⟩ := starts_wideThenPlain m
  have h := laidOut_ofUnits (wideThenPlain (m + 1))
  rw [decode_wideThenPlain] at h ⊢
  have hlength : (wideThenPlainRow (m + 1)).length = m + 3 := by simp [wideThenPlainRow]
  have hbyte : byteLength ((wideThenPlainRow (m + 1)).take (m + 2)) = UInt32.size :=
    (byteLength_take_wideThenPlainRow (m + 1)).trans hn
  have hfirst : HoldsUnit (wideThenPlainRow (m + 1)) 0 0 :=
    holdsUnit_first h.proper (show 0 < _ by omega)
  have hlast : HoldsUnit (wideThenPlainRow (m + 1)) (m + 2) (m + 2) := by
    have := holdsUnit_first h.proper (show m + 2 < _ by omega)
    rwa [unitLength_take_wideThenPlainRow] at this
  refine ⟨fun hmono => ?_, hfirst, hlast, ?_⟩
  · have := (h.inReach_iff ht).mp (h.inReach_of_monotone hmono) (m + 2) (by omega)
    omega
  · have hleft := (h.byteOffset_of_table ht (u := m + 2) (by omega)
      (h.size_eq ▸ hlast.lt_unitLength)).2
    have hzero := (h.byteOffset_of_table ht (u := 0) (by omega)
      (h.size_eq ▸ hfirst.lt_unitLength)).2
    rw [hleft, hzero, hlast.byteOf_eq, hfirst.byteOf_eq, hbyte, hstart, List.take_zero,
      byteLength_nil, Nat.sub_zero, Nat.mod_self, Nat.sub_zero, Nat.zero_mod]

/-- A text with a character out of reach. -/
theorem wraps_to_front :
    ¬Monotone (ofUnits (wideThenPlain 1431655765)).byteOffset ∧
      HoldsUnit (Unit16.decode (wideThenPlain 1431655765).toList) 0 0 ∧
      HoldsUnit (Unit16.decode (wideThenPlain 1431655765).toList) 1431655766 1431655766 ∧
      (ofUnits (wideThenPlain 1431655765)).byteOffset 1431655766 =
        (ofUnits (wideThenPlain 1431655765)).byteOffset 0 :=
  byteOffset_wideThenPlain (n := 1431655765) rfl

end IndexedText

end Leftmost
