import Leftmost.Region
import Mathlib.Algebra.Group.Nat.Defs

/-!
# Leftmost.Proofs.Flattened

A region in one row.  The row has two offsets for each group, so that groups and offsets tell the
same.  Only where a group is asked for by its number, the place of its offsets is computed in 64
bits, and from `2 ^ 63` on there is no such place, and no answer either:

* `group?_ofRegion` — which group is found under a number;
* `group?_of_le` — and from which number on the program stops;
* `tells_ofGroups` — hence what a row tells of the groups, and which numbers it can be asked for;
* `ofHandedOver_handOver` — what is handed over of a row is enough to have the row again.
-/

namespace Leftmost

/-- The bounds of a group that exists. -/
theorem Region.getElem?_bounds (r : Region) {g : Nat} (h : g < r.groupCount) :
    r.bounds.toList[g]? = some (r.bound g) := by
  have hlt : g < r.bounds.size := h
  simp [Region.bound, hlt]

namespace FlatMatch

/-! ## The row -/

theorem isMatch_ofRegion {r : Region} (h : 0 < r.groupCount) (index : Nat) :
    (ofRegion r index).isMatch = true := by
  obtain ⟨⟨bounds⟩⟩ := r
  cases bounds with
  | nil => simp [Region.groupCount] at h
  | cons b bounds => simp [isMatch, ofRegion]

theorem bounds_eq_map (r : Region) :
    r.bounds.toList = (List.range r.groupCount).map r.bound := by
  refine List.ext_getElem (by simp [Region.groupCount]) fun g h _ => ?_
  rw [Array.length_toList] at h
  simp [Region.bound, h]

/-- A flat match lists where each group begins and ends, group 0 first. -/
theorem offsets_ofRegion (r : Region) (index : Nat) : (ofRegion r index).offsets.toList =
    (List.range r.groupCount).flatMap fun g => [r.first g, r.last g] := by
  simp only [ofRegion, bounds_eq_map r, List.flatMap_map]
  rfl

/-- There are two offsets for each group. -/
theorem size_offsets_ofRegion (r : Region) (index : Nat) :
    (ofRegion r index).offsets.size = 2 * r.groupCount := by
  rw [← Array.length_toList, offsets_ofRegion, List.length_flatMap]
  change ((List.range r.groupCount).map fun _ => 2).sum = 2 * r.groupCount
  rw [List.map_const', List.sum_replicate_nat, List.length_range, Nat.mul_comm]

theorem groupCount_ofRegion (r : Region) (index : Nat) :
    (ofRegion r index).groupCount = r.groupCount := by
  rw [groupCount, size_offsets_ofRegion]
  exact Nat.mul_div_cancel_left _ (by decide)

/-- A row is asked for two offsets at a time. -/
theorem getElem?_flatMap_bounds (bounds : List (Offset × Offset)) (g : Nat) :
    (bounds.flatMap fun (first, last) => [first, last])[2 * g]? = bounds[g]?.map Prod.fst ∧
    (bounds.flatMap fun (first, last) => [first, last])[2 * g + 1]? =
      bounds[g]?.map Prod.snd := by
  induction bounds generalizing g with
  | nil => simp
  | cons b bounds ih =>
      cases g with
      | zero => simp
      | succ g => simpa [Nat.mul_succ] using ih g

/-! ## Groups by their numbers -/

/-- Below `2 ^ 63` the place of a group can be computed, -/
theorem exists_mul_two {g : UInt64} (hg : g.toNat < 2 ^ 63) :
    ∃ place, Checked.mul g 2 = .ok place ∧ place.toNat = 2 * g.toNat := by
  have hfits : g.toNat * (2 : UInt64).toNat < UInt64.size := by
    change g.toNat * 2 < 2 ^ 64
    omega
  obtain ⟨place, hmul, hplace⟩ := Checked.mul_of_lt hfits
  exact ⟨place, hmul, hplace.trans (Nat.mul_comm g.toNat 2)⟩

/-- and so can the one behind it, because it is even. -/
theorem exists_add_one {place : UInt64} {g : Nat} (hplace : place.toNat = 2 * g) :
    ∃ next, Checked.add place 1 = .ok next ∧ next.toNat = 2 * g + 1 := by
  have hlt := place.toNat_lt
  have hfits : place.toNat + (1 : UInt64).toNat < UInt64.size := by
    change place.toNat + 1 < 2 ^ 64
    omega
  obtain ⟨next, hadd, hnext⟩ := Checked.add_of_lt hfits
  exact ⟨next, hadd, hnext.trans (congrArg (· + 1) hplace)⟩

/-- Below `2 ^ 63` the group is found that has the number. -/
theorem group?_ofRegion (r : Region) (index : Nat) {g : UInt64} (hg : g.toNat < 2 ^ 63) :
    (ofRegion r index).group? g = .ok r.bounds.toList[g.toNat]? := by
  obtain ⟨place, hmul, hplace⟩ := exists_mul_two hg
  obtain ⟨next, hadd, hnext⟩ := exists_add_one hplace
  obtain ⟨hfirst, hlast⟩ := getElem?_flatMap_bounds r.bounds.toList g.toNat
  simp only [group?, ofRegion, hmul, hadd, hplace, hnext, List.getElem?_toArray, hfirst, hlast,
    bind, Except.bind, pure, Except.pure]
  cases r.bounds.toList[g.toNat]? <;> rfl

/-- From `2 ^ 63` on the program stops. -/
theorem group?_of_le (m : FlatMatch) {g : UInt64} (hg : 2 ^ 63 ≤ g.toNat) :
    m.group? g = .error .product := by
  have hover : UInt64.size ≤ g.toNat * (2 : UInt64).toNat := by
    change 2 ^ 64 ≤ g.toNat * 2
    omega
  rw [group?, Checked.mul_of_le hover]
  rfl

/-- Under a number the group is found that has it in a list of groups, and nothing if none has. -/
structure Addresses (m : FlatMatch) (groups : List (Option (Offset × Offset))) (g : UInt64) :
    Prop where
  found : ∀ group, groups[g.toNat]? = some group →
    m.group? g = .ok (some (Region.boundsOf group))
  absent : groups.length ≤ g.toNat → m.group? g = .ok none

theorem addresses_iff_getElem? {m : FlatMatch} {groups : List (Option (Offset × Offset))}
    {g : UInt64} :
    Addresses m groups g ↔ m.group? g = .ok (groups[g.toNat]?.map Region.boundsOf) := by
  cases hg : groups[g.toNat]? with
  | none =>
      have hle : groups.length ≤ g.toNat := List.getElem?_eq_none_iff.mp hg
      exact ⟨fun h => h.absent hle, fun h => ⟨by simp [hg], fun _ => h⟩⟩
  | some group =>
      have hlt : g.toNat < groups.length := (List.getElem?_eq_some_iff.mp hg).1
      refine ⟨fun h => h.found group hg, fun h => ⟨fun other hother => ?_, by omega⟩⟩
      obtain rfl : group = other := Option.some.inj (hg.symm.trans hother)
      exact h

/-- The bounds of the groups of a list. -/
theorem getElem?_bounds_ofGroups (groups : List (Option (Offset × Offset))) (g : Nat) :
    (Region.ofGroups groups).bounds.toList[g]? = groups[g]?.map Region.boundsOf := by
  simp [Region.ofGroups]

/-- A number finds what the list has under it exactly if its place can be computed. -/
theorem addresses_ofGroups_iff (groups : List (Option (Offset × Offset))) (index : Nat)
    (g : UInt64) : Addresses (ofRegion (.ofGroups groups) index) groups g ↔ g.toNat < 2 ^ 63 := by
  rw [addresses_iff_getElem?]
  constructor
  · refine fun h => Nat.lt_of_not_le fun hge => ?_
    rw [group?_of_le _ hge] at h
    cases h
  · intro hlt
    rw [group?_ofRegion _ _ hlt, getElem?_bounds_ofGroups]

/-- The numbers of the groups, in order, find the groups, in order. -/
theorem map_groups_ofRegion {r : Region} (hlen : r.groupCount ≤ 2 ^ 63) (index : Nat) :
    ((ofRegion r index).groups.map fun b => .ok (some b)) =
      (List.range r.groupCount).map fun g => (ofRegion r index).group? g.toUInt64 := by
  rw [groups_ofRegion, bounds_eq_map, List.map_map]
  refine List.map_congr_left fun g hg => ?_
  have hlt : g < r.groupCount := List.mem_range.mp hg
  have hword : g.toUInt64.toNat = g :=
    UInt64.toNat_ofNat_of_lt' (Nat.lt_of_lt_of_le hlt (Nat.le_trans hlen (by decide)))
  have hplace : g.toUInt64.toNat < 2 ^ 63 := by omega
  rw [group?_ofRegion r index hplace, hword, r.getElem?_bounds hlt, Function.comp_apply]

/-- A flat match as it is asked for its groups, beside the list of groups it was made of. -/
structure Tells (m : FlatMatch) (listed : List (Option (Offset × Offset))) : Prop where
  groupCount : m.groupCount = listed.length
  /-- All groups at once are those of the list, -/
  groups : m.groups = listed.map Region.boundsOf
  /-- and those found under the numbers below their count. -/
  map_groups : (m.groups.map fun b => .ok (some b)) =
    (List.range m.groupCount).map fun g => m.group? g.toUInt64
  /-- A number is good below `2 ^ 63` and not from there on, -/
  addresses_iff : ∀ g : UInt64, Addresses m listed g ↔ g.toNat < 2 ^ 63
  /-- where the program stops. -/
  stops : ∀ g : UInt64, 2 ^ 63 ≤ g.toNat → m.group? g = .error .product

/-- A list of groups that has no more than `2 ^ 63`, as any in memory, is told by its flat match,
under all numbers whose place can be computed. -/
theorem tells_ofGroups {groups : List (Option (Offset × Offset))} (hlen : groups.length ≤ 2 ^ 63)
    (index : Nat) : Tells (ofRegion (.ofGroups groups) index) groups where
  groupCount := by rw [groupCount_ofRegion, Region.groupCount_ofGroups]
  groups := by simp [groups_ofRegion, Region.ofGroups]
  map_groups := by
    rw [groupCount_ofRegion]
    exact map_groups_ofRegion (by rwa [Region.groupCount_ofGroups]) index
  addresses_iff := addresses_ofGroups_iff groups index
  stops _ hg := group?_of_le _ hg

/-- Three groups, the last of which took no part. -/
theorem tells_three :
    [some ((1 : Offset), (6 : Offset)), some (1, 3), none].length ≤ 2 ^ 63 ∧
    Tells (ofRegion (.ofGroups [some (1, 6), some (1, 3), none]) 4)
      [some (1, 6), some (1, 3), none] :=
  ⟨by decide, tells_ofGroups (by decide) 4⟩

/-- Asked for the number `2 ^ 63`, which the one group does not have, the program stops. -/
theorem stops_under_absent_number :
    [some ((1 : Offset), (6 : Offset))].length ≤ (9223372036854775808 : UInt64).toNat ∧
    (ofRegion (.ofGroups [some (1, 6)]) 0).group? 9223372036854775808 = .error .product ∧
    ¬Addresses (ofRegion (.ofGroups [some (1, 6)]) 0) [some (1, 6)] 9223372036854775808 := by
  have habsent : [some ((1 : Offset), (6 : Offset))].length ≤
      (9223372036854775808 : UInt64).toNat := by decide
  have hstops : (ofRegion (.ofGroups [some (1, 6)]) 0).group? 9223372036854775808 =
      .error .product := group?_of_le _ (by decide)
  refine ⟨habsent, hstops, fun h => ?_⟩
  cases hstops.symm.trans (h.absent habsent)

/-! ## Handing over -/

/-- What a caller has of a position, the offsets there are, and their number. -/
def ofHandedOver : Nat × Option (Array Offset) × Nat → FlatMatch
  | (_, none, _) => .noMatch
  | (index, some offsets, n) => ⟨index, offsets.extract 0 n⟩

/-- A match hands over what it is. -/
theorem handOver_of_isMatch {m : FlatMatch} (h : m.isMatch = true) :
    m.handOver = (m.index, some m.offsets, m.offsets.size) := by
  have hne : m.offsets.isEmpty = false := by simpa [isMatch] using h
  simp [handOver, hne]

/-- A region that has groups hands over its offsets, two for each group. -/
theorem handOver_ofRegion {r : Region} (h : 0 < r.groupCount) (index : Nat) :
    (ofRegion r index).handOver = (index, some (ofRegion r index).offsets, 2 * r.groupCount) := by
  rw [handOver_of_isMatch (isMatch_ofRegion h index), size_offsets_ofRegion]
  rfl

/-- The caller has a match again, and no match where nothing was handed over. -/
theorem ofHandedOver_handOver {m : FlatMatch} (h : m.isMatch = true ∨ m = .noMatch) :
    ofHandedOver m.handOver = m := by
  rcases h with hmatch | rfl
  · rw [handOver_of_isMatch hmatch, ofHandedOver, Array.extract_size]
  · rfl

end FlatMatch

end Leftmost
